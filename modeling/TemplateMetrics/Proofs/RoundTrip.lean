import TemplateMetrics.Proofs.Height
import TemplateMetrics.Proofs.Ladder
import TemplateMetrics.Proofs.Lexing

/-!
Reading what has been written.

An expression is read back from its tokens if enough nesting is left: two levels for each level of
its height, one for the parentheses around a part and one for the place where the part stands.
-/

namespace TemplateMetrics.Syntax

variable {ts rest r r' : Tokens} {e : Node} {room k : Nat} {inlineIf : Bool}

/-! ### Parts -/

lemma fronts_enclosed {opening closing : Punct} {ls : List Lexeme}
    (h : Fronts (tokensOf (enclosed opening closing ls)) ts rest) :
    ∃ p q r, ts = ⟨.punct opening, p⟩ :: r ∧
      Fronts (tokensOf ls) r (⟨.punct closing, q⟩ :: rest) := by
  simp only [enclosed, tokensOf_cons, tokensOf_append, Lexeme.token?, Option.toList_some,
    tokensOf_nil, List.singleton_append, List.append_nil] at h
  obtain _ | ⟨p, h⟩ := h
  obtain ⟨middle, hls, hclose⟩ := h.split
  obtain _ | ⟨q, hnil⟩ := hclose
  obtain ⟨⟩ := hnil
  exact ⟨p, q, _, rfl, hls⟩

lemma rank_peek {t : Token} {q : Position} (h : k < t.rank) : k < (peek (⟨t, q⟩ :: r)).rank := h

lemma Fronts.rank {t : Token} {toks : List Token} (h : Fronts (t :: toks) r r') (ht : k < t.rank) :
    k < (Syntax.peek r).rank :=
  h.peek.symm ▸ ht

lemma expectPunct_cons (p : Punct) (q : Position) (r : Tokens) :
    expectPunct p (⟨.punct p, q⟩ :: r) = .ok r := by
  simp [expectPunct, eatPunct?, isPunct, peek]

lemma eatPunct?_cons (p : Punct) (q : Position) (r : Tokens) :
    eatPunct? p (⟨.punct p, q⟩ :: r) = some r := by
  simp [eatPunct?, isPunct, peek]

lemma eatName?_cons (s : String) (q : Position) (r : Tokens) :
    eatName? s (⟨.name s, q⟩ :: r) = some r := by
  simp [eatName?, isName, peek]

/-- A whole expression ends here: at its parenthesis or at the end of the output. -/
def Ends (ts : Tokens) : Prop := peek ts = .punct .closeParen ∨ peek ts = .outputEnd

lemma Ends.rank (h : Ends ts) : 10 < (peek ts).rank := by
  rcases h with h | h <;> rw [h] <;> decide

lemma Ends.ne (h : Ends ts) {t : Token} (hparen : t ≠ .punct .closeParen) (hend : t ≠ .outputEnd) :
    peek ts ≠ t := by
  rintro rfl
  exact h.elim hparen hend

/-- With so much nesting left an expression is read from its tokens, up to where it ends. -/
structure Reads (e : Node) (room : Nat) : Prop where
  height : e.height ≤ maxHeight
  read : ∀ inlineIf ts rest, Fronts (tokensOf (layout e)) ts rest → Ends rest →
    rung .start (level .start room) inlineIf 10 ts = .ok (e, rest)

lemma expr_of_rung {scope : Scope} (hheight : e.height ≤ maxHeight)
    (h : rung scope (level scope room) inlineIf 10 ts = .ok (e, rest)) :
    (level scope (room + 1)).expr inlineIf ts = .ok (e, rest) := by
  have hread : conditional scope (level scope room) inlineIf ts = .ok (e, rest) := h
  change bounded scope (level scope room) inlineIf ts = _
  rw [bounded, hread]
  exact if_neg (Nat.not_lt.2 hheight)

namespace Reads

lemma expr (h : Reads e room) (hts : Fronts (tokensOf (layout e)) ts rest) (hrest : Ends rest) :
    (level .start (room + 1)).expr inlineIf ts = .ok (e, rest) :=
  expr_of_rung h.height (h.read inlineIf ts rest hts hrest)

/-- A part in its parentheses is a primary. -/
lemma primary (h : Reads e room) (hts : Fronts (tokensOf (parens (layout e))) ts rest) :
    primary .start (level .start (room + 1)) inlineIf ts = .ok (e, rest) := by
  obtain ⟨p, q, r, rfl, hr⟩ := fronts_enclosed hts
  rw [Syntax.primary]
  simp only [h.expr hr (.inl rfl), bind, Except.bind, expectPunct_cons]
  rfl

/-- A part in its parentheses is an operand of every operator below the token behind it. -/
lemma operand (h : Reads e room) (hts : Fronts (tokensOf (parens (layout e))) ts rest)
    (hrest : k < (peek rest).rank) :
    rung .start (level .start (room + 1)) inlineIf k ts = .ok (e, rest) := by
  refine rung_of_primary (h.primary hts) hrest ?_
  obtain ⟨p, q, r, rfl, -⟩ := fronts_enclosed hts
  simp [peek]

/-- A part in its parentheses is an expression. -/
lemma part (h : Reads e room) (hts : Fronts (tokensOf (parens (layout e))) ts rest)
    (hrest : 10 < (peek rest).rank) :
    (level .start (room + 2)).expr inlineIf ts = .ok (e, rest) :=
  expr_of_rung h.height (h.operand hts hrest)

end Reads

/-! ### Lists of parts -/

/-- Items with commas between them are read up to the closing mark. Each starts with a parenthesis,
so that none is taken for that mark. -/
lemma closedList_commas {α : Type} {close : Punct} {item : Reader α} {lay : α → List Lexeme}
    {xs : List α} {q : Position} (hclose : 10 < close.rank) (hcomma : close ≠ .comma)
    (hlay : ∀ x ∈ xs, ∃ toks, tokensOf (lay x) = .punct .openParen :: toks)
    (hitem : ∀ x ∈ xs, ∀ ts rest, Fronts (tokensOf (lay x)) ts rest → 10 < (peek rest).rank →
      item ts = .ok (x, rest))
    (hts : Fronts (tokensOf (commas (xs.map lay))) ts (⟨.punct close, q⟩ :: rest)) :
    closedList close item ts = .ok (xs, rest) := by
  -- the induction leaves one round less than it found
  suffices hrounds : ∀ {n}, ts.length < n →
      rounds (closedRound close item) n () ts = .ok (xs, rest) from hrounds (Nat.lt_succ_self _)
  induction xs generalizing ts with
  | nil =>
    obtain ⟨⟩ := hts
    intro n hn
    obtain ⟨n, rfl⟩ : ∃ m, n = m + 1 := ⟨n - 1, by omega⟩
    simp only [rounds, closedRound, eatPunct?_cons]
  | cons x xs ih =>
    intro n hn
    obtain ⟨n, rfl⟩ : ∃ m, n = m + 1 := ⟨n - 1, by omega⟩
    have hfirst : ∀ {toks ts r}, Fronts (tokensOf (lay x) ++ toks) ts r →
        eatPunct? close ts = none := by
      intro toks ts r h
      obtain ⟨more, hmore⟩ := hlay x List.mem_cons_self
      rw [hmore] at h
      refine eatPunct?_of_ne (h.peek ▸ ?_)
      rintro ⟨⟩
      exact absurd hclose (by decide)
    have hread := hitem x List.mem_cons_self
    cases xs with
    | nil =>
      -- the last item stands right before the closing mark
      have hlast : eatPunct? .comma (⟨.punct close, q⟩ :: rest) = none :=
        eatPunct?_of_ne (by simpa [peek] using hcomma)
      have hone : Fronts (tokensOf (lay x) ++ []) ts (⟨.punct close, q⟩ :: rest) := by
        rw [List.append_nil]
        exact hts
      have hnone := hfirst hone
      rw [rounds]
      simp only [closedRound, hnone, hread ts _ hts hclose, bind, Except.bind, hlast,
        expectPunct_cons]
      rfl
    | cons y ys =>
      have hsplit : tokensOf (commas ((x :: y :: ys).map lay)) =
          tokensOf (lay x) ++ .punct .comma :: tokensOf (commas ((y :: ys).map lay)) := by
        simp [commas, Lexeme.token?]
      rw [hsplit] at hts
      have hnone := hfirst hts
      obtain ⟨middle, hx, hmiddle⟩ := hts.split
      obtain _ | ⟨p, hr⟩ := hmiddle
      have hlength := hx.length_le
      simp only [List.length_cons] at hlength
      have hmore : rounds (closedRound close item) n () _ = .ok (y :: ys, rest) :=
        ih (fun z hz => hlay z (List.mem_cons_of_mem _ hz))
          (fun z hz => hitem z (List.mem_cons_of_mem _ hz)) hr (by omega)
      rw [rounds]
      generalize rounds (closedRound close item) n = next at hmore
      simp only [closedRound, hnone, hread ts _ hx (rank_peek (by decide)), bind, Except.bind,
        eatPunct?_cons, hmore]
      rfl

lemma tokensOf_parens (ls : List Lexeme) :
    tokensOf (parens ls) = .punct .openParen :: (tokensOf ls ++ [.punct .closeParen]) := by
  simp [parens, enclosed, Lexeme.token?]

lemma callArgs_arguments {args : List Node} (hargs : ∀ a ∈ args, Reads a room)
    (hts : Fronts (tokensOf (arguments (args.map layout))) ts rest) :
    callArgs (level .start (room + 2)) ts = .ok (args, rest) := by
  obtain ⟨p, q, r, rfl, hr⟩ := fronts_enclosed hts
  rw [List.map_map] at hr
  simp only [callArgs, expectPunct_cons, bind, Except.bind]
  refine closedList_commas (by decide) (by decide) (fun a _ => ⟨_, tokensOf_parens _⟩) ?_ hr
  intro a ha ts rest hts hrest
  -- a parenthesis is no name, so the argument has none
  have hplain : argument (level .start (room + 2)) ts = (level .start (room + 2)).expr true ts := by
    obtain ⟨p, q, r, rfl, -⟩ := fronts_enclosed hts
    rfl
  rw [hplain]
  exact (hargs a ha).part hts hrest

lemma optionalArgs_none {inner : Inner} (h : peek ts ≠ .punct .openParen) :
    optionalArgs inner ts = .ok (none, ts) := by
  simp [optionalArgs, isPunct, h]

lemma optionalArgs_arguments {args : List Node} (hargs : ∀ a ∈ args, Reads a room)
    (hts : Fronts (tokensOf (arguments (args.map layout))) ts rest) :
    optionalArgs (level .start (room + 2)) ts = .ok (some args, rest) := by
  have hopen : isPunct .openParen ts = true := by
    obtain ⟨p, q, r, rfl, -⟩ := fronts_enclosed hts
    rfl
  simp only [optionalArgs, hopen, if_true, callArgs_arguments hargs hts, bind, Except.bind]
  rfl

/-- A filter or a test without arguments has an empty list of them. -/
lemma optionalArgs_ifAny {args : List Node} (hargs : ∀ a ∈ args, Reads a room)
    (hts : Fronts (tokensOf (argumentsIfAny (args.map layout))) ts rest) (hrest : Ends rest) :
    ∃ found, optionalArgs (level .start (room + 2)) ts = .ok (found, rest) ∧
      found.getD [] = args := by
  cases args with
  | nil =>
    obtain ⟨⟩ := hts
    exact ⟨none, optionalArgs_none (hrest.ne (by decide) (by decide)), rfl⟩
  | cons a r => exact ⟨some (a :: r), optionalArgs_arguments hargs hts, rfl⟩

/-- The entries of a hash, from its children in document order. -/
lemma entries_pairs (pairs : List (Node × Node)) :
    entries ((pairs.flatMap fun p => [p.1, p.2]).map layout) =
      pairs.map fun p =>
        parens (layout p.1) ++ (.mark .colon :: .space :: parens (layout p.2)) := by
  induction pairs with
  | nil => rfl
  | cons p r ih => simpa [entries] using ih

lemma hashPair_entry {key value : Node} (hkey : Reads key (room + 1)) (hvalue : Reads value room)
    (hts : Fronts (tokensOf (parens (layout key) ++
      (.mark .colon :: .space :: parens (layout value)))) ts rest)
    (hrest : 10 < (peek rest).rank) :
    hashPair (level .start (room + 2)) inlineIf ts = .ok ((key, value), rest) := by
  rw [tokensOf_append] at hts
  obtain ⟨middle, hk, hmiddle⟩ := hts.split
  obtain _ | ⟨p, hv⟩ := hmiddle
  rename_i r
  have hread : hashKey (level .start (room + 2)) inlineIf ts =
      .ok ((key, none), ⟨.punct .colon, p⟩ :: r) := by
    obtain ⟨p, q, r, rfl, hr⟩ := fronts_enclosed hk
    simp only [hashKey, hkey.expr hr (.inl rfl), bind, Except.bind, expectPunct_cons]
    rfl
  simp only [hashPair, hread, bind, Except.bind, eatPunct?_cons, hvalue.part hv hrest]
  rfl

/-! ### Operators -/

def BinaryOp.rank : BinaryOp → Nat
  | .power => 1
  | .multiply | .floorDivide | .divide | .modulo => 2
  | .add | .subtract => 3
  | .concat => 4
  | .range => 5
  | .coalesce => 9
  | .slice => 11
  | _ => 6

lemma fronts_mark {p : Punct} (h : Fronts [.punct p] r r') : ∃ q, r = ⟨.punct p, q⟩ :: r' := by
  obtain _ | ⟨q, h⟩ := h
  obtain ⟨⟩ := h
  exact ⟨q, rfl⟩

section Operators

variable {scope : Scope} {inner : Inner} {left right : Node}

/-- Two operands one rung below an operator, and the operator between them. -/
lemma rung_binary {op : BinaryOp} (hslice : op ≠ .slice)
    (hleft : rung scope inner inlineIf (op.rank - 1) ts = .ok (left, r))
    (hop : Fronts (tokensOf op.lexemes) r r')
    (hright : rung scope inner inlineIf (op.rank - 1) r' = .ok (right, rest))
    (hrest : op.rank < (peek rest).rank) (hts : peek ts ≠ .name "not") :
    rung scope inner inlineIf op.rank ts = .ok (.binary op left right, rest) := by
  have hnone : punctOperator (marksOf op.rank) rest = none := punctOperator_eq_none hrest
  cases op with
  | slice => exact absurd rfl hslice
  | power | multiply | floorDivide | divide | modulo | add | subtract | concat | coalesce =>
    obtain ⟨q, rfl⟩ := fronts_mark hop
    exact chained_of_some hleft rfl hright hnone
  | range =>
    obtain ⟨q, rfl⟩ := fronts_mark hop
    -- the operands of a range are concatenations
    have hfirst : concatenation (signed scope inner inlineIf) ts = .ok (left, _) := hleft
    have hsecond : concatenation (signed scope inner inlineIf) r' = .ok (right, rest) := hright
    change Syntax.range (signed scope inner inlineIf) ts = _
    simp only [Syntax.range, hfirst, bind, Except.bind, eatPunct?_cons, hsecond]
    rfl
  | equal | notEqual | less | greater | atMost | atLeast =>
    obtain ⟨q, rfl⟩ := fronts_mark hop
    exact negation_of_comparison hleft (by simp [peek]) rfl hright hrest hts
  | isIn | matching =>
    obtain _ | ⟨q, ⟨⟩⟩ := hop
    exact negation_of_comparison hleft (by simp [peek]) rfl hright hrest hts
  | notIn | startsWith | endsWith =>
    -- two words make one operator
    obtain _ | ⟨q, _ | ⟨q', ⟨⟩⟩⟩ := hop
    exact negation_of_comparison hleft (by simp [peek]) rfl hright hrest hts

end Operators

/-! ### Nodes -/

lemma fronts_joined {left operator right : List Lexeme}
    (h : Fronts (tokensOf (joined left operator right)) ts rest) :
    ∃ r r', Fronts (tokensOf (parens left)) ts r ∧ Fronts (tokensOf operator) r r' ∧
      Fronts (tokensOf (parens right)) r' rest := by
  simp only [joined, tokensOf_append, tokensOf_cons, Lexeme.token?, Option.toList_none,
    List.nil_append] at h
  obtain ⟨r, hleft, h⟩ := h.split
  obtain ⟨r', hop, hright⟩ := h.split
  exact ⟨r, r', hleft, hop, hright⟩

lemma peek_parens {ls : List Lexeme} (h : Fronts (tokensOf (parens ls)) ts rest) :
    peek ts = .punct .openParen :=
  (tokensOf_parens ls ▸ h).peek

lemma peek_parens_append {ls more : List Lexeme}
    (h : Fronts (tokensOf (parens ls ++ more)) ts rest) : peek ts = .punct .openParen := by
  rw [tokensOf_append] at h
  obtain ⟨middle, hls, -⟩ := h.split
  exact peek_parens hls

section Nodes

variable {left right : Node} {name : String} {args : List Node}

lemma rank_operator {op : BinaryOp} (hop : op ≠ .slice) (h : Fronts (tokensOf op.lexemes) r r') :
    op.rank - 1 < (peek r).rank := by
  obtain ⟨t, toks, htoks, ht⟩ :
      ∃ t toks, tokensOf op.lexemes = t :: toks ∧ op.rank - 1 < t.rank := by
    cases op with
    | slice => exact absurd rfl hop
    | _ => exact ⟨_, _, rfl, by decide⟩
  rw [htoks] at h
  exact h.rank ht

lemma read_binary {op : BinaryOp} (hop : op ≠ .slice) (hleft : Reads left room)
    (hright : Reads right room)
    (hts : Fronts (tokensOf (joined (layout left) op.lexemes (layout right))) ts rest)
    (hrest : op.rank < (peek rest).rank) :
    rung .start (level .start (room + 1)) inlineIf op.rank ts =
      .ok (.binary op left right, rest) := by
  obtain ⟨r, r', hl, hm, hr⟩ := fronts_joined hts
  refine rung_binary hop (hleft.operand hl (rank_operator hop hm)) hm (hright.operand hr ?_)
    hrest ?_
  · omega
  · simp [peek_parens hl]

lemma read_logical {op : LogicalOp} (hleft : Reads left room) (hright : Reads right room)
    (hts : Fronts (tokensOf (joined (layout left) [.word op.text] (layout right))) ts rest)
    (hrest : 10 < (peek rest).rank) :
    rung .start (level .start (room + 1)) inlineIf 8 ts = .ok (.logical op left right, rest) := by
  obtain ⟨r, r', hl, hm, hr⟩ := fronts_joined hts
  have hnone : ∀ {op : LogicalOp}, logicalOperator op rest = none := fun {op} =>
    logicalOperator_eq_none hrest (by cases op <;> decide)
  cases op with
  -- `and` binds tighter, so its operands are one rung further down
  | and =>
    have hfirst : rung .start (level .start (room + 1)) inlineIf 6 ts = .ok (left, r) :=
      hleft.operand hl (hm.rank (by decide))
    obtain _ | ⟨q, ⟨⟩⟩ := hm
    have hand : rung .start (level .start (room + 1)) inlineIf 7 ts =
        .ok (.logical .and left right, rest) :=
      chained_of_some hfirst rfl (hright.operand (k := 6) hr (by omega)) hnone
    exact rung_of_le hand (by decide) (by omega) (by simp)
  | or =>
    have hfirst : rung .start (level .start (room + 1)) inlineIf 7 ts = .ok (left, r) :=
      hleft.operand hl (hm.rank (by decide))
    obtain _ | ⟨q, ⟨⟩⟩ := hm
    exact chained_of_some hfirst rfl (hright.operand (k := 7) hr (by omega)) hnone

lemma conditionalMark?_cons {p : Punct} {q : Position} {mark : ConditionalMark}
    (h : p = .question ∧ mark = .question ∨ p = .elvis ∧ mark = .elvis) :
    conditionalMark? inlineIf (⟨.punct p, q⟩ :: r) = some mark := by
  rcases h with ⟨rfl, rfl⟩ | ⟨rfl, rfl⟩ <;> simp [conditionalMark?, isPunct, peek]

/-- The test of a conditional and the branch behind its mark. -/
lemma read_branch {test branch : Node} {p : Punct} (hp : 9 < p.rank) (htest : Reads test (room + 1))
    (hbranch : Reads branch room)
    (hts : Fronts (tokensOf (joined (layout test) [.mark p] (layout branch))) ts r)
    (hr : 10 < (peek r).rank) :
    ∃ q r', rung .start (level .start (room + 2)) inlineIf 9 ts = .ok (test, ⟨.punct p, q⟩ :: r') ∧
      (level .start (room + 2)).expr inlineIf r' = .ok (branch, r) := by
  obtain ⟨middle, r', ht, hm, hb⟩ := fronts_joined hts
  obtain ⟨q, rfl⟩ := fronts_mark hm
  exact ⟨q, r', htest.operand ht (rank_peek hp), hbranch.part hb hr⟩

lemma read_conditional {test : Node} {thenNode orElse : Option Node}
    (hsome : (thenNode.isSome || orElse.isSome) = true) (htest : Reads test (room + 1))
    (hthen : ∀ n ∈ thenNode, Reads n room) (helse : ∀ n ∈ orElse, Reads n room)
    (hts : Fronts (tokensOf (arrange (.conditional test thenNode orElse)
      (layout test :: ((thenNode.toList ++ orElse.toList).map layout)))) ts rest)
    (hrest : Ends rest) :
    rung .start (level .start (room + 2)) inlineIf 10 ts =
      .ok (.conditional test thenNode orElse, rest) := by
  match thenNode, orElse with
  | some thenNode, some orElse =>
    change Fronts (tokensOf (joined (layout test) [.mark .question] (layout thenNode) ++
      (.space :: .mark .colon :: .space :: parens (layout orElse)))) ts rest at hts
    rw [tokensOf_append] at hts
    obtain ⟨middle, hfirst, hmiddle⟩ := hts.split
    obtain ⟨q, r, hnine, hbranch⟩ :=
      read_branch (by decide) htest (hthen _ rfl) hfirst (hmiddle.rank (by decide))
    refine conditional_of_mark hnine (conditionalMark?_cons (.inl ⟨rfl, rfl⟩)) ?_ hrest.rank
    obtain _ | ⟨q', hlast⟩ := hmiddle
    simp only [conditionalRest, List.tail_cons, hbranch, bind, Except.bind, eatPunct?_cons,
      (helse _ rfl).part hlast hrest.rank]
    rfl
  | some thenNode, none =>
    obtain ⟨q, r, hnine, hbranch⟩ := read_branch (by decide) htest (hthen _ rfl) hts hrest.rank
    refine conditional_of_mark hnine (conditionalMark?_cons (.inl ⟨rfl, rfl⟩)) ?_ hrest.rank
    -- a second branch would need a colon
    have hcolon : eatPunct? .colon rest = none := eatPunct?_of_ne (hrest.ne (by decide) (by decide))
    simp only [conditionalRest, List.tail_cons, hbranch, bind, Except.bind, hcolon]
    rfl
  | none, some orElse =>
    obtain ⟨q, r, hnine, hbranch⟩ := read_branch (by decide) htest (helse _ rfl) hts hrest.rank
    refine conditional_of_mark hnine (conditionalMark?_cons (.inr ⟨rfl, rfl⟩)) ?_ hrest.rank
    simp only [conditionalRest, List.tail_cons, hbranch, bind, Except.bind]
    rfl
  | none, none => cases hsome

lemma ne_of_isFreeName (h : isFreeName name = true) {s : String} (hs : s ∈ reservedWords) :
    name ≠ s := by
  rintro rfl
  simp [isFreeName, hs] at h

lemma constant?_eq_none (h : isFreeName name = true) : constant? name = none := by
  unfold constant?
  split
  all_goals first
    | rfl
    | exact absurd rfl (ne_of_isFreeName h (by decide))

lemma read_nameRef (h : isFreeName name = true) (hts : Fronts [.name name] ts rest)
    (hrest : Ends rest) {inner : Inner} :
    primary .start inner inlineIf ts = .ok (.nameRef name, rest) := by
  obtain _ | ⟨p, ⟨⟩⟩ := hts
  have hargs : optionalArgs inner rest = .ok (none, rest) :=
    optionalArgs_none (hrest.ne (by decide) (by decide))
  simp only [primary, named, constant?_eq_none h, hargs, bind, Except.bind]

lemma read_call (h : isFreeName name = true) (hargs : ∀ a ∈ args, Reads a room)
    (hts : Fronts (.name name :: tokensOf (arguments (args.map layout))) ts rest) :
    primary .start (level .start (room + 2)) inlineIf ts = .ok (.functionCall name args, rest) := by
  obtain _ | ⟨p, hr⟩ := hts
  simp only [primary, named, constant?_eq_none h, optionalArgs_arguments hargs hr, bind,
    Except.bind]
  rfl

lemma read_filter (htarget : Reads e (room + 1)) (hargs : ∀ a ∈ args, Reads a room)
    (hts : Fronts (tokensOf (parens (layout e) ++
      (.mark .pipe :: .word name :: argumentsIfAny (args.map layout)))) ts rest)
    (hrest : Ends rest) :
    signed .start (level .start (room + 2)) inlineIf ts =
      .ok (.filterCall name (some e) args, rest) := by
  rw [tokensOf_append] at hts
  obtain ⟨middle, ht, hmiddle⟩ := hts.split
  obtain _ | ⟨p, _ | ⟨p', hr⟩⟩ := hmiddle
  obtain ⟨found, hfound, rfl⟩ := optionalArgs_ifAny hargs hr hrest
  refine signed_of_part (htarget.primary ht) rfl ?_ (by have := hrest.rank; omega)
  simp only [postfixPart, peek, List.tail_cons, filterSegment, expectName, bind, Except.bind,
    hfound]
  rfl

lemma read_subscript {object index : Node} (hobject : Reads object (room + 1))
    (hindex : Reads index room)
    (hts : Fronts (tokensOf (parens (layout object) ++
      enclosed .openBracket .closeBracket (parens (layout index)))) ts rest)
    (hrest : Ends rest) :
    signed .start (level .start (room + 2)) inlineIf ts = .ok (.subscript object index, rest) := by
  rw [tokensOf_append] at hts
  obtain ⟨middle, ho, hmiddle⟩ := hts.split
  obtain ⟨p, q, r, rfl, hr⟩ := fronts_enclosed hmiddle
  -- a slice without its first end would start with a colon
  have hcolon : isPunct .colon r = false := by simp [isPunct, peek_parens hr]
  have hclose : eatPunct? .colon (⟨.punct .closeBracket, q⟩ :: rest) = none := rfl
  have hread : sliceOrIndex (level .start (room + 2)) r =
      .ok (index, ⟨.punct .closeBracket, q⟩ :: rest) := by
    simp only [sliceOrIndex, sliceEnd, hcolon, Bool.false_eq_true, if_false,
      hindex.part hr (rank_peek (by decide)), bind, Except.bind, hclose]
  refine signed_of_part (hobject.primary ho) rfl ?_ (by have := hrest.rank; omega)
  simp only [postfixPart, peek, List.tail_cons, hread, bind, Except.bind, expectPunct_cons]
  rfl

/-- Behind an object that is no macro namespace a name is a member. -/
lemma memberOf_start {object : Node} {given : Option (List Node)}
    (h : (Node.member object name given).isWritable = true) :
    memberOf .start object name given = .member object name given := by
  unfold memberOf
  split
  · rename_i space args
    have hself : space ≠ "_self" := by
      simp only [Node.isWritable, Bool.and_eq_true, decide_eq_true_eq] at h
      exact h.2
    have hspace : ¬Scope.start.spaces.contains space = true := by
      simp [Scope.start, hself]
    rw [if_neg hspace]
  · rfl

lemma read_member {object : Node} {given : Option (List Node)}
    (h : (Node.member object name given).isWritable = true) (hobject : Reads object (room + 1))
    (hargs : ∀ a ∈ given.getD [], Reads a room)
    (hts : Fronts (tokensOf (arrange (.member object name given)
      (layout object :: (given.getD []).map layout))) ts rest) (hrest : Ends rest) :
    signed .start (level .start (room + 2)) inlineIf ts =
      .ok (.member object name given, rest) := by
  -- with or without arguments, the name follows the dot
  obtain ⟨ls, hls, hread⟩ : ∃ ls, arrange (.member object name given)
      (layout object :: (given.getD []).map layout) =
        parens (layout object) ++ (.mark .dot :: .word name :: ls) ∧
      ∀ r, Fronts (tokensOf ls) r rest →
        optionalArgs (level .start (room + 2)) r = .ok (given, rest) := by
    cases given with
    | none =>
      refine ⟨[], rfl, fun r hr => ?_⟩
      obtain ⟨⟩ := hr
      exact optionalArgs_none (hrest.ne (by decide) (by decide))
    | some args => exact ⟨_, rfl, fun r hr => optionalArgs_arguments hargs hr⟩
  rw [hls, tokensOf_append] at hts
  obtain ⟨middle, ho, hmiddle⟩ := hts.split
  obtain _ | ⟨p, _ | ⟨p', hr⟩⟩ := hmiddle
  refine signed_of_part (hobject.primary ho) rfl ?_ (by have := hrest.rank; omega)
  simp only [postfixPart, peek, List.tail_cons, memberName, bind, Except.bind, hread _ hr,
    memberOf_start h]
  rfl

lemma testOf_words {negated : Bool} (h : isFreeName name = true) (hargs : ∀ a ∈ args, Reads a room)
    (hts : Fronts (tokensOf ((if negated then [.word "not", .space] else []) ++
      (.word name :: argumentsIfAny (args.map layout)))) ts rest) (hrest : Ends rest) :
    testOf (level .start (room + 2)) e ts = .ok (.testExpr name e args negated, rest) := by
  -- neither of the second words of a test comes next
  have hword : ∀ {r}, Fronts (tokensOf (argumentsIfAny (args.map layout))) r rest →
      ∀ s, isName s r = false := by
    intro r hr s
    cases args with
    | nil =>
      obtain ⟨⟩ := hr
      simp [isName, hrest.ne (t := .name s) (by simp) (by simp)]
    | cons a more => simp [isName, peek_parens hr]
  have hnot : ∀ {p r}, eatName? "not" (⟨.name name, p⟩ :: r) = none := fun {p r} =>
    eatName?_of_ne (by simpa [peek] using ne_of_isFreeName h (by decide))
  cases negated with
  | false =>
    obtain _ | ⟨p, hr⟩ := hts
    obtain ⟨found, hfound, rfl⟩ := optionalArgs_ifAny hargs hr hrest
    simp only [testOf, testSign, hnot, expectName, bind, Except.bind, testName, hword hr,
      Bool.false_eq_true, and_false, if_false, hfound]
    rfl
  | true =>
    obtain _ | ⟨p, _ | ⟨p', hr⟩⟩ := hts
    obtain ⟨found, hfound, rfl⟩ := optionalArgs_ifAny hargs hr hrest
    simp only [testOf, testSign, eatName?_cons, expectName, bind, Except.bind, testName, hword hr,
      Bool.false_eq_true, and_false, if_false, hfound]
    rfl

lemma read_testExpr {negated : Bool} (h : isFreeName name = true) (htarget : Reads e (room + 1))
    (hargs : ∀ a ∈ args, Reads a room)
    (hts : Fronts (tokensOf (parens (layout e) ++ (.space :: .word "is" :: .space ::
      ((if negated then [.word "not", .space] else []) ++
        (.word name :: argumentsIfAny (args.map layout)))))) ts rest) (hrest : Ends rest) :
    rung .start (level .start (room + 2)) inlineIf 6 ts =
      .ok (.testExpr name e args negated, rest) := by
  rw [tokensOf_append] at hts
  obtain ⟨middle, ht, hmiddle⟩ := hts.split
  have hfirst : rung .start (level .start (room + 2)) inlineIf 5 ts = .ok (e, middle) :=
    htarget.operand ht (hmiddle.rank (by decide))
  have hnot : peek ts ≠ .name "not" := by simp [peek_parens ht]
  obtain _ | ⟨p, hr⟩ := hmiddle
  rename_i r
  have htest : testOf (level .start (room + 2)) e r = .ok (.testExpr name e args negated, rest) :=
    testOf_words h hargs hr hrest
  exact negation_of_test hfirst (eatName?_cons "is" p r) htest (by have := hrest.rank; omega) hnot

lemma read_unary {op : UnaryOp} (hoperand : Reads e room)
    (hts : Fronts (tokensOf (arrange (.unary op e) [layout e])) ts rest) (hrest : Ends rest) :
    rung .start (level .start (room + 2)) inlineIf 10 ts = .ok (.unary op e, rest) := by
  have hrank := hrest.rank
  cases op with
  | not =>
    obtain _ | ⟨p, hr⟩ := hts
    rename_i r
    have hread : (level .start (room + 2)).negation inlineIf r = .ok (e, rest) :=
      hoperand.operand (k := 6) hr (by omega)
    refine rung_of_le (k := 6) ?_ (by decide) hrank (by simp)
    change negation .start (level .start (room + 2)) inlineIf (⟨.name "not", p⟩ :: r) = _
    simp only [negation, eatName?_cons, hread, bind, Except.bind]
    rfl
  | minus | plus =>
    obtain _ | ⟨p, hr⟩ := hts
    rename_i r
    have hread : (level .start (room + 2)).signed inlineIf r = .ok (e, rest) :=
      hoperand.operand (k := 0) hr (by omega)
    refine rung_of_le (k := 0) ?_ (by decide) hrank fun _ => by simp [peek]
    rw [rung]
    simp only [signed, peek, List.tail_cons, hread, bind, Except.bind]
    rfl

lemma read_list {items : List Node} (hitems : ∀ x ∈ items, Reads x room)
    (hts : Fronts (tokensOf (enclosed .openBracket .closeBracket
      (commas ((items.map layout).map parens)))) ts rest) :
    primary .start (level .start (room + 2)) inlineIf ts = .ok (.list items, rest) := by
  obtain ⟨p, q, r, rfl, hr⟩ := fronts_enclosed hts
  rw [List.map_map] at hr
  have hlist : closedList .closeBracket ((level .start (room + 2)).expr true) r =
      .ok (items, rest) :=
    closedList_commas (by decide) (by decide) (fun x _ => ⟨_, tokensOf_parens _⟩)
      (fun x hx ts rest hts hrest => (hitems x hx).part hts hrest) hr
  simp only [primary, hlist, bind, Except.bind]
  rfl

lemma read_hash {pairs : List (Node × Node)}
    (hpairs : ∀ p ∈ pairs, Reads p.1 (room + 1) ∧ Reads p.2 room)
    (hts : Fronts (tokensOf (enclosed .openBrace .closeBrace (commas (entries
      ((pairs.flatMap fun p => [p.1, p.2]).map layout))))) ts rest) :
    primary .start (level .start (room + 2)) inlineIf ts = .ok (.hash pairs, rest) := by
  obtain ⟨p, q, r, rfl, hr⟩ := fronts_enclosed hts
  rw [entries_pairs] at hr
  have hlist : closedList .closeBrace (hashPair (level .start (room + 2)) inlineIf) r =
      .ok (pairs, rest) := by
    refine closedList_commas (by decide) (by decide) (fun x _ => ?_) ?_ hr
    · rw [tokensOf_append, tokensOf_parens]
      exact ⟨_, rfl⟩
    · rintro ⟨key, value⟩ hp ts rest hts hrest
      obtain ⟨hkey, hvalue⟩ := hpairs _ hp
      exact hashPair_entry hkey hvalue hts hrest
  simp only [primary, hlist, bind, Except.bind]
  rfl

end Nodes

/-- An expression that can be written is read back if two levels of nesting are left for each level
of its height. -/
lemma reads_of_writable {e : Node} (h : e.Writable) (hheight : e.height ≤ maxHeight) {room : Nat}
    (hroom : 2 * e.height ≤ room) : Reads e room := by
  induction e using Node.induct generalizing room with
  | step e ih =>
    have hpos : 0 < e.height := by
      rw [Node.height_eq]
      omega
    -- each level of the tree may take two levels of nesting, one of them for a parenthesis
    obtain ⟨room, rfl⟩ : ∃ n, room = n + 2 := ⟨room - 2, by omega⟩
    have hchild : ∀ c ∈ e.children, Reads c room ∧ Reads c (room + 1) := by
      intro c hc
      have hlt := Node.height_lt_of_mem hc
      exact ⟨ih c hc (h.child hc) (by omega) (by omega), ih c hc (h.child hc) (by omega) (by omega)⟩
    have hself := h.self
    refine ⟨hheight, fun inlineIf ts rest hts hrest => ?_⟩
    have hrank := hrest.rank
    rw [layout_eq] at hts
    cases e with
    | nameRef name =>
      have hname : peek ts ≠ .name "not" := by
        rw [hts.peek]
        simpa using ne_of_isFreeName hself (by decide)
      exact rung_of_primary (read_nameRef hself hts hrest) hrank hname
    | literal value =>
      cases value with
      | str s =>
        obtain _ | ⟨p, ⟨⟩⟩ := hts
        exact rung_of_primary rfl hrank (by simp [peek])
      | _ => cases hself
    | logical op left right =>
      obtain ⟨-, hleft⟩ := hchild left (by simp [Node.children])
      obtain ⟨-, hright⟩ := hchild right (by simp [Node.children])
      exact rung_of_le (read_logical hleft hright hts hrank) (by decide) hrank (by simp)
    | unary op operand => exact read_unary (hchild operand (by simp [Node.children])).1 hts hrest
    | binary op left right =>
      obtain ⟨-, hleft⟩ := hchild left (by simp [Node.children])
      obtain ⟨-, hright⟩ := hchild right (by simp [Node.children])
      have hslice : op ≠ .slice := of_decide_eq_true hself
      have hop : op.rank ≤ 10 := by cases op <;> first | decide | exact absurd rfl hslice
      exact rung_of_le (read_binary hslice hleft hright hts (by omega)) hop hrank fun _ => by
        simp [peek_parens_append hts]
    | conditional test thenNode orElse =>
      exact read_conditional hself (hchild test (by simp [Node.children])).2
        (fun n hn => (hchild n (by simp [Node.children, Option.mem_def.1 hn])).1)
        (fun n hn => (hchild n (by simp [Node.children, Option.mem_def.1 hn])).1) hts hrest
    | functionCall name args =>
      have hname : peek ts ≠ .name "not" := by
        rw [hts.peek]
        simpa using ne_of_isFreeName hself (by decide)
      exact rung_of_primary (read_call hself (fun a ha => (hchild a ha).1) hts) hrank hname
    | list items =>
      exact rung_of_primary (read_list (fun x hx => (hchild x hx).1) hts) hrank (by simp [hts.peek])
    | hash pairs =>
      refine rung_of_primary (read_hash (fun p hp => ?_) hts) hrank (by simp [hts.peek])
      have hkey : p.1 ∈ (Node.hash pairs).children := List.mem_flatMap.2 ⟨p, hp, by simp⟩
      have hvalue : p.2 ∈ (Node.hash pairs).children := List.mem_flatMap.2 ⟨p, hp, by simp⟩
      exact ⟨(hchild p.1 hkey).2, (hchild p.2 hvalue).1⟩
    | filterCall name target args =>
      cases target with
      | none => simp [Node.isWritable] at hself
      | some target =>
        have hargs : ∀ a ∈ args, Reads a room := fun a ha =>
          (hchild a (by simp [Node.children, ha])).1
        refine rung_of_le (k := 0) (read_filter (hchild target (by simp [Node.children])).2 hargs
          hts hrest) (by decide) hrank fun _ => ?_
        simp [peek_parens_append hts]
    | testExpr name target args negated =>
      have hargs : ∀ a ∈ args, Reads a room := fun a ha =>
        (hchild a (by simp [Node.children, ha])).1
      exact rung_of_le (read_testExpr hself (hchild target (by simp [Node.children])).2 hargs
        hts hrest) (by decide) hrank (by simp)
    | subscript object index =>
      refine rung_of_le (k := 0) (read_subscript (hchild object (by simp [Node.children])).2
        (hchild index (by simp [Node.children])).1 hts hrest) (by decide) hrank fun _ => ?_
      simp [peek_parens_append hts]
    | member object name given =>
      have hargs : ∀ a ∈ given.getD [], Reads a room := fun a ha =>
        (hchild a (by simp [Node.children, ha])).1
      refine rung_of_le (k := 0) (read_member hself (hchild object (by simp [Node.children])).2
        hargs hts hrest) (by decide) hrank fun _ => ?_
      cases given <;> simp [peek_parens_append hts]
    | _ => cases hself

/-! ### Templates -/

lemma context_inner (room : Nat) (scope : Scope) :
    (context room).inner scope = level scope room := by
  cases room <;> rfl

lemma readTemplate_output {start last stop : Position}
    (h : (level .start maxNesting).expr true ts = .ok (e, [⟨.outputEnd, last⟩, ⟨.eof, stop⟩])) :
    readTemplate (⟨.outputStart, start⟩ :: ts) = .ok (.template [.output e]) := by
  have hexpr : (context maxNesting).expr .start ts =
      .ok (e, [⟨.outputEnd, last⟩, ⟨.eof, stop⟩]) := by
    rw [Context.expr, context_inner]
    exact h
  have hitem : bodyItem (context maxNesting) [] .start (⟨.outputStart, start⟩ :: ts) =
      .ok (.node (.output e), .start, [⟨.eof, stop⟩]) := by
    simp only [bodyItem, hexpr, bind, Except.bind, peek, if_true, List.tail_cons]
    rfl
  exact readTemplate_of_item hitem

/-- **Reading undoes writing**: an expression that is not too tall is read back from the output
that holds it, whichever quote marks its strings stand in. -/
theorem parse_render (quote : Quote) {e : Node} (hwritable : e.Writable) (hheight : e.height ≤ 50) :
    parse ("\x7b\x7b " ++ render quote e ++ " \x7d\x7d") = .ok (.template [.output e]) := by
  obtain ⟨start, located, last, stop, htoks, htokens⟩ :=
    tokenize_output (lexed_layout hwritable) (by decide) quote
  have hreads : Reads e 127 :=
    reads_of_writable hwritable (Nat.le_trans hheight (by decide)) (by omega)
  have hfronts := fronts_map located [⟨.outputEnd, last⟩, ⟨.eof, stop⟩]
  rw [htoks] at hfronts
  have hexpr : (level .start maxNesting).expr true _ = _ := hreads.expr hfronts (.inr rfl)
  rw [parse, render, htokens]
  exact readTemplate_output hexpr

/-- An expression with closing delimiters, quote marks and backslashes in its strings, a test of two
words cut short, words of operators as names, and every kind of bracket. -/
def thorny : Node :=
  .conditional
    (.logical .and
      (.testExpr "divisible" (.member (.nameRef "_self") "by" none) [] true)
      (.unary .not (.binary .notIn (.literal (.str "a\x7d\x7d\"\\'%")) (.list [.nameRef "in"]))))
    (some (.filterCall "is" (some (.subscript (.nameRef "if") (.unary .minus (.nameRef "or"))))
      [.functionCall "as" [], .hash [(.nameRef "k", .hash [])]]))
    none

theorem parse_render_thorny :
    thorny.Writable ∧ thorny.height ≤ 50 ∧
      parse ("\x7b\x7b " ++ render .single thorny ++ " \x7d\x7d") =
        .ok (.template [.output thorny]) :=
  have hwritable : thorny.Writable := by decide +kernel
  have hheight : thorny.height ≤ 50 := by decide +kernel
  ⟨hwritable, hheight, parse_render .single hwritable hheight⟩

end TemplateMetrics.Syntax
