import TemplateMetrics.Proofs.Height
import TemplateMetrics.Proofs.Loops

/-!
What changes where no inline `if` may follow an expression.

Two readings of the same tokens, without and with an inline `if`, agree up to the first `if` that
only the second one takes. The first one stops there (`AgreesToIf`), and where a parenthesis is to
close it fails. Brackets allow an inline `if` again in all that they enclose but the parenthesised
keys of a hash, so below the conditionals the readings differ only if the first one fails
(`Agrees`).
-/

namespace TemplateMetrics.Syntax

variable {α β : Type}

/-! ### Two readings -/

/-- A reading without an inline `if` against one with it: they agree, or the first fails, either
because it misses a parenthesis where an `if` stands, or where the second fails too. -/
def Agrees (x y : Parsed α) : Prop :=
  x = y ∨ ∃ e, x = .error e ∧ (e.fault = missedIf ∨ ∃ e', y = .error e')

/-- As before, or else the first reading stops at an `if`, with a node that is no taller than that
of the second. -/
def AgreesToIf (x y : Parsed (Node × Tokens)) : Prop :=
  Agrees x y ∨
    ∃ e r, x = .ok (e, r) ∧ isName "if" r = true ∧ Gives y fun a => e.height ≤ a.1.height

variable {x y : Parsed α}

lemma agrees_refl (x : Parsed α) : Agrees x x := .inl rfl

/-- Readings that agree give the same, or they have failed for whatever comes next. -/
lemma Agrees.ok_or (h : Agrees x y) : (∃ a, x = .ok a ∧ y = .ok a) ∨
    ∀ {β : Type} (f g : α → Parsed β), Agrees (x >>= f) (y >>= g) := by
  rcases h with rfl | ⟨e, rfl, hfault | ⟨e', rfl⟩⟩
  · cases x with
    | error e => exact .inr fun f g => agrees_refl _
    | ok a => exact .inl ⟨a, rfl, rfl⟩
  · exact .inr fun f g => .inr ⟨e, rfl, .inl hfault⟩
  · exact .inr fun f g => .inr ⟨e, rfl, .inr ⟨e', rfl⟩⟩

lemma Agrees.bind (h : Agrees x y) {f g : α → Parsed β} (hfg : ∀ a, Agrees (f a) (g a)) :
    Agrees (x >>= f) (y >>= g) := by
  rcases h.ok_or with ⟨a, rfl, rfl⟩ | hfail
  · exact hfg a
  · exact hfail f g

lemma Agrees.ok (h : Agrees x y) {a : α} (hx : x = .ok a) : y = .ok a := by
  rcases h with rfl | ⟨e, he, -⟩
  · exact hx
  · rw [hx] at he
    cases he

/-- Readings that agree from here on agree here, if the second one misses no parenthesis. -/
lemma Agrees.eq_of_bind (h : Agrees x y) {f g : α → Parsed β} (heq : x >>= f = y >>= g)
    (hnot : Fails (y >>= g) fun e => e.fault ≠ missedIf) : x = y := by
  rcases h with rfl | ⟨e, rfl, hfault | ⟨e', rfl⟩⟩
  · rfl
  · exact absurd hfault (hnot e heq.symm)
  · exact congrArg Except.error (Except.error.inj heq)

lemma agreesToIf_refl (x : Parsed (Node × Tokens)) : AgreesToIf x x := .inl (agrees_refl x)

lemma Agrees.bind_toIf (h : Agrees x y) {f g : α → Parsed (Node × Tokens)}
    (hfg : ∀ a, AgreesToIf (f a) (g a)) : AgreesToIf (x >>= f) (y >>= g) := by
  rcases h.ok_or with ⟨a, rfl, rfl⟩ | hfail
  · exact hfg a
  · exact .inl (hfail f g)

lemma AgreesToIf.wrap {x y : Parsed (Node × Tokens)} (h : AgreesToIf x y) {build : Node → Node}
    (hbuild : ∀ a b, a.height ≤ b.height → (build a).height ≤ (build b).height) :
    AgreesToIf (x >>= fun a => pure (build a.1, a.2)) (y >>= fun a => pure (build a.1, a.2)) := by
  rcases h with h | ⟨e, r, rfl, hif, hle⟩
  · exact .inl (h.bind fun a => agrees_refl _)
  · refine .inr ⟨build e, r, rfl, hif, gives_bind hle fun a ha => ?_⟩
    exact gives_pure (hbuild e a.1 ha)

lemma peek_of_isName {ts : Tokens} (h : isName "if" ts = true) : peek ts = .name "if" :=
  of_decide_eq_true h

lemma eatPunct?_of_isName {ts : Tokens} (h : isName "if" ts = true) (p : Punct) :
    eatPunct? p ts = none := by
  simp [eatPunct?, isPunct, peek_of_isName h]

lemma expectPunct_of_isName {ts : Tokens} (h : isName "if" ts = true) :
    expectPunct .closeParen ts = .error ⟨lineOf ts, missedIf⟩ := by
  simp [expectPunct, eatPunct?_of_isName h, peek_of_isName h, failAt]

section Closed

variable {x y : Parsed (Node × Tokens)} (f : Node → Tokens → Parsed β)

/-- A parenthesis closes behind a reading that does not stop at an `if`. -/
lemma AgreesToIf.closed (h : AgreesToIf x y) :
    Agrees (x >>= fun a => expectPunct .closeParen a.2 >>= f a.1)
      (y >>= fun a => expectPunct .closeParen a.2 >>= f a.1) := by
  rcases h with h | ⟨e, r, rfl, hif, -⟩
  · exact h.bind fun a => agrees_refl _
  · refine .inr ⟨⟨lineOf r, missedIf⟩, ?_, .inl rfl⟩
    change (expectPunct .closeParen r >>= f e) = _
    rw [expectPunct_of_isName hif]
    rfl

lemma AgreesToIf.eq_of_closed (h : AgreesToIf x y)
    (heq : (x >>= fun a => expectPunct .closeParen a.2 >>= f a.1) =
      y >>= fun a => expectPunct .closeParen a.2 >>= f a.1)
    (hnot : Fails (y >>= fun a => expectPunct .closeParen a.2 >>= f a.1) fun e =>
      e.fault ≠ missedIf) : x = y := by
  rcases h with h | ⟨e, r, rfl, hif, -⟩
  · exact h.eq_of_bind heq hnot
  · rw [← heq] at hnot
    change Fails (expectPunct .closeParen r >>= f e) _ at hnot
    rw [expectPunct_of_isName hif] at hnot
    exact absurd rfl (hnot _ rfl)

end Closed

/-! ### Below the conditionals -/

/-- The readers one level of nesting further in, without and with an inline `if`. -/
structure Inner.Agrees (inner : Inner) : Prop where
  expr : ∀ ts, AgreesToIf (inner.expr false ts) (inner.expr true ts)
  negation : ∀ ts, Syntax.Agrees (inner.negation false ts) (inner.negation true ts)
  signed : ∀ ts, Syntax.Agrees (inner.signed false ts) (inner.signed true ts)

lemma agrees_closedList {item item' : Reader α} (h : ∀ ts, Agrees (item ts) (item' ts))
    (close : Punct) (ts : Tokens) :
    Agrees (closedList close item ts) (closedList close item' ts) := by
  refine loop_induct₂ (closedRound close item) (closedRound close item')
    (motive := fun _ _ x y => Agrees x y) (fun _ _ => agrees_refl _) ?_ () ts
  intro next next' hnext _ ts
  unfold closedRound
  split
  · exact agrees_refl _
  · refine (h ts).bind ?_
    rintro ⟨x, r⟩
    dsimp only
    split
    · exact (hnext () _).bind fun a => agrees_refl _
    · exact agrees_refl _

section Chains

variable {operand operand' : Reader Node} {operator : Operator}

lemma agrees_chain (h : ∀ ts, Agrees (operand ts) (operand' ts)) (links : Nat) (left : Node)
    (ts : Tokens) :
    Agrees (chain operand operator links left ts) (chain operand' operator links left ts) := by
  induction links generalizing left ts with
  | zero => exact agrees_refl _
  | succ links ih =>
    unfold chain
    split
    · exact (h _).bind fun a => ih _ a.2
    · exact agrees_refl _

lemma agrees_chained (h : ∀ ts, Agrees (operand ts) (operand' ts)) (ts : Tokens) :
    Agrees (chained operand operator ts) (chained operand' operator ts) :=
  (h ts).bind fun a => agrees_chain h maxHeight a.1 a.2

lemma agrees_concatenation (h : ∀ ts, Agrees (operand ts) (operand' ts)) :
    ∀ ts, Agrees (concatenation operand ts) (concatenation operand' ts) :=
  agrees_chained (agrees_chained (agrees_chained (agrees_chained h)))

lemma agrees_range (h : ∀ ts, Agrees (operand ts) (operand' ts)) (ts : Tokens) :
    Agrees (range operand ts) (range operand' ts) := by
  refine (agrees_concatenation h ts).bind ?_
  rintro ⟨left, r⟩
  dsimp only
  split
  · exact (agrees_concatenation h _).bind fun a => agrees_refl _
  · exact agrees_refl _

lemma agrees_compareChain (inner : Inner) (h : ∀ ts, Agrees (operand ts) (operand' ts))
    (links : Nat) (left : Node) (ts : Tokens) :
    Agrees (compareChain inner operand links left ts)
      (compareChain inner operand' links left ts) := by
  induction links generalizing left ts with
  | zero => exact agrees_refl _
  | succ links ih =>
    unfold compareChain
    split
    · exact (agrees_refl _).bind fun a => ih a.1 a.2
    · split
      · exact (h _).bind fun a => ih _ a.2
      · exact agrees_refl _

end Chains

namespace Inner.Agrees

variable {inner : Inner}

lemma hashKey (h : inner.Agrees) (ts : Tokens) :
    Syntax.Agrees (hashKey inner false ts) (hashKey inner true ts) := by
  unfold Syntax.hashKey
  split
  · exact agrees_refl _
  · split
    · exact agrees_refl _
    · exact agrees_refl _
    · exact agrees_refl _
    · exact (h.expr _).closed fun key r => pure ((key, none), r)
    · exact agrees_refl _

lemma hashPair (h : inner.Agrees) (ts : Tokens) :
    Syntax.Agrees (hashPair inner false ts) (hashPair inner true ts) :=
  (h.hashKey ts).bind fun _ => agrees_refl _

lemma primary (h : inner.Agrees) (scope : Scope) (ts : Tokens) :
    Syntax.Agrees (primary scope inner false ts) (primary scope inner true ts) := by
  unfold Syntax.primary
  split
  · exact agrees_refl _
  · split
    · exact agrees_refl _
    · exact agrees_refl _
    · exact agrees_refl _
    · exact agrees_refl _
    · exact agrees_refl _
    · exact (agrees_closedList h.hashPair .closeBrace _).bind fun a => agrees_refl _
    · exact agrees_refl _

lemma signed_succ (h : inner.Agrees) (scope : Scope) (ts : Tokens) :
    Syntax.Agrees (Syntax.signed scope inner false ts) (Syntax.signed scope inner true ts) := by
  unfold Syntax.signed
  split
  · exact (h.signed _).bind fun a => agrees_refl _
  · exact (h.signed _).bind fun a => agrees_refl _
  · exact (h.primary scope ts).bind fun a => agrees_refl _

lemma negation_succ (h : inner.Agrees) (scope : Scope) (ts : Tokens) :
    Syntax.Agrees (Syntax.negation scope inner false ts) (Syntax.negation scope inner true ts) := by
  have hrange := agrees_range (h.signed_succ scope)
  unfold Syntax.negation
  split
  · exact (h.negation _).bind fun a => agrees_refl _
  · exact (hrange ts).bind fun a => agrees_compareChain inner hrange maxHeight a.1 a.2

lemma coalesced (h : inner.Agrees) (scope : Scope) :
    ∀ ts, Syntax.Agrees (coalesced scope inner false ts) (coalesced scope inner true ts) :=
  agrees_chained (agrees_chained (agrees_chained (h.negation_succ scope)))

end Inner.Agrees

/-! ### Conditionals -/

lemma Node.height_le_of_children {n m : Node}
    (h : ∀ c ∈ n.children, ∃ c' ∈ m.children, c.height ≤ c'.height) : n.height ≤ m.height := by
  rcases n.height_eq_one_or with hn | ⟨c, hc, hn⟩
  · rw [hn, m.height_eq]
    exact Nat.le_add_right 1 _
  · obtain ⟨c', hc', hle⟩ := h c hc
    have hlt := Node.height_lt_of_mem hc'
    omega

/-- A conditional gets no shorter if a branch gets taller or comes to it. -/
lemma height_conditional_le {test : Node} {a a' b b' : Option Node}
    (ha : ∀ n ∈ a, ∃ n' ∈ a', n.height ≤ n'.height)
    (hb : ∀ n ∈ b, ∃ n' ∈ b', n.height ≤ n'.height) :
    (Node.conditional test a b).height ≤ (Node.conditional test a' b').height := by
  refine Node.height_le_of_children fun c hc => ?_
  simp only [Node.children, List.mem_cons, List.mem_append, Option.mem_toList] at hc ⊢
  rcases hc with rfl | hc | hc
  · exact ⟨c, .inl rfl, Nat.le_refl _⟩
  · obtain ⟨n', hn', hle⟩ := ha c hc
    exact ⟨n', .inr (.inl hn'), hle⟩
  · obtain ⟨n', hn', hle⟩ := hb c hc
    exact ⟨n', .inr (.inr hn'), hle⟩

section Marks

variable {ts : Tokens}

lemma conditionalMark?_of_isName (h : isName "if" ts = true) :
    conditionalMark? false ts = none := by
  simp [conditionalMark?, isPunct, peek_of_isName h]

/-- Without an inline `if` no other marks are found than with it. -/
lemma conditionalMark?_of_false {mark : ConditionalMark}
    (h : conditionalMark? false ts = some mark) :
    mark ≠ .inlineIf ∧ conditionalMark? true ts = some mark := by
  unfold conditionalMark? at h ⊢
  split at h
  · rename_i helvis
    obtain rfl := Option.some.inj h
    exact ⟨by rintro ⟨⟩, if_pos helvis⟩
  · rename_i helvis
    rw [if_neg helvis]
    split at h
    · rename_i hquestion
      obtain rfl := Option.some.inj h
      exact ⟨by rintro ⟨⟩, if_pos hquestion⟩
    · cases h

lemma conditionalMark?_eq_or (h : conditionalMark? false ts = none) :
    conditionalMark? true ts = none ∨ isName "if" ts = true := by
  cases hif : isName "if" ts with
  | true => exact .inr rfl
  | false =>
    refine .inl ?_
    rw [← h]
    simp [conditionalMark?, hif]

end Marks

section Conditionals

variable {scope : Scope} {inner : Inner} {inlineIf : Bool}

lemma height_conditionalRest (e : Node) (ts : Tokens) (mark : ConditionalMark) :
    Gives (conditionalRest scope inner inlineIf e ts mark) fun a => e.height ≤ a.1.height := by
  have htest : ∀ a b, e.height ≤ (Node.conditional e a b).height := fun a b =>
    Nat.le_of_lt (Node.height_lt_of_mem List.mem_cons_self)
  have hthen : ∀ test b, e.height ≤ (Node.conditional test (some e) b).height := fun test b =>
    Nat.le_of_lt (Node.height_lt_of_mem (List.mem_cons_of_mem _ List.mem_cons_self))
  -- before `?` and `?:` stands the test, before an inline `if` what it chooses
  cases mark with
  | elvis => exact gives_step fun a => gives_pure (htest _ _)
  | question =>
    refine gives_step ?_
    rintro ⟨thenNode, r⟩
    dsimp only
    split
    · exact gives_step fun a => gives_pure (htest _ _)
    · exact gives_pure (htest _ _)
  | inlineIf =>
    refine gives_step ?_
    rintro ⟨test, r⟩
    dsimp only
    split
    · exact gives_step fun a => gives_pure (hthen _ _)
    · exact gives_pure (hthen _ _)

lemma height_conditionalChain (links : Nat) (e : Node) (ts : Tokens) :
    Gives (conditionalChain scope inner inlineIf links e ts) fun a => e.height ≤ a.1.height := by
  induction links generalizing e ts with
  | zero =>
    unfold conditionalChain
    split
    · exact gives_failAt _ _
    · exact gives_ok (Nat.le_refl _)
  | succ links ih =>
    unfold conditionalChain
    split
    · rename_i mark _
      refine gives_bind (height_conditionalRest e ts.tail mark) ?_
      rintro ⟨next, r⟩ hnext
      exact (ih next r).mono fun a ha => Nat.le_trans hnext ha
    · exact gives_ok (Nat.le_refl _)

lemma conditionalChain_of_none {links : Nat} {e : Node} {ts : Tokens}
    (h : conditionalMark? inlineIf ts = none) :
    conditionalChain scope inner inlineIf links e ts = .ok (e, ts) := by
  cases links <;> simp [conditionalChain, h]

/-- Where no mark is found without an inline `if`, the reading with it goes on at an `if` only. -/
lemma agreesToIf_conditionalChain_of_none {links : Nat} {e : Node} {ts : Tokens}
    (h : conditionalMark? false ts = none) :
    AgreesToIf (conditionalChain scope inner false links e ts)
      (conditionalChain scope inner true links e ts) := by
  rw [conditionalChain_of_none h]
  rcases conditionalMark?_eq_or h with htrue | hif
  · rw [conditionalChain_of_none htrue]
    exact agreesToIf_refl _
  · exact .inr ⟨e, ts, rfl, hif, height_conditionalChain links e ts⟩

namespace Inner.Agrees

lemma conditionalRest (h : inner.Agrees) (e : Node) (ts : Tokens) {mark : ConditionalMark}
    (hmark : mark ≠ .inlineIf) :
    AgreesToIf (Syntax.conditionalRest scope inner false e ts mark)
      (Syntax.conditionalRest scope inner true e ts mark) := by
  have hbranch : ∀ {a b : Node}, a.height ≤ b.height → ∀ n ∈ some a, ∃ n' ∈ some b,
      n.height ≤ n'.height := by
    rintro a b hab n ⟨⟩
    exact ⟨b, rfl, hab⟩
  cases mark with
  | elvis => exact (h.expr ts).wrap fun a b hab => height_conditional_le (by simp) (hbranch hab)
  | question =>
    unfold Syntax.conditionalRest
    rcases h.expr ts with hread | ⟨thenNode, r, hthen, hif, hle⟩
    · refine hread.bind_toIf ?_
      rintro ⟨thenNode, r⟩
      dsimp only
      split
      · have hbuild : ∀ a b : Node, a.height ≤ b.height →
            (Node.conditional e (some thenNode) (some a)).height ≤
              (Node.conditional e (some thenNode) (some b)).height :=
          fun a b hab => height_conditional_le (hbranch (Nat.le_refl _)) (hbranch hab)
        exact (h.expr _).wrap hbuild
      · exact agreesToIf_refl _
    · -- no colon stands where an `if` does
      refine .inr ⟨.conditional e (some thenNode) none, r, ?_, hif, ?_⟩
      · simp only [hthen, bind, Except.bind, eatPunct?_of_isName hif]
        rfl
      · refine gives_bind hle ?_
        rintro ⟨thenNode', r'⟩ hle'
        dsimp only
        split
        · exact gives_step fun a => gives_pure (height_conditional_le (hbranch hle') (by simp))
        · exact gives_pure (height_conditional_le (hbranch hle') (by simp))
  | inlineIf => exact absurd rfl hmark

lemma conditionalChain (h : inner.Agrees) (links : Nat) (e : Node) (ts : Tokens) :
    AgreesToIf (Syntax.conditionalChain scope inner false links e ts)
      (Syntax.conditionalChain scope inner true links e ts) := by
  induction links generalizing e ts with
  | zero =>
    cases hmark : conditionalMark? false ts with
    | none => exact agreesToIf_conditionalChain_of_none hmark
    | some mark =>
      simp only [Syntax.conditionalChain, hmark, (conditionalMark?_of_false hmark).2]
      exact agreesToIf_refl _
  | succ links ih =>
    cases hmark : conditionalMark? false ts with
    | none => exact agreesToIf_conditionalChain_of_none hmark
    | some mark =>
      obtain ⟨hne, htrue⟩ := conditionalMark?_of_false hmark
      simp only [Syntax.conditionalChain, hmark, htrue]
      rcases h.conditionalRest e ts.tail hne with hrest | ⟨next, r, hnext, hif, hle⟩
      · exact hrest.bind_toIf fun a => ih a.1 a.2
      · -- one reading stops at an inline `if`, the other takes it and only gets taller
        refine .inr ⟨next, r, ?_, hif, gives_bind hle ?_⟩
        · rw [hnext]
          exact conditionalChain_of_none (conditionalMark?_of_isName hif)
        · rintro ⟨next', r'⟩ hle'
          exact (height_conditionalChain links next' r').mono fun a ha => Nat.le_trans hle' ha

lemma bounded (h : inner.Agrees) (scope : Scope) (ts : Tokens) :
    AgreesToIf (bounded scope inner false ts) (bounded scope inner true ts) := by
  have hconditional :
      AgreesToIf (conditional scope inner false ts) (conditional scope inner true ts) :=
    (h.coalesced scope ts).bind_toIf fun a => h.conditionalChain maxHeight a.1 a.2
  unfold Syntax.bounded
  rcases hconditional with hread | ⟨e, r, he, hif, hle⟩
  · exact .inl (hread.bind fun a => agrees_refl _)
  · rw [he]
    by_cases htall : maxHeight < e.height
    · -- then the other node is too tall as well
      refine .inl (.inr ⟨⟨lineOf ts, .tooTall⟩, if_pos htall, .inr ?_⟩)
      cases hy : conditional scope inner true ts with
      | error e' => exact ⟨e', rfl⟩
      | ok a =>
        exact ⟨⟨lineOf ts, .tooTall⟩, if_pos (Nat.lt_of_lt_of_le htall (hle a hy))⟩
    · refine .inr ⟨e, r, if_neg htall, hif, gives_bind hle ?_⟩
      rintro ⟨e', r'⟩ hle'
      dsimp only
      split
      · exact gives_failAt _ _
      · exact gives_ok hle'

end Inner.Agrees

end Conditionals

/-- With so much nesting left, expressions read alike without and with an inline `if`, up to an
`if`. -/
lemma agrees_level (scope : Scope) (room : Nat) : (level scope room).Agrees := by
  induction room with
  | zero => exact ⟨fun _ => agreesToIf_refl _, fun _ => agrees_refl _, fun _ => agrees_refl _⟩
  | succ room ih => exact ⟨ih.bounded scope, ih.negation_succ scope, ih.signed_succ scope⟩

/-! ### Brackets -/

/-- What stands behind the opening parenthesis of a key, for the keys in parentheses that a reading
of the pairs of a hash comes to. -/
inductive KeyAt (inner : Inner) : Tokens → Tokens → Prop
  | here (p : Position) (key : Tokens) : KeyAt inner (⟨.punct .openParen, p⟩ :: key) key
  | next {ts r r' key : Tokens} {pair : Node × Node}
      (hpair : hashPair inner true ts = .ok (pair, r)) (hcomma : eatPunct? .comma r = some r')
      (h : KeyAt inner r' key) : KeyAt inner ts key

variable {inner : Inner} {ts r key : Tokens}

lemma hashPair_eq
    (h : ∀ p key, ts = ⟨.punct .openParen, p⟩ :: key → inner.expr false key = inner.expr true key) :
    hashPair inner false ts = hashPair inner true ts := by
  have hkey : hashKey inner false ts = hashKey inner true ts := by
    unfold hashKey
    split
    · rfl
    · rename_i t r
      split
      · rfl
      · rfl
      · rfl
      · -- only a parenthesised key asks whether an inline `if` may follow
        rename_i ht
        rw [h t.position r (by rw [← ht])]
      · rfl
  unfold hashPair
  rw [hkey]

lemma closedList_hashPair_eq
    (h : ∀ key, KeyAt inner ts key → inner.expr false key = inner.expr true key) :
    closedList .closeBrace (hashPair inner false) ts =
      closedList .closeBrace (hashPair inner true) ts := by
  refine loop_induct₂ (closedRound .closeBrace (hashPair inner false))
    (closedRound .closeBrace (hashPair inner true)) (motive := fun _ ts x y =>
      (∀ key, KeyAt inner ts key → inner.expr false key = inner.expr true key) → x = y)
    (fun _ _ _ => rfl) ?_ () ts h
  intro next next' hnext _ ts h
  have hpair : hashPair inner false ts = hashPair inner true ts := by
    refine hashPair_eq ?_
    rintro p key rfl
    exact h key (.here p key)
  unfold closedRound
  rw [hpair]
  split
  · rfl
  · refine bind_congr_of_ok ?_
    rintro ⟨pair, r⟩ hfirst
    dsimp only
    split
    · rename_i r' hcomma
      -- keys behind the first pair are keys of the rest
      rw [hnext () r' fun key hkey => h key (.next hfirst hcomma hkey)]
    · rfl

lemma closedList_hashPair (h : inner.Fair) (inlineIf : Bool) (ts : Tokens) :
    closedList .closeBrace (hashPair inner inlineIf) ts =
      closedRound .closeBrace (hashPair inner inlineIf)
        (fun _ => closedList .closeBrace (hashPair inner inlineIf)) () ts :=
  closedList_eq (fun ts => (h.hashPair inlineIf ts).ok) .closeBrace ts

lemma eatPunct?_of_hashPair {inlineIf : Bool} {a : (Node × Node) × Tokens}
    (h : hashPair inner inlineIf ts = .ok a) : eatPunct? .closeBrace ts = none := by
  unfold eatPunct?
  split
  · rename_i hclose
    cases ts with
    | nil => cases hclose
    | cons t r =>
      have ht : t.token = .punct .closeBrace := of_decide_eq_true hclose
      simp only [hashPair, hashKey, ht] at h
      cases h
  · rfl

/-- With an inline `if`, no parenthesis is missed in a hash. -/
lemma fails_closedList_hashPair (h : inner.Fair) (ts : Tokens) :
    Fails (closedList .closeBrace (hashPair inner true) ts) fun e => e.fault ≠ missedIf :=
  (stays_closedList (h.hashPair true) (by simp) ts).error.mono fun e he => he.fault rfl

/-- If two readings of a hash agree, so do those of its first pair. -/
lemma hashPair_eq_of_closedList (hfair : inner.Fair) (hagrees : inner.Agrees)
    (hopen : eatPunct? .closeBrace ts = none)
    (h : closedList .closeBrace (hashPair inner false) ts =
      closedList .closeBrace (hashPair inner true) ts) :
    hashPair inner false ts = hashPair inner true ts := by
  have hnot := fails_closedList_hashPair hfair ts
  rw [closedList_hashPair hfair, closedList_hashPair hfair] at h
  rw [closedList_hashPair hfair] at hnot
  simp only [closedRound, hopen] at h hnot
  exact (hagrees.hashPair ts).eq_of_bind h hnot

/-- If two readings of a pair agree, so do those of its key in parentheses. -/
lemma expr_eq_of_hashPair (hfair : inner.Fair) (hagrees : inner.Agrees) {p : Position}
    (h : hashPair inner false (⟨.punct .openParen, p⟩ :: key) =
      hashPair inner true (⟨.punct .openParen, p⟩ :: key)) :
    inner.expr false key = inner.expr true key := by
  have hpair := (hfair.hashPair true (⟨.punct .openParen, p⟩ :: key)).error
  have hkey := (hfair.hashKey true (⟨.punct .openParen, p⟩ :: key)).error
  have hsame := (hagrees.hashKey _).eq_of_bind h (hpair.mono fun e he => he.fault rfl)
  exact (hagrees.expr key).eq_of_closed (fun key r => pure ((key, none), r)) hsame
    (hkey.mono fun e he => he.fault rfl)

/-- If two readings of a hash agree, so do those of all keys in parentheses. -/
lemma expr_eq_of_closedList (hfair : inner.Fair) (hagrees : inner.Agrees)
    (hkey : KeyAt inner ts key)
    (h : closedList .closeBrace (hashPair inner false) ts =
      closedList .closeBrace (hashPair inner true) ts) :
    inner.expr false key = inner.expr true key := by
  induction hkey with
  | here p key =>
    have hpair := hashPair_eq_of_closedList hfair hagrees rfl h
    exact expr_eq_of_hashPair hfair hagrees hpair
  | @next ts r r' key pair hpair hcomma _ ih =>
    -- the first pair reads alike, and the rest of the list does where it is read at all
    have hopen := eatPunct?_of_hashPair hpair
    have hfirst := hashPair_eq_of_closedList hfair hagrees hopen h
    have hnot := fails_closedList_hashPair hfair ts
    refine ih ?_
    rw [closedList_hashPair hfair, closedList_hashPair hfair] at h
    rw [closedList_hashPair hfair] at hnot
    simp only [closedRound, hopen, hfirst, hpair, bind, Except.bind, hcomma] at h hnot
    exact (agrees_closedList hagrees.hashPair _ r').eq_of_bind h hnot

lemma callArgs_congr {inner' : Inner} (h : inner'.expr true = inner.expr true) :
    callArgs inner' = callArgs inner := by
  have hargument : argument inner' = argument inner := by
    funext ts
    unfold argument
    rw [h]
  unfold callArgs
  rw [hargument]

lemma primary_eq {scope : Scope} {t : Located} (ht : t.token ≠ .punct .openBrace) (r : Tokens) :
    primary scope inner false (t :: r) = primary scope inner true (t :: r) := by
  unfold primary
  dsimp only
  split
  · rfl
  · rfl
  · rfl
  · rfl
  · rfl
  · exact absurd (by assumption) ht
  · rfl

lemma primary_eq_iff {scope : Scope} (hfair : inner.Fair) (hagrees : inner.Agrees) {t : Located}
    (ht : t.token = .punct .openBrace) (r : Tokens) :
    primary scope inner false (t :: r) = primary scope inner true (t :: r) ↔
      ∀ key, KeyAt inner r key → inner.expr false key = inner.expr true key := by
  have hpairs := agrees_closedList hagrees.hashPair .closeBrace r
  unfold primary
  simp only [ht]
  constructor
  · intro h key hkey
    have hsame := hpairs.eq_of_bind h
      (fails_bind (fails_closedList_hashPair hfair r) fun _ _ => fails_ok _)
    exact expr_eq_of_closedList hfair hagrees hkey hsame
  · intro h
    rw [closedList_hashPair_eq h]

/-- An expression reads alike with and without an inline `if` unless it stops at one. -/
lemma expr_eq_ok_iff (hfair : inner.Fair) (hagrees : inner.Agrees) {e : Node}
    (h : inner.expr false ts = .ok (e, r)) :
    inner.expr true ts = .ok (e, r) ↔ isName "if" r = false := by
  constructor
  · intro htrue
    exact hfair.stops ts _ htrue
  · intro hnot
    rcases hagrees.expr ts with hread | ⟨e', r', he', hif, -⟩
    · exact hread.ok h
    · rw [h] at he'
      cases he'
      rw [hif] at hnot
      cases hnot

/-- **Brackets allow an inline `if` again, but not in the key of a hash.** A primary expression
reads alike whether or not an inline `if` may follow it, unless it is a hash. Arguments are always
read where one may follow. A hash reads alike if and only if each of its keys in parentheses does
that the reading comes to, since these keep what holds around the hash; and a key that is read
without an inline `if` is the same with it unless an `if` stands behind it. Whatever is read where
no inline `if` may follow is the same where one may. -/
theorem brackets_allow_inlineIf (scope : Scope) (room : Nat) (t : Located) (r : Tokens) :
    let inner := level scope room
    (t.token ≠ .punct .openBrace →
      primary scope inner false (t :: r) = primary scope inner true (t :: r)) ∧
    (∀ inner' : Inner, inner'.expr true = inner.expr true →
      callArgs inner' (t :: r) = callArgs inner (t :: r)) ∧
    (t.token = .punct .openBrace →
      (primary scope inner false (t :: r) = primary scope inner true (t :: r) ↔
        ∀ key, KeyAt inner r key → inner.expr false key = inner.expr true key)) ∧
    (∀ key e rest, inner.expr false key = .ok (e, rest) →
      (inner.expr true key = .ok (e, rest) ↔ isName "if" rest = false)) ∧
    ∀ a, primary scope inner false (t :: r) = .ok a →
      primary scope inner true (t :: r) = .ok a := by
  intro inner
  have hfair := fair_level scope room
  have hagrees := agrees_level scope room
  refine ⟨fun ht => primary_eq ht r, ?_, fun ht => primary_eq_iff hfair hagrees ht r, ?_, ?_⟩
  · intro inner' h
    rw [callArgs_congr h]
  · intro key e rest h
    exact expr_eq_ok_iff hfair hagrees h
  · intro a ha
    exact (hagrees.primary scope (t :: r)).ok ha

/-- A hash with an inline `if` in the parentheses of its key, as the iterable of a loop. -/
def keyIfLoop : String := "\x7b% for x in \x7b(a if b): 1\x7d %\x7d\x7b% endfor %\x7d"

/-- What stands in those parentheses and behind them. -/
def keyIf : Tokens :=
  [⟨.name "a", ⟨1, 14⟩⟩, ⟨.name "if", ⟨1, 16⟩⟩, ⟨.name "b", ⟨1, 19⟩⟩,
    ⟨.punct .closeParen, ⟨1, 20⟩⟩, ⟨.punct .colon, ⟨1, 21⟩⟩, ⟨.number ⟨1, 0⟩, ⟨1, 23⟩⟩,
    ⟨.punct .closeBrace, ⟨1, 24⟩⟩, ⟨.tagEnd, ⟨1, 26⟩⟩]

/-- The same in the brackets of a list. -/
def listIf : Tokens := keyIf.take 3 ++ [⟨.punct .closeBracket, ⟨1, 20⟩⟩]

/-- The loop is rejected, and its hash reads otherwise where an inline `if` may follow. A list is
read in both places. -/
theorem brackets_allow_inlineIf_keyIf :
    parse keyIfLoop = .error ⟨1, missedIf⟩ ∧
    primary Scope.start (level Scope.start 2) false
        (⟨.punct .openBrace, ⟨1, 12⟩⟩ :: ⟨.punct .openParen, ⟨1, 13⟩⟩ :: keyIf) ≠
      primary Scope.start (level Scope.start 2) true
        (⟨.punct .openBrace, ⟨1, 12⟩⟩ :: ⟨.punct .openParen, ⟨1, 13⟩⟩ :: keyIf) ∧
    ∀ inlineIf, primary Scope.start (level Scope.start 2) inlineIf
      (⟨.punct .openBracket, ⟨1, 13⟩⟩ :: listIf) =
        .ok (.list [.conditional (.nameRef "b") (some (.nameRef "a")) none], []) := by
  refine ⟨by with_unfolding_all rfl, fun h => ?_, ?_⟩
  · obtain ⟨-, -, hiff, -⟩ := brackets_allow_inlineIf Scope.start 2 ⟨.punct .openBrace, ⟨1, 12⟩⟩
      (⟨.punct .openParen, ⟨1, 13⟩⟩ :: keyIf)
    have hkey := (hiff rfl).1 h keyIf (.here _ _)
    have hfalse : (level Scope.start 2).expr false keyIf = .ok (.nameRef "a", keyIf.tail) := by
      with_unfolding_all rfl
    have htrue : (level Scope.start 2).expr true keyIf =
        .ok (.conditional (.nameRef "b") (some (.nameRef "a")) none, keyIf.drop 3) := by
      with_unfolding_all rfl
    rw [hfalse, htrue] at hkey
    cases hkey
  · have hlist : primary Scope.start (level Scope.start 2) false
        (⟨.punct .openBracket, ⟨1, 13⟩⟩ :: listIf) =
          .ok (.list [.conditional (.nameRef "b") (some (.nameRef "a")) none], []) := by
      with_unfolding_all rfl
    obtain ⟨-, -, -, -, hsame⟩ :=
      brackets_allow_inlineIf Scope.start 2 ⟨.punct .openBracket, ⟨1, 13⟩⟩ listIf
    intro inlineIf
    cases inlineIf with
    | false => exact hlist
    | true => exact hsame _ hlist

end TemplateMetrics.Syntax
