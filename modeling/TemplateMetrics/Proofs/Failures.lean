import TemplateMetrics.Proofs.Expressions

/-!
Where the readers of expressions fail.

What a reader leaves is the end of the tokens it was given, and what it reports stands on the line
of one of them (`Stays`). No reader goes past the token that ends a template, so a fault that
reports the end stands on the line of that token. Where an inline `if` may follow an expression, no
reader takes it for a missing parenthesis, since it stops at no `if` (`Inner.Fair`). One pass over
the readers shows all of this, by induction on the nesting that is left (`fair_level`).
-/

namespace TemplateMetrics.Syntax

variable {α β : Type}

/-- Whatever `x` fails with satisfies `P`. -/
def Fails (x : Parsed α) (P : SyntaxError → Prop) : Prop := ∀ e, x = .error e → P e

section Fails

variable {P Q : SyntaxError → Prop}

lemma fails_ok (a : α) : Fails (.ok a) P := by
  rintro _ ⟨⟩

lemma fails_error {e : SyntaxError} (h : P e) : Fails (.error e : Parsed α) P := by
  rintro _ ⟨rfl⟩
  exact h

lemma Fails.mono {x : Parsed α} (h : Fails x P) (hPQ : ∀ e, P e → Q e) : Fails x Q :=
  fun e he => hPQ e (h e he)

lemma fails_bind {x : Parsed α} {f : α → Parsed β} (hx : Fails x P)
    (hf : ∀ a, x = .ok a → Fails (f a) P) : Fails (x >>= f) P := by
  cases x with
  | error e => exact fails_error (hx e rfl)
  | ok a => exact hf a rfl

end Fails

lemma bind_congr_of_ok {x : Parsed α} {f g : α → Parsed β} (h : ∀ a, x = .ok a → f a = g a) :
    x >>= f = x >>= g := by
  cases x with
  | error e => rfl
  | ok a => exact h a rfl

/-! ### Tokens that are left -/

/-- Of the tokens `ts`, some are taken and `r` is left; none that is taken ends a template. -/
inductive Leaves : Tokens → Tokens → Prop
  | refl (ts : Tokens) : Leaves ts ts
  | cons {t : Located} {ts r : Tokens} (ht : t.token ≠ .eof) (h : Leaves ts r) : Leaves (t :: ts) r

/-- The tokens of a template: `last`, and no token before it, marks the end. -/
inductive EndsAt (last : Located) : Tokens → Prop
  | last (h : last.token = .eof) : EndsAt last [last]
  | cons {t : Located} {ts : Tokens} (ht : t.token ≠ .eof) (h : EndsAt last ts) :
      EndsAt last (t :: ts)

section Leaves

variable {ts r rest : Tokens} {t last : Located}

lemma Leaves.trans (h : Leaves ts r) (h' : Leaves r rest) : Leaves ts rest := by
  induction h with
  | refl => exact h'
  | cons ht _ ih => exact .cons ht (ih h')

lemma Leaves.suffix (h : Leaves ts r) : r <:+ ts := by
  induction h with
  | refl ts => exact List.suffix_refl ts
  | cons _ _ ih => exact ih.trans (List.suffix_cons _ _)

lemma Leaves.length_le (h : Leaves ts r) : r.length ≤ ts.length := h.suffix.length_le

lemma leaves_token {token : Token} (ht : t.token = token) (htoken : token ≠ .eof) :
    Leaves (t :: r) r :=
  .cons (ht ▸ htoken) (.refl r)

lemma leaves_tail (h : peek ts ≠ .eof) : Leaves ts ts.tail := by
  cases ts with
  | nil => exact .refl []
  | cons t r => exact .cons h (.refl r)

lemma Skips.leaves (h : Skips ts r) : Leaves ts r := by
  induction h with
  | refl ts => exact .refl ts
  | cons ht _ ih => exact .cons (fun heof => by rw [heof] at ht; cases ht) ih

lemma Takes.leaves (h : Takes ts r) : Leaves ts r := h.skips.leaves

/-- What is left ends where the tokens did. -/
lemma EndsAt.of_leaves (h : EndsAt last ts) (hr : Leaves ts r) : EndsAt last r := by
  induction hr with
  | refl => exact h
  | cons ht _ ih =>
    cases h with
    | last hlast => exact absurd hlast ht
    | cons _ h => exact ih h

lemma EndsAt.eq_last (h : EndsAt last (t :: r)) (ht : t.token = .eof) : t = last ∧ r = [] := by
  cases h with
  | last => exact ⟨rfl, rfl⟩
  | cons ht' _ => exact absurd ht ht'

end Leaves

/-! ### Tokens at which readers fail -/

/-- The fault of a closing parenthesis that is missed where an inline `if` stands. -/
abbrev missedIf : Fault := .expectedPunct .closeParen (.name "if")

/-- Faults that report the end of the template. -/
def Fault.isEnd : Fault → Bool
  | .unexpectedEnd _ => true
  | .unexpectedToken found => found = .eof
  | .unexpectedInExpression found => found = .eof
  | .unexpectedHashKey found => found = .eof
  | _ => false

/-- An error stands on the line of a token, or on the first line, and one that reports the end
stands on the line of the end. Where an inline `if` may follow an expression, it is not taken for a
missing parenthesis. -/
structure Fair (inlineIf : Bool) (ts : Tokens) (e : SyntaxError) : Prop where
  line : e.line ∈ 1 :: ts.map Located.line
  ended : e.fault.isEnd = true → ∀ last, EndsAt last ts → e.line = last.line
  fault : inlineIf = true → e.fault ≠ missedIf

/-- A reading stays within its tokens: it leaves their end, or it fails at one of them. -/
structure Stays (inlineIf : Bool) (ts : Tokens) (x : Parsed α) (rest : α → Tokens) : Prop where
  ok : Gives x fun a => Leaves ts (rest a)
  error : Fails x (Fair inlineIf ts)

/-- A reader stays within the tokens it is given. -/
abbrev Reader.Stays (inlineIf : Bool) (reader : Reader α) : Prop :=
  ∀ ts, Syntax.Stays inlineIf ts (reader ts) Prod.snd

variable {inlineIf : Bool} {ts r : Tokens} {x : Parsed α} {rest : α → Tokens}
  {rest' : β → Tokens} {fault : Fault}

lemma Fair.of_leaves {e : SyntaxError} (h : Fair inlineIf r e) (hr : Leaves ts r) :
    Fair inlineIf ts e := by
  refine ⟨?_, fun hend last hlast => h.ended hend last (hlast.of_leaves hr), h.fault⟩
  rcases List.mem_cons.1 h.line with hline | hline
  · exact List.mem_cons.2 (.inl hline)
  · exact List.mem_cons_of_mem _ ((hr.suffix.map _).subset hline)

lemma Stays.of_leaves (h : Stays inlineIf r x rest) (hr : Leaves ts r) : Stays inlineIf ts x rest :=
  ⟨h.ok.mono fun _ ha => hr.trans ha, h.error.mono fun _ he => he.of_leaves hr⟩

/-- What holds where an inline `if` may follow holds anywhere. -/
lemma Stays.of_true (h : Stays true ts x rest) : Stays inlineIf ts x rest :=
  ⟨h.ok, h.error.mono fun _ he => ⟨he.line, he.ended, fun _ => he.fault rfl⟩⟩

lemma stays_ok {a : α} (h : Leaves ts (rest a)) : Stays inlineIf ts (.ok a) rest :=
  ⟨gives_ok h, fails_ok a⟩

lemma stays_pure {a : α} (h : Leaves ts (rest a)) : Stays inlineIf ts (pure a) rest := stays_ok h

lemma mem_lineOf (ts : Tokens) : lineOf ts ∈ 1 :: ts.map Located.line := by
  cases ts <;> simp [lineOf]

lemma mem_lineAfter (t : Located) (r : Tokens) :
    lineAfter t r ∈ 1 :: (t :: r).map Located.line := by
  cases r <;> simp [lineAfter]

lemma fair_error {line : Nat} (hline : line ∈ 1 :: ts.map Located.line) (hfault : fault ≠ missedIf)
    (hend : fault.isEnd = false) : Fair inlineIf ts ⟨line, fault⟩ :=
  ⟨hline, fun h => absurd (hend.symm.trans h) (by simp), fun _ => hfault⟩

lemma fair_nil (hfault : fault ≠ missedIf) : Fair inlineIf [] ⟨lineOf [], fault⟩ := by
  refine ⟨mem_lineOf [], fun _ last hlast => ?_, fun _ => hfault⟩
  cases hlast

/-- A token that is not expected is reported on its line, and the end on the line of the end. -/
lemma fair_found {t : Located} {line : Nat} (hline : line ∈ 1 :: (t :: r).map Located.line)
    (hfault : fault ≠ missedIf) (hend : fault.isEnd = true → t.token = .eof)
    (hlast : r = [] → line = t.line) : Fair inlineIf (t :: r) ⟨line, fault⟩ := by
  refine ⟨hline, fun hf last hends => ?_, fun _ => hfault⟩
  obtain ⟨rfl, hr⟩ := hends.eq_last (hend hf)
  exact hlast hr

lemma stays_error {e : SyntaxError} (h : Fair inlineIf ts e) :
    Stays inlineIf ts (.error e : Parsed α) rest :=
  ⟨gives_error e, fails_error h⟩

lemma stays_failAt (hfault : fault ≠ missedIf) (hend : fault.isEnd = false) :
    Stays inlineIf ts (failAt ts fault : Parsed α) rest :=
  stays_error (fair_error (mem_lineOf ts) hfault hend)

/-- A loop with no round left fails on the first line. -/
lemma stays_stop : Stays inlineIf ts (.error ⟨1, .chainTooLong⟩ : Parsed α) rest :=
  stays_error (fair_error List.mem_cons_self (by rintro ⟨⟩) rfl)

/-- What comes next may fail at a token before it. -/
lemma stays_bind_within {f : α → Parsed β} (hx : Stays inlineIf ts x rest)
    (hf : ∀ a, x = .ok a → Leaves ts (rest a) → Stays inlineIf ts (f a) rest') :
    Stays inlineIf ts (x >>= f) rest' := by
  cases x with
  | error e => exact ⟨gives_error e, fails_error (hx.error e rfl)⟩
  | ok a => exact hf a rfl (hx.ok a rfl)

lemma stays_bind {f : α → Parsed β} (hx : Stays inlineIf ts x rest)
    (hf : ∀ a, x = .ok a → Stays inlineIf (rest a) (f a) rest') :
    Stays inlineIf ts (x >>= f) rest' :=
  stays_bind_within hx fun a ha hr => (hf a ha).of_leaves hr

lemma stays_expectPunct {p : Punct}
    (h : inlineIf = true → p = .closeParen → isName "if" ts = false) :
    Stays inlineIf ts (expectPunct p ts) id := by
  unfold expectPunct
  split
  · rename_i r hr
    exact stays_ok (takes_eatPunct? hr).leaves
  · refine stays_error ⟨mem_lineOf ts, by rintro ⟨⟩, fun hif hfault => ?_⟩
    obtain ⟨hp, hpeek⟩ := Fault.expectedPunct.inj hfault
    exact of_decide_eq_false (h hif hp) hpeek

lemma stays_expectName : Reader.Stays inlineIf expectName := by
  intro ts
  unfold expectName
  split
  · exact stays_ok (leaves_token rfl (by rintro ⟨⟩))
  · exact stays_failAt (by rintro ⟨⟩) rfl

lemma stays_closedList {item : Reader α} {close : Punct} (hitem : Reader.Stays inlineIf item)
    (hstops : close = .closeParen → ∀ ts, Gives (item ts) fun r => isName "if" r.2 = false) :
    Reader.Stays inlineIf (closedList close item) := by
  refine loop_induct (closedRound close item)
    (motive := fun _ ts x => Stays inlineIf ts x Prod.snd) (fun _ _ => stays_stop) ?_ ()
  intro next hnext _ ts
  unfold closedRound
  split
  · rename_i r hclose
    exact stays_ok (takes_eatPunct? hclose).leaves
  · refine stays_bind (hitem ts) ?_
    rintro ⟨x, r⟩ hx
    dsimp only
    split
    · rename_i r' hcomma
      refine stays_bind ((hnext () r').of_leaves (takes_eatPunct? hcomma).leaves) ?_
      rintro ⟨xs, r⟩ -
      exact stays_pure (.refl r)
    · -- the closing mark is a parenthesis only where an item stops at no `if`
      refine stays_bind (stays_expectPunct fun _ hc => hstops hc ts _ hx) fun r' _ => ?_
      exact stays_pure (.refl r')

/-! ### Calls and primaries -/

/-- What the readers one level of nesting further in leave and where they fail. An expression that
an inline `if` may follow does not end before one. -/
structure Inner.Fair (inner : Inner) : Prop where
  expr : ∀ inlineIf, Reader.Stays inlineIf (inner.expr inlineIf)
  negation : ∀ inlineIf, Reader.Stays inlineIf (inner.negation inlineIf)
  signed : ∀ inlineIf, Reader.Stays inlineIf (inner.signed inlineIf)
  stops : ∀ ts, Gives (inner.expr true ts) fun r => isName "if" r.2 = false

namespace Inner.Fair

variable {inner : Inner} {scope : Scope}

lemma argument (h : inner.Fair) : Reader.Stays true (argument inner) :=
  fun ts => (h.expr true _).of_leaves (skips_argumentStart ts).leaves

lemma callArgs (h : inner.Fair) : Reader.Stays true (callArgs inner) := by
  intro ts
  unfold Syntax.callArgs
  refine stays_bind (stays_expectPunct (by simp)) fun r _ => ?_
  exact stays_closedList h.argument (fun _ _ => h.stops _) r

lemma optionalArgs (h : inner.Fair) : Reader.Stays true (optionalArgs inner) := by
  intro ts
  unfold Syntax.optionalArgs
  split
  · refine stays_bind (h.callArgs ts) ?_
    rintro ⟨args, r⟩ -
    exact stays_pure (.refl r)
  · exact stays_ok (.refl ts)

/-- A parenthesised key is one that the flag of its surroundings holds for. -/
lemma hashKey (h : inner.Fair) (inlineIf : Bool) :
    Reader.Stays inlineIf (hashKey inner inlineIf) := by
  intro ts
  unfold Syntax.hashKey
  split
  · exact stays_error (fair_nil (by rintro ⟨⟩))
  · rename_i t r
    split
    · exact stays_ok (leaves_token (by assumption) (by rintro ⟨⟩))
    · exact stays_ok (leaves_token (by assumption) (by rintro ⟨⟩))
    · exact stays_ok (leaves_token (by assumption) (by rintro ⟨⟩))
    · -- a parenthesised key
      rename_i hopen
      refine Stays.of_leaves (stays_bind (h.expr inlineIf r) ?_)
        (leaves_token hopen (by rintro ⟨⟩))
      rintro ⟨key, r'⟩ hkey
      refine stays_bind (stays_expectPunct fun hif _ => ?_) fun r'' _ => ?_
      · subst hif
        exact h.stops r _ hkey
      · exact stays_pure (.refl r'')
    · -- no other token can be a key, and it is blamed on the line behind it
      refine stays_error (fair_found (mem_lineAfter t r) (by rintro ⟨⟩) of_decide_eq_true ?_)
      rintro rfl
      rfl

lemma hashPair (h : inner.Fair) (inlineIf : Bool) :
    Reader.Stays inlineIf (hashPair inner inlineIf) := by
  intro ts
  unfold Syntax.hashPair
  refine stays_bind (h.hashKey inlineIf ts) ?_
  rintro ⟨⟨key, shorthand⟩, r⟩ -
  dsimp only
  split
  · rename_i r' hcolon
    refine stays_bind ((h.expr true r').of_true.of_leaves (takes_eatPunct? hcolon).leaves) ?_
    rintro ⟨value, r''⟩ -
    exact stays_pure (.refl r'')
  · split
    · exact stays_ok (.refl r)
    · exact stays_failAt (by rintro ⟨⟩) rfl

lemma named (h : inner.Fair) (s : String) : Reader.Stays true (named scope inner s) := by
  intro ts
  unfold Syntax.named
  split
  · exact stays_ok (.refl ts)
  · refine stays_bind (h.optionalArgs ts) ?_
    rintro ⟨args, r⟩ -
    cases args with
    | none => exact stays_ok (.refl r)
    | some args =>
      dsimp only
      split
      · exact stays_ok (.refl r)
      · exact stays_ok (.refl r)

lemma primary (h : inner.Fair) (inlineIf : Bool) :
    Reader.Stays inlineIf (primary scope inner inlineIf) := by
  intro ts
  unfold Syntax.primary
  split
  · exact stays_error (fair_nil (by rintro ⟨⟩))
  · rename_i t r
    split
    · exact stays_ok (leaves_token (by assumption) (by rintro ⟨⟩))
    · exact stays_ok (leaves_token (by assumption) (by rintro ⟨⟩))
    · exact (h.named _ r).of_true.of_leaves (leaves_token (by assumption) (by rintro ⟨⟩))
    · -- a parenthesised expression, inside which an inline `if` may stand
      refine Stays.of_leaves (stays_bind (h.expr true r).of_true ?_)
        (leaves_token (by assumption) (by rintro ⟨⟩))
      rintro ⟨e, r'⟩ he
      refine stays_bind (stays_expectPunct fun _ _ => h.stops r _ he) fun r'' _ => ?_
      exact stays_pure (.refl r'')
    · -- a list
      refine Stays.of_leaves (stays_bind
        (stays_closedList (h.expr true) (by simp) r).of_true ?_)
        (leaves_token (by assumption) (by rintro ⟨⟩))
      rintro ⟨items, r'⟩ -
      exact stays_pure (.refl r')
    · -- a hash
      refine Stays.of_leaves (stays_bind
        (stays_closedList (h.hashPair inlineIf) (by simp) r) ?_)
        (leaves_token (by assumption) (by rintro ⟨⟩))
      rintro ⟨pairs, r'⟩ -
      exact stays_pure (.refl r')
    · -- no other token starts an expression
      exact stays_error (fair_found (List.mem_cons_of_mem _ List.mem_cons_self) (by rintro ⟨⟩)
        of_decide_eq_true fun _ => rfl)

/-! ### Members, subscripts and filters -/

lemma memberName : Reader.Stays inlineIf memberName := by
  intro ts
  unfold Syntax.memberName
  split
  · exact stays_failAt (by rintro ⟨⟩) rfl
  · rename_i t r
    split
    · exact stays_ok (leaves_token (by assumption) (by rintro ⟨⟩))
    · exact stays_ok (leaves_token (by assumption) (by rintro ⟨⟩))
    · exact stays_error (fair_error (mem_lineAfter t r) (by rintro ⟨⟩) rfl)

lemma sliceEnd (h : inner.Fair) (absent : Bool) : Reader.Stays true (sliceEnd inner absent) := by
  intro ts
  unfold Syntax.sliceEnd
  split
  · exact stays_ok (.refl ts)
  · exact h.expr true ts

lemma sliceOrIndex (h : inner.Fair) : Reader.Stays true (sliceOrIndex inner) := by
  intro ts
  unfold Syntax.sliceOrIndex
  refine stays_bind (h.sliceEnd _ ts) ?_
  rintro ⟨low, r⟩ -
  dsimp only
  split
  · exact stays_ok (.refl r)
  · rename_i r' hcolon
    refine stays_bind ((h.sliceEnd _ r').of_leaves (takes_eatPunct? hcolon).leaves) ?_
    rintro ⟨high, r''⟩ -
    exact stays_pure (.refl r'')

lemma filterSegment (h : inner.Fair) (target : Option Node) :
    Reader.Stays true (filterSegment inner target) := by
  intro ts
  unfold Syntax.filterSegment
  refine stays_bind (stays_expectName ts) ?_
  rintro ⟨name, r⟩ -
  refine stays_bind (h.optionalArgs r) ?_
  rintro ⟨args, r'⟩ -
  exact stays_pure (.refl r')

lemma postfixPart (h : inner.Fair) (node : Node) (hmark : isPostfixMark (peek ts) = true) :
    Stays true ts (postfixPart scope inner node ts) Prod.snd := by
  have htail := (takes_postfixMark hmark).leaves
  unfold Syntax.postfixPart
  split
  · refine Stays.of_leaves (stays_bind (memberName ts.tail) ?_) htail
    rintro ⟨name, r⟩ -
    refine stays_bind (h.optionalArgs r) ?_
    rintro ⟨args, r'⟩ -
    exact stays_pure (.refl r')
  · refine Stays.of_leaves (stays_bind (h.sliceOrIndex ts.tail) ?_) htail
    rintro ⟨index, r⟩ -
    refine stays_bind (stays_expectPunct (by simp)) fun r' _ => ?_
    exact stays_pure (.refl r')
  · exact (h.filterSegment (some node) ts.tail).of_leaves htail

lemma postfixChain (h : inner.Fair) (links : Nat) (node : Node) :
    Reader.Stays true (postfixChain scope inner links node) := by
  induction links generalizing node with
  | zero =>
    intro ts
    unfold Syntax.postfixChain
    split
    · exact stays_failAt (by rintro ⟨⟩) rfl
    · exact stays_ok (.refl ts)
  | succ links ih =>
    intro ts
    unfold Syntax.postfixChain
    split
    · rename_i hmark
      refine stays_bind (h.postfixPart node hmark) ?_
      rintro ⟨next, r⟩ -
      exact ih next r
    · exact stays_ok (.refl ts)

lemma signed_succ (h : inner.Fair) (inlineIf : Bool) :
    Reader.Stays inlineIf (Syntax.signed scope inner inlineIf) := by
  -- both signs are read alike
  have hsign : ∀ op {ts mark}, peek ts = .punct mark → Stays inlineIf ts
      (inner.signed inlineIf ts.tail >>= fun r => pure (.unary op r.1, r.2) :
        Parsed (Node × Tokens)) Prod.snd := by
    intro op ts mark hmark
    refine Stays.of_leaves (stays_bind (h.signed inlineIf ts.tail) ?_)
      (leaves_tail (by rw [hmark]; rintro ⟨⟩))
    rintro ⟨operand, r⟩ -
    exact stays_pure (.refl r)
  intro ts
  unfold Syntax.signed
  split
  · rename_i hminus
    exact hsign .minus hminus
  · rename_i hplus
    exact hsign .plus hplus
  · refine stays_bind (h.primary inlineIf ts) ?_
    rintro ⟨node, r⟩ -
    exact (h.postfixChain maxHeight node r).of_true

end Inner.Fair

/-! ### Operators -/

section Chains

variable {operand : Reader Node} {operator : Operator}

lemma stays_chain {scope : Scope} (hoperand : Reader.Stays inlineIf operand)
    (hoperator : Operator.Sound scope operator) (links : Nat) (left : Node) :
    Reader.Stays inlineIf (chain operand operator links left) := by
  induction links generalizing left with
  | zero =>
    intro ts
    unfold chain
    split
    · rename_i build r hop
      -- the operator is taken before the chain is found too long
      refine Stays.of_leaves ?_ (hoperator ts build r hop).1.leaves
      exact stays_failAt (by rintro ⟨⟩) rfl
    · exact stays_ok (.refl ts)
  | succ links ih =>
    intro ts
    unfold chain
    split
    · rename_i build r hop
      refine stays_bind ((hoperand r).of_leaves (hoperator ts build r hop).1.leaves) ?_
      rintro ⟨right, r'⟩ -
      exact ih _ r'
    · exact stays_ok (.refl ts)

lemma stays_chained {scope : Scope} (hoperand : Reader.Stays inlineIf operand)
    (hoperator : Operator.Sound scope operator) :
    Reader.Stays inlineIf (chained operand operator) := by
  intro ts
  refine stays_bind (hoperand ts) ?_
  rintro ⟨left, r⟩ -
  exact stays_chain hoperand hoperator maxHeight left r

lemma stays_concatenation (h : Reader.Stays inlineIf operand) :
    Reader.Stays inlineIf (concatenation operand) := by
  have hmark : ∀ table, Operator.Sound Scope.start (punctOperator table) := sound_punctOperator
  exact stays_chained (stays_chained (stays_chained (stays_chained h (hmark _)) (hmark _))
    (hmark _)) (hmark _)

lemma stays_range (h : Reader.Stays inlineIf operand) : Reader.Stays inlineIf (range operand) := by
  intro ts
  unfold range
  refine stays_bind (stays_concatenation h ts) ?_
  rintro ⟨left, r⟩ -
  dsimp only
  split
  · rename_i r' hrange
    refine stays_bind ((stays_concatenation h r').of_leaves (takes_eatPunct? hrange).leaves) ?_
    rintro ⟨right, r''⟩ -
    exact stays_pure (.refl r'')
  · exact stays_ok (.refl r)

end Chains

namespace Inner.Fair

variable {inner : Inner} {scope : Scope}

lemma testOf (h : inner.Fair) (target : Node) : Reader.Stays true (testOf inner target) := by
  intro ts
  unfold Syntax.testOf
  refine Stays.of_leaves (stays_bind (stays_expectName (testSign ts).2) ?_)
    (skips_testSign ts).leaves
  rintro ⟨word, r⟩ -
  refine Stays.of_leaves (stays_bind (h.optionalArgs (testName word r).2) ?_)
    (skips_testName word r).leaves
  rintro ⟨args, r'⟩ -
  exact stays_pure (.refl r')

lemma compareChain (h : inner.Fair) {operand : Reader Node}
    (hoperand : Reader.Stays inlineIf operand) (links : Nat) (left : Node) :
    Reader.Stays inlineIf (compareChain inner operand links left) := by
  induction links generalizing left with
  | zero =>
    intro ts
    unfold Syntax.compareChain
    split
    · rename_i r his
      refine Stays.of_leaves ?_ (takes_eatName? his).leaves
      exact stays_failAt (by rintro ⟨⟩) rfl
    · split
      · rename_i op r hop
        refine Stays.of_leaves ?_ (takes_comparison? hop).leaves
        exact stays_failAt (by rintro ⟨⟩) rfl
      · exact stays_ok (.refl ts)
  | succ links ih =>
    intro ts
    unfold Syntax.compareChain
    split
    · -- a test
      rename_i r his
      refine stays_bind ((h.testOf left r).of_true.of_leaves (takes_eatName? his).leaves) ?_
      rintro ⟨next, r'⟩ -
      exact ih next r'
    · split
      · -- a comparison
        rename_i op r hop
        refine stays_bind ((hoperand r).of_leaves (takes_comparison? hop).leaves) ?_
        rintro ⟨right, r'⟩ -
        exact ih _ r'
      · exact stays_ok (.refl ts)

lemma negation_succ (h : inner.Fair) (inlineIf : Bool) :
    Reader.Stays inlineIf (Syntax.negation scope inner inlineIf) := by
  have hrange : Reader.Stays inlineIf (range (Syntax.signed scope inner inlineIf)) :=
    stays_range (h.signed_succ inlineIf)
  intro ts
  unfold Syntax.negation
  split
  · rename_i r hnot
    refine stays_bind ((h.negation inlineIf r).of_leaves (takes_eatName? hnot).leaves) ?_
    rintro ⟨operand, r'⟩ -
    exact stays_pure (.refl r')
  · refine stays_bind (hrange ts) ?_
    rintro ⟨left, r⟩ -
    exact h.compareChain hrange maxHeight left r

lemma coalesced (h : inner.Fair) (inlineIf : Bool) :
    Reader.Stays inlineIf (coalesced scope inner inlineIf) := by
  have hword : ∀ op, Operator.Sound scope (logicalOperator op) := sound_logicalOperator
  have hmark : Operator.Sound scope (punctOperator coalesceOp) := sound_punctOperator _
  exact stays_chained (stays_chained (stays_chained (h.negation_succ inlineIf) (hword .and))
    (hword .or)) hmark

/-! ### Conditionals -/

/-- Where no conditional goes on, no inline `if` stands that could follow. -/
lemma isName_of_conditionalMark? (h : conditionalMark? true ts = none) :
    isName "if" ts = false := by
  unfold conditionalMark? at h
  split at h
  · cases h
  · split at h
    · cases h
    · simpa using h

lemma conditionalRest (h : inner.Fair) (inlineIf : Bool) (e : Node) (ts : Tokens)
    (mark : ConditionalMark) :
    Stays inlineIf ts (conditionalRest scope inner inlineIf e ts mark) Prod.snd := by
  cases mark with
  | elvis =>
    refine stays_bind (h.expr inlineIf ts) ?_
    rintro ⟨orElse, r⟩ -
    exact stays_pure (.refl r)
  | question =>
    unfold Syntax.conditionalRest
    refine stays_bind (h.expr inlineIf ts) ?_
    rintro ⟨thenNode, r⟩ -
    dsimp only
    split
    · rename_i r' hcolon
      refine stays_bind ((h.expr inlineIf r').of_leaves (takes_eatPunct? hcolon).leaves) ?_
      rintro ⟨orElse, r''⟩ -
      exact stays_pure (.refl r'')
    · exact stays_pure (.refl r)
  | inlineIf =>
    unfold Syntax.conditionalRest
    refine stays_bind (h.coalesced inlineIf ts) ?_
    rintro ⟨test, r⟩ -
    dsimp only
    split
    · rename_i r' helse
      refine stays_bind ((h.expr inlineIf r').of_leaves (takes_eatName? helse).leaves) ?_
      rintro ⟨orElse, r''⟩ -
      exact stays_pure (.refl r'')
    · exact stays_pure (.refl r)

lemma conditionalChain (h : inner.Fair) (inlineIf : Bool) (links : Nat) (e : Node) :
    Reader.Stays inlineIf (conditionalChain scope inner inlineIf links e) := by
  induction links generalizing e with
  | zero =>
    intro ts
    unfold Syntax.conditionalChain
    split
    · rename_i mark hmark
      refine Stays.of_leaves ?_ (takes_conditionalMark? hmark).leaves
      exact stays_failAt (by rintro ⟨⟩) rfl
    · exact stays_ok (.refl ts)
  | succ links ih =>
    intro ts
    unfold Syntax.conditionalChain
    split
    · rename_i mark hmark
      refine Stays.of_leaves (stays_bind (h.conditionalRest inlineIf e ts.tail mark) ?_)
        (takes_conditionalMark? hmark).leaves
      rintro ⟨next, r⟩ -
      exact ih next r
    · exact stays_ok (.refl ts)

lemma conditionalChain_stops (links : Nat) (e : Node) (ts : Tokens) :
    Gives (Syntax.conditionalChain scope inner true links e ts) fun r =>
      isName "if" r.2 = false := by
  induction links generalizing e ts with
  | zero =>
    unfold Syntax.conditionalChain
    split
    · exact gives_failAt _ _
    · rename_i hmark
      exact gives_ok (isName_of_conditionalMark? hmark)
  | succ links ih =>
    unfold Syntax.conditionalChain
    split
    · exact gives_step fun r => ih r.1 r.2
    · rename_i hmark
      exact gives_ok (isName_of_conditionalMark? hmark)

lemma bounded (h : inner.Fair) (inlineIf : Bool) :
    Reader.Stays inlineIf (bounded scope inner inlineIf) := by
  intro ts
  have hconditional : Stays inlineIf ts (conditional scope inner inlineIf ts) Prod.snd := by
    refine stays_bind (h.coalesced inlineIf ts) ?_
    rintro ⟨e, r⟩ -
    exact h.conditionalChain inlineIf maxHeight e r
  refine stays_bind_within hconditional ?_
  rintro ⟨e, r⟩ - hr
  dsimp only
  split
  · exact stays_failAt (by rintro ⟨⟩) rfl
  · exact stays_ok hr

lemma bounded_stops (ts : Tokens) :
    Gives (Syntax.bounded scope inner true ts) fun r => isName "if" r.2 = false := by
  have hstops : Gives (conditional scope inner true ts) fun r => isName "if" r.2 = false :=
    gives_step fun r => conditionalChain_stops maxHeight r.1 r.2
  refine gives_bind hstops ?_
  rintro ⟨e, r⟩ hr
  dsimp only
  split
  · exact gives_failAt _ _
  · exact gives_ok hr

end Inner.Fair

/-- With so much nesting left, every reader of expressions stays within its tokens. -/
lemma fair_level (scope : Scope) (room : Nat) : (level scope room).Fair := by
  induction room with
  | zero =>
    refine ⟨fun _ _ => ?_, fun _ _ => ?_, fun _ _ => ?_, fun _ => ?_⟩
    · exact stays_failAt (by rintro ⟨⟩) rfl
    · exact stays_failAt (by rintro ⟨⟩) rfl
    · exact stays_failAt (by rintro ⟨⟩) rfl
    · exact gives_failAt _ _
  | succ room ih =>
    exact ⟨ih.bounded, ih.negation_succ, ih.signed_succ, Inner.Fair.bounded_stops⟩

end TemplateMetrics.Syntax
