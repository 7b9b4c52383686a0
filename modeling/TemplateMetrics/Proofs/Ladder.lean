import Mathlib.Tactic.Common
import TemplateMetrics.Syntax.Statement

/-!
The ladder of operators.

The readers of an expression stand on rungs, from a signed primary at 0 up to a conditional at 10.
Every token that may follow an operand has a rank: the rung whose operator it starts. A reader goes
no further than the tokens up to its own rung, so what one rung reads before a token of higher rank
is read by all the rungs below that token (`rung_of_le`).
-/

namespace TemplateMetrics.Syntax

/-! ### Tokens at the front -/

/-- Of a list of tokens, these stand at the front and the others come after them. -/
inductive Fronts : List Token → Tokens → Tokens → Prop
  | nil (rest : Tokens) : Fronts [] rest rest
  | cons {t : Token} {toks : List Token} {ts rest : Tokens} (p : Position)
      (h : Fronts toks ts rest) : Fronts (t :: toks) (⟨t, p⟩ :: ts) rest

lemma fronts_map (l rest : Tokens) : Fronts (l.map Located.token) (l ++ rest) rest := by
  induction l with
  | nil => exact .nil rest
  | cons t r ih => exact .cons t.position ih

lemma Fronts.split {a b : List Token} {ts rest : Tokens} (h : Fronts (a ++ b) ts rest) :
    ∃ middle, Fronts a ts middle ∧ Fronts b middle rest := by
  induction a generalizing ts with
  | nil => exact ⟨ts, .nil ts, h⟩
  | cons t a ih =>
    obtain _ | ⟨p, h⟩ := h
    obtain ⟨middle, ha, hb⟩ := ih h
    exact ⟨middle, .cons p ha, hb⟩

lemma Fronts.length_le {a : List Token} {ts rest : Tokens} (h : Fronts a ts rest) :
    rest.length ≤ ts.length := by
  induction h with
  | nil => exact Nat.le_refl _
  | cons p h ih => exact Nat.le_succ_of_le ih

lemma Fronts.peek {t : Token} {a : List Token} {ts rest : Tokens} (h : Fronts (t :: a) ts rest) :
    peek ts = t := by
  cases h
  rfl

variable {ts rest r r' : Tokens}

lemma eatName?_of_ne {s : String} (h : peek ts ≠ .name s) : eatName? s ts = none := by
  simp [eatName?, isName, h]

lemma eatPunct?_of_ne {p : Punct} (h : peek ts ≠ .punct p) : eatPunct? p ts = none := by
  simp [eatPunct?, isPunct, h]

/-! ### Ranks -/

def Punct.rank : Punct → Nat
  | .dot | .openBracket | .pipe | .openParen => 0
  | .power => 1
  | .times | .floorDivide | .divide | .modulo => 2
  | .plus | .minus => 3
  | .tilde => 4
  | .range => 5
  | .equal | .notEqual | .less | .greater | .atMost | .atLeast => 6
  | .coalesce => 9
  | .elvis | .question => 10
  | _ => 11

/-- The rung whose operator a token starts behind an operand; 11 if it starts none. -/
def Token.rank : Token → Nat
  | .punct p => p.rank
  | .name "is" | .name "not" | .name "starts" | .name "ends" | .name "in" | .name "matches" => 6
  | .name "and" => 7
  | .name "or" => 8
  | .name "if" => 10
  | _ => 11

/-- A token of another rank is another token. -/
lemma peek_ne {t : Token} {k : Nat} (h : k < (peek ts).rank) (ht : t.rank ≤ k) : peek ts ≠ t := by
  intro he
  rw [he] at h
  omega

/-- The marks that are operators of a rung. -/
def marksOf : Nat → Punct → Option BinaryOp
  | 1 => powerOp
  | 2 => productOp
  | 3 => sumOp
  | 4 => concatOp
  | 6 => compareOp
  | 9 => coalesceOp
  | _ => fun _ => none

lemma marksOf_eq_none {k : Nat} {p : Punct} (h : k < p.rank) : marksOf k p = none := by
  unfold marksOf
  split
  all_goals first
    | rfl
    | cases p <;> first | rfl | exact absurd h (by decide)

lemma punctOperator_eq_none {k : Nat} (h : k < (peek ts).rank) :
    punctOperator (marksOf k) ts = none := by
  cases ts with
  | nil => rfl
  | cons t r =>
    obtain ⟨token, position⟩ := t
    cases token with
    | punct p => simp [punctOperator, marksOf_eq_none (p := p) h]
    | _ => rfl

lemma logicalOperator_eq_none {op : LogicalOp} {k : Nat} (h : k < (peek ts).rank)
    (hop : (Token.name op.text).rank ≤ k) : logicalOperator op ts = none := by
  simp [logicalOperator, eatName?_of_ne (peek_ne h hop)]

lemma comparison?_eq_none (h : 6 < (peek ts).rank) : comparison? ts = none := by
  have hword : ∀ {s : String}, (Token.name s).rank ≤ 6 → peek ts ≠ .name s := peek_ne h
  unfold comparison?
  split
  · rename_i p _ _
    have hnone : compareOp p = none := marksOf_eq_none (k := 6) h
    rw [hnone]
    rfl
  · exact absurd rfl (hword (s := "not") (by decide))
  · exact absurd rfl (hword (s := "starts") (by decide))
  · exact absurd rfl (hword (s := "ends") (by decide))
  · exact absurd rfl (hword (s := "in") (by decide))
  · exact absurd rfl (hword (s := "matches") (by decide))
  · rfl

lemma conditionalMark?_eq_none (inlineIf : Bool) (h : 10 < (peek ts).rank) :
    conditionalMark? inlineIf ts = none := by
  have helvis : peek ts ≠ .punct .elvis := peek_ne h (by decide)
  have hquestion : peek ts ≠ .punct .question := peek_ne h (by decide)
  have hif : peek ts ≠ .name "if" := peek_ne h (by decide)
  simp [conditionalMark?, isPunct, isName, helvis, hquestion, hif]

lemma isPostfixMark_eq_false {t : Token} (h : 0 < t.rank) : isPostfixMark t = false := by
  cases t with
  | punct p => cases p <;> first | rfl | exact absurd h (by decide)
  | _ => rfl

/-! ### Chains of one link -/

section Chains

variable {operand : Reader Node} {operator : Operator} {e left right : Node}

lemma chain_of_none (links : Nat) (h : operator ts = none) :
    chain operand operator links e ts = .ok (e, ts) := by
  cases links <;> simp [chain, h]

lemma chained_of_none (h : operand ts = .ok (e, r)) (hop : operator r = none) :
    chained operand operator ts = .ok (e, r) := by
  rw [chained, h]
  exact chain_of_none maxHeight hop

lemma chain_of_some {build : Node → Node → Node} {links : Nat} (hlinks : 0 < links)
    (hop : operator ts = some (build, r)) (hright : operand r = .ok (right, rest))
    (hrest : operator rest = none) :
    chain operand operator links left ts = .ok (build left right, rest) := by
  obtain ⟨links, rfl⟩ : ∃ n, links = n + 1 := ⟨links - 1, by omega⟩
  simp only [chain, hop, hright]
  exact chain_of_none links hrest

lemma chained_of_some {build : Node → Node → Node} (hleft : operand ts = .ok (left, r))
    (hop : operator r = some (build, r')) (hright : operand r' = .ok (right, rest))
    (hrest : operator rest = none) :
    chained operand operator ts = .ok (build left right, rest) := by
  rw [chained, hleft]
  exact chain_of_some (by decide) hop hright hrest

variable {scope : Scope} {inner : Inner} {inlineIf : Bool}

lemma compareChain_of_rank (links : Nat) (h : 6 < (peek ts).rank) :
    compareChain inner operand links e ts = .ok (e, ts) := by
  have his : eatName? "is" ts = none := eatName?_of_ne (peek_ne h (by decide))
  cases links <;> simp [compareChain, his, comparison?_eq_none h]

lemma compareChain_of_some {op : BinaryOp} {links : Nat} (hlinks : 0 < links)
    (hts : peek ts ≠ .name "is") (hop : comparison? ts = some (op, r))
    (hright : operand r = .ok (right, rest))
    (hrest : 6 < (peek rest).rank) :
    compareChain inner operand links left ts = .ok (.binary op left right, rest) := by
  obtain ⟨links, rfl⟩ : ∃ n, links = n + 1 := ⟨links - 1, by omega⟩
  simp only [compareChain, eatName?_of_ne hts, hop, hright]
  exact compareChain_of_rank links hrest

lemma compareChain_of_test {node : Node} {links : Nat} (hlinks : 0 < links)
    (his : eatName? "is" ts = some r) (htest : testOf inner e r = .ok (node, rest))
    (hrest : 6 < (peek rest).rank) :
    compareChain inner operand links e ts = .ok (node, rest) := by
  obtain ⟨links, rfl⟩ : ∃ n, links = n + 1 := ⟨links - 1, by omega⟩
  simp only [compareChain, his, htest]
  exact compareChain_of_rank links hrest

lemma conditionalChain_of_rank (links : Nat) (h : 10 < (peek ts).rank) :
    conditionalChain scope inner inlineIf links e ts = .ok (e, ts) := by
  cases links <;> simp [conditionalChain, conditionalMark?_eq_none inlineIf h]

lemma conditionalChain_of_mark {node : Node} {mark : ConditionalMark} {links : Nat}
    (hlinks : 0 < links) (hmark : conditionalMark? inlineIf ts = some mark)
    (hnode : conditionalRest scope inner inlineIf e ts.tail mark = .ok (node, rest))
    (hrest : 10 < (peek rest).rank) :
    conditionalChain scope inner inlineIf links e ts = .ok (node, rest) := by
  obtain ⟨links, rfl⟩ : ∃ n, links = n + 1 := ⟨links - 1, by omega⟩
  simp only [conditionalChain, hmark, hnode]
  exact conditionalChain_of_rank links hrest

lemma postfixChain_of_rank (links : Nat) (h : 0 < (peek ts).rank) :
    postfixChain scope inner links e ts = .ok (e, ts) := by
  cases links <;> simp [postfixChain, isPostfixMark_eq_false h]

lemma postfixChain_of_part {node : Node} {links : Nat} (hlinks : 0 < links)
    (hmark : isPostfixMark (peek ts) = true)
    (hpart : postfixPart scope inner e ts = .ok (node, rest)) (hrest : 0 < (peek rest).rank) :
    postfixChain scope inner links e ts = .ok (node, rest) := by
  obtain ⟨links, rfl⟩ : ∃ n, links = n + 1 := ⟨links - 1, by omega⟩
  simp only [postfixChain, hmark, if_true, hpart]
  exact postfixChain_of_rank links hrest

end Chains

/-! ### Rungs -/

section Rungs

variable (scope : Scope) (inner : Inner) (inlineIf : Bool)

/-- The readers of the ladder, by their rung. -/
def rung : Nat → Reader Node
  | 0 => signed scope inner inlineIf
  | 1 => chained (signed scope inner inlineIf) (punctOperator powerOp)
  | 2 => product (signed scope inner inlineIf)
  | 3 => chained (product (signed scope inner inlineIf)) (punctOperator sumOp)
  | 4 => concatenation (signed scope inner inlineIf)
  | 5 => range (signed scope inner inlineIf)
  | 6 => negation scope inner inlineIf
  | 7 => chained (negation scope inner inlineIf) (logicalOperator .and)
  | 8 =>
    chained (chained (negation scope inner inlineIf) (logicalOperator .and)) (logicalOperator .or)
  | 9 => coalesced scope inner inlineIf
  | _ => conditional scope inner inlineIf

variable {scope inner inlineIf} {e : Node} {k : Nat}

/-- What a rung reads before a token of a rank above the next rung is read by that rung too. -/
lemma rung_succ (h : rung scope inner inlineIf k ts = .ok (e, r)) (hr : k + 1 < (peek r).rank)
    (hts : k = 5 → peek ts ≠ .name "not") : rung scope inner inlineIf (k + 1) ts = .ok (e, r) := by
  match k with
  | 0 => exact chained_of_none h (punctOperator_eq_none (k := 1) hr)
  | 1 => exact chained_of_none h (punctOperator_eq_none (k := 2) hr)
  | 2 => exact chained_of_none h (punctOperator_eq_none (k := 3) hr)
  | 3 => exact chained_of_none h (punctOperator_eq_none (k := 4) hr)
  | 4 =>
    change range (signed scope inner inlineIf) ts = _
    -- a range joins two operands at most
    have hrange : eatPunct? .range r = none := eatPunct?_of_ne (peek_ne hr (by decide))
    have hleft : concatenation (signed scope inner inlineIf) ts = .ok (e, r) := h
    rw [range, hleft]
    simp only [bind, Except.bind, hrange]
  | 5 =>
    change negation scope inner inlineIf ts = _
    have hleft : range (signed scope inner inlineIf) ts = .ok (e, r) := h
    -- without `not` in front, the next rung reads comparisons
    rw [negation, eatName?_of_ne (hts rfl)]
    change comparisons scope inner inlineIf ts = _
    rw [comparisons, hleft]
    exact compareChain_of_rank maxHeight hr
  | 6 => exact chained_of_none h (logicalOperator_eq_none hr (by decide))
  | 7 => exact chained_of_none h (logicalOperator_eq_none hr (by decide))
  | 8 => exact chained_of_none h (punctOperator_eq_none (k := 9) hr)
  | 9 =>
    change conditional scope inner inlineIf ts = _
    have hleft : coalesced scope inner inlineIf ts = .ok (e, r) := h
    rw [conditional, hleft]
    exact conditionalChain_of_rank maxHeight hr
  | _ + 10 => exact h

/-- What a rung reads is read by every rung above it, up to the rank of the token behind. -/
lemma rung_of_le {m : Nat} (h : rung scope inner inlineIf k ts = .ok (e, r)) (hkm : k ≤ m)
    (hr : m < (peek r).rank) (hts : k ≤ 5 → peek ts ≠ .name "not") :
    rung scope inner inlineIf m ts = .ok (e, r) := by
  induction hkm with
  | refl => exact h
  | @step m hkm ih =>
    have hle : k ≤ m := hkm
    exact rung_succ (ih (by omega)) hr fun hm => hts (by omega)

/-- No primary starts with a sign. -/
lemma signed_eq_postfixed (h : primary scope inner inlineIf ts = .ok (e, r)) :
    signed scope inner inlineIf ts = postfixed scope inner inlineIf ts := by
  have hsign : ∀ p : Punct, p = .minus ∨ p = .plus → peek ts ≠ .punct p := by
    intro p hp he
    cases ts with
    | nil => cases he
    | cons t r =>
      obtain ⟨token, position⟩ := t
      obtain rfl : token = .punct p := he
      rcases hp with rfl | rfl <;> cases h
  unfold signed
  split
  · rename_i he
    exact absurd he (hsign _ (.inl rfl))
  · rename_i he
    exact absurd he (hsign _ (.inr rfl))
  · rfl

lemma signed_of_primary (h : primary scope inner inlineIf ts = .ok (e, r))
    (hr : 0 < (peek r).rank) : signed scope inner inlineIf ts = .ok (e, r) := by
  rw [signed_eq_postfixed h, postfixed, h]
  exact postfixChain_of_rank maxHeight hr

/-- A primary with one postfix part. -/
lemma signed_of_part {node : Node} (h : primary scope inner inlineIf ts = .ok (e, r))
    (hmark : isPostfixMark (peek r) = true)
    (hpart : postfixPart scope inner e r = .ok (node, rest)) (hrest : 0 < (peek rest).rank) :
    signed scope inner inlineIf ts = .ok (node, rest) := by
  rw [signed_eq_postfixed h, postfixed, h]
  exact postfixChain_of_part (by decide) hmark hpart hrest

/-- A primary is read on every rung below the token behind it. -/
lemma rung_of_primary (h : primary scope inner inlineIf ts = .ok (e, r))
    (hr : k < (peek r).rank) (hts : peek ts ≠ .name "not") :
    rung scope inner inlineIf k ts = .ok (e, r) :=
  rung_of_le (k := 0) (signed_of_primary h (by omega)) (Nat.zero_le k) hr fun _ => hts

/-- A comparison of two operands, behind no `not`. -/
lemma negation_of_comparison {op : BinaryOp} {left right : Node}
    (hleft : rung scope inner inlineIf 5 ts = .ok (left, r))
    (hr : peek r ≠ .name "is") (hop : comparison? r = some (op, r'))
    (hright : rung scope inner inlineIf 5 r' = .ok (right, rest)) (hrest : 6 < (peek rest).rank)
    (hts : peek ts ≠ .name "not") :
    rung scope inner inlineIf 6 ts = .ok (.binary op left right, rest) := by
  have hfirst : range (signed scope inner inlineIf) ts = .ok (left, r) := hleft
  have hsecond : range (signed scope inner inlineIf) r' = .ok (right, rest) := hright
  change negation scope inner inlineIf ts = _
  rw [negation, eatName?_of_ne hts]
  change comparisons scope inner inlineIf ts = _
  rw [comparisons, hfirst]
  exact compareChain_of_some (by decide) hr hop hsecond hrest

/-- A test of an operand, behind no `not`. -/
lemma negation_of_test {node : Node} (hleft : rung scope inner inlineIf 5 ts = .ok (e, r))
    (his : eatName? "is" r = some r') (htest : testOf inner e r' = .ok (node, rest))
    (hrest : 6 < (peek rest).rank) (hts : peek ts ≠ .name "not") :
    rung scope inner inlineIf 6 ts = .ok (node, rest) := by
  have hfirst : range (signed scope inner inlineIf) ts = .ok (e, r) := hleft
  change negation scope inner inlineIf ts = _
  rw [negation, eatName?_of_ne hts]
  change comparisons scope inner inlineIf ts = _
  rw [comparisons, hfirst]
  exact compareChain_of_test (by decide) his htest hrest

/-- A conditional behind its test. -/
lemma conditional_of_mark {node : Node} {mark : ConditionalMark}
    (htest : rung scope inner inlineIf 9 ts = .ok (e, r))
    (hmark : conditionalMark? inlineIf r = some mark)
    (hnode : conditionalRest scope inner inlineIf e r.tail mark = .ok (node, rest))
    (hrest : 10 < (peek rest).rank) : rung scope inner inlineIf 10 ts = .ok (node, rest) := by
  have hfirst : coalesced scope inner inlineIf ts = .ok (e, r) := htest
  change conditional scope inner inlineIf ts = _
  rw [conditional, hfirst]
  exact conditionalChain_of_mark (by decide) hmark hnode hrest

end Rungs

end TemplateMetrics.Syntax
