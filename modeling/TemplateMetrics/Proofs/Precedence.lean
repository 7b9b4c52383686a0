import TemplateMetrics.Proofs.Expressions
import TemplateMetrics.Proofs.RoundTrip

/-!
Which operators bind tighter.

Names with operators between them and no brackets can be grouped in many ways. The one that is read
puts tighter operators below looser ones and groups equal ones from the left (`WellBound`), and it
is the only such tree (`eq_of_wellBound`). Each rung of the ladder reads as far as its own operators
go: what it gives is a tree of operators up to its rank, and what is left starts with a looser
operator (`Grown`), unless it went beyond the end of the expression.
-/

namespace TemplateMetrics.Syntax

/-! ### Operators between operands -/

/-- An operator that stands between two operands. -/
inductive Joiner where
  | logical (op : LogicalOp)
  | binary (op : BinaryOp) (h : op ≠ .slice)

namespace Joiner

def tokens : Joiner → List Token
  | .logical op => [.name op.text]
  | .binary op _ => tokensOf op.lexemes

def node : Joiner → Node → Node → Node
  | .logical op => .logical op
  | .binary op _ => .binary op

/-- The rung of the ladder that reads an operator; the tightest stand lowest. -/
def rank : Joiner → Nat
  | .logical .and => 7
  | .logical .or => 8
  | .binary op _ => op.rank

def isRange : Joiner → Bool
  | .binary .range _ => true
  | _ => false

lemma exists_tokens_eq (op : Joiner) :
    ∃ t toks, op.tokens = t :: toks ∧ t.rank = op.rank ∧ t ≠ .name "is" := by
  rcases op with op | ⟨op, hslice⟩
  · cases op <;> exact ⟨_, _, rfl, rfl, by simp [LogicalOp.text]⟩
  · cases op with
    | slice => exact absurd rfl hslice
    | _ => exact ⟨_, _, rfl, rfl, by simp⟩

lemma rank_bounds (op : Joiner) : 0 < op.rank ∧ op.rank < 10 := by
  rcases op with op | ⟨op, hslice⟩
  · cases op <;> decide
  · cases op with
    | slice => exact absurd rfl hslice
    | _ => simp [rank, BinaryOp.rank]

lemma node_of_rank {op : Joiner} (h : op.rank = 5) : op.node = .binary .range := by
  rcases op with op | ⟨op, hslice⟩
  · cases op <;> cases h
  · cases op <;> first | rfl | cases h

lemma rank_of_isRange {op : Joiner} (h : op.isRange = true) : op.rank = 5 := by
  unfold isRange at h
  split at h
  · rfl
  · cases h

end Joiner

/-- An operator and the operand behind it. -/
abbrev Link := Joiner × String

/-- Words that are read as operands: neither constants nor the word of negation. -/
def IsOperand (s : String) : Prop := constant? s = none ∧ s ≠ "not"

def spelled (more : List Link) : List Token := more.flatMap fun l => l.1.tokens ++ [.name l.2]

/-! ### Trees of operators -/

/-- Names and the operators that join them, grouped. -/
inductive OpTree where
  | name (s : String)
  | node (op : Joiner) (left right : OpTree)

namespace OpTree

def toNode : OpTree → Node
  | .name s => .nameRef s
  | .node op left right => op.node left.toNode right.toNode

/-- The operand that comes first in order. -/
def first : OpTree → String
  | .name s => s
  | .node _ left _ => left.first

/-- The operators in order, each with the operand behind it. -/
def links : OpTree → List Link
  | .name _ => []
  | .node op left right => left.links ++ (op, right.first) :: right.links

/-- The rank of the operator at the top; a name binds tightest. -/
def top : OpTree → Nat
  | .name _ => 0
  | .node op _ _ => op.rank

/-- The right operand of every operator binds tighter than the operator and the left operand at
least as tightly; both operands of `..` bind tighter. -/
def WellBound : OpTree → Prop
  | .name _ => True
  | .node op left right =>
    (right.top < op.rank ∧ left.top ≤ op.rank ∧ (op.isRange = true → left.top < op.rank)) ∧
      left.WellBound ∧ right.WellBound

lemma rank_le_top {t : OpTree} (h : t.WellBound) : ∀ l ∈ t.links, l.1.rank ≤ t.top := by
  induction t with
  | name s => exact fun l hl => absurd hl List.not_mem_nil
  | node op left right ihleft ihright =>
    obtain ⟨⟨hright, hleft, -⟩, hl, hr⟩ := h
    intro l hmem
    rcases List.mem_append.1 hmem with hmem | hmem
    · exact Nat.le_trans (ihleft hl l hmem) hleft
    · rcases List.mem_cons.1 hmem with rfl | hmem
      · exact Nat.le_refl _
      · exact Nat.le_of_lt (Nat.lt_of_le_of_lt (ihright hr l hmem) hright)

/-- The last of the loosest operators splits a list in one place. -/
lemma eq_of_split {a b a' b' : List Link} {x x' : Link} (h : a ++ x :: b = a' ++ x' :: b')
    (ha : ∀ l ∈ a, l.1.rank ≤ x.1.rank) (hb : ∀ l ∈ b, l.1.rank < x.1.rank)
    (ha' : ∀ l ∈ a', l.1.rank ≤ x'.1.rank) (hb' : ∀ l ∈ b', l.1.rank < x'.1.rank) :
    a = a' ∧ x = x' ∧ b = b' := by
  rcases List.append_eq_append_iff.1 h with ⟨c, rfl, hc⟩ | ⟨c, rfl, hc⟩
  · cases c with
    | nil =>
      obtain ⟨rfl, rfl⟩ := List.cons.inj hc
      exact ⟨(List.append_nil a).symm, rfl, rfl⟩
    | cons y c =>
      obtain ⟨rfl, rfl⟩ := List.cons.inj hc
      -- of two different places, the later has an operator before it that is as loose
      have hle := ha' x (by simp)
      have hlt := hb x' (by simp)
      omega
  · cases c with
    | nil =>
      obtain ⟨rfl, rfl⟩ := List.cons.inj hc
      exact ⟨List.append_nil a', rfl, rfl⟩
    | cons y c =>
      obtain ⟨rfl, rfl⟩ := List.cons.inj hc
      have hle := ha x' (by simp)
      have hlt := hb' x (by simp)
      omega

/-- Operands and operators in order are grouped in one way. -/
lemma eq_of_wellBound {t t' : OpTree} (h : t.WellBound) (h' : t'.WellBound)
    (hfirst : t.first = t'.first) (hlinks : t.links = t'.links) : t = t' := by
  induction t generalizing t' with
  | name s =>
    cases t' with
    | name s' => exact congrArg name hfirst
    | node op' left' right' => simp [links] at hlinks
  | node op left right ihleft ihright =>
    cases t' with
    | name s' => simp [links] at hlinks
    | node op' left' right' =>
      -- the root is the last of the loosest operators, so the lists split at it
      obtain ⟨⟨hright, hleft, -⟩, hl, hr⟩ := h
      obtain ⟨⟨hright', hleft', -⟩, hl', hr'⟩ := h'
      obtain ⟨hll, hop, hrl⟩ := eq_of_split hlinks
        (fun l hmem => Nat.le_trans (rank_le_top hl l hmem) hleft)
        (fun l hmem => Nat.lt_of_le_of_lt (rank_le_top hr l hmem) hright)
        (fun l hmem => Nat.le_trans (rank_le_top hl' l hmem) hleft')
        (fun l hmem => Nat.lt_of_le_of_lt (rank_le_top hr' l hmem) hright')
      obtain ⟨rfl, hrf⟩ := Prod.mk.inj hop
      rw [ihleft hl hl' hfirst hll, ihright hr hr' hrf hrl]

lemma built_toNode (scope : Scope) (t : OpTree) : Built scope t.toNode := by
  induction t with
  | name s => exact built_leaf trivial rfl rfl
  | node op left right ihleft ihright =>
    cases op <;> exact built_pair trivial rfl rfl ihleft ihright

end OpTree

/-! ### Operators at the front -/

section Operators

variable {op : Joiner} {ts r r' rest : Tokens} {left : Node} {k : Nat}

lemma rank_of_fronts (h : Fronts op.tokens r r') : (peek r).rank = op.rank := by
  obtain ⟨t, toks, htokens, hrank, -⟩ := op.exists_tokens_eq
  rw [htokens] at h
  rw [h.peek, hrank]

lemma peek_ne_of_fronts (h : Fronts op.tokens r r') {t : Token} (ht : t.rank ≠ op.rank) :
    peek r ≠ t := by
  rintro rfl
  exact ht (rank_of_fronts h)

lemma peek_ne_is (h : Fronts op.tokens r r') : peek r ≠ .name "is" := by
  obtain ⟨t, toks, htokens, -, his⟩ := op.exists_tokens_eq
  rw [htokens] at h
  rwa [h.peek]

/-- Of the operators between operands, those of one rank are read. -/
def ReadsRank (k : Nat) (operator : Operator) : Prop :=
  ∀ (op : Joiner) (r r' : Tokens), Fronts op.tokens r r' →
    operator r = if op.rank = k then some (op.node, r') else none

lemma readsRank_marks (hk : k ∈ [1, 2, 3, 4, 9]) : ReadsRank k (punctOperator (marksOf k)) := by
  intro op r r' h
  simp only [List.mem_cons, List.not_mem_nil, or_false] at hk
  rcases op with op | ⟨op, hslice⟩
  · obtain _ | ⟨q, h⟩ := h
    cases op <;> rcases hk with rfl | rfl | rfl | rfl | rfl <;> rfl
  · cases op with
    | slice => exact absurd rfl hslice
    | notIn | startsWith | endsWith | isIn | matching =>
      obtain _ | ⟨q, h⟩ := h
      rcases hk with rfl | rfl | rfl | rfl | rfl <;> rfl
    | _ =>
      obtain _ | ⟨q, ⟨⟩⟩ := h
      rcases hk with rfl | rfl | rfl | rfl | rfl <;> rfl

lemma readsRank_logical (op : LogicalOp) :
    ReadsRank (Joiner.logical op).rank (logicalOperator op) := by
  intro op' r r' h
  rcases op' with op' | ⟨op', hslice⟩
  · obtain _ | ⟨q, ⟨⟩⟩ := h
    cases op <;> cases op' <;> rfl
  · have hne : op'.rank ≠ (Joiner.logical op).rank := by
      cases op <;> cases op' <;> decide
    have hnone : logicalOperator op r = none := by
      have hpeek : peek r ≠ .name op.text := by
        refine peek_ne_of_fronts h ?_
        cases op <;> exact hne.symm
      simp [logicalOperator, eatName?_of_ne hpeek]
    rw [hnone]
    exact (if_neg hne).symm

/-- The comparisons, as operators that build nodes. -/
def comparisonOperator : Operator := fun ts => (comparison? ts).map fun c => (.binary c.1, c.2)

lemma readsRank_comparison : ReadsRank 6 comparisonOperator := by
  intro op r r' h
  rcases op with op | ⟨op, hslice⟩
  · obtain _ | ⟨q, h⟩ := h
    cases op <;> rfl
  · cases op with
    | slice => exact absurd rfl hslice
    | notIn | startsWith | endsWith =>
      obtain _ | ⟨q, _ | ⟨q', ⟨⟩⟩⟩ := h
      rfl
    | _ =>
      obtain _ | ⟨q, ⟨⟩⟩ := h
      rfl

lemma eatPunct?_range (h : Fronts op.tokens r r') :
    eatPunct? .range r = if op.rank = 5 then some r' else none := by
  by_cases hop : op.rank = 5
  · rcases op with op | ⟨op, hslice⟩
    · cases op <;> cases hop
    · obtain rfl : op = .range := by cases op <;> first | rfl | cases hop
      obtain _ | ⟨q, ⟨⟩⟩ := h
      rfl
  · rw [if_neg hop]
    exact eatPunct?_of_ne (peek_ne_of_fronts h (Ne.symm hop))

end Operators

/-! ### How far a rung reads -/

variable {scope : Scope} {inner : Inner} {inlineIf : Bool} {ts r r' rest : Tokens} {j k : Nat}
  {t t' : OpTree} {more more' : List Link} {e : Node} {q : Node × Tokens}

/-- No rung up to this one goes on here: a looser operator comes next, or another `..`. -/
def Loose (k : Nat) (more : List Link) : Prop :=
  ∀ l ∈ more.head?, k < l.1.rank ∨ l.1.rank = 5 ∧ 5 ≤ k

/-- With `more` still to come behind `t`, a rung has read up to `more'` and made `t'` of it. -/
structure Grown (k : Nat) (t : OpTree) (more : List Link) (rest : Tokens) (q : Node × Tokens)
    (t' : OpTree) (more' : List Link) : Prop where
  tree : q.1 = t'.toNode
  first : t'.first = t.first
  links : t'.links ++ more' = t.links ++ more
  wellBound : t'.WellBound
  top : t'.top ≤ k
  front : Fronts (spelled more') q.2 rest
  loose : Loose k more'

/-- A rung has read beyond the end of the expression, or some of it. -/
def Grows (k : Nat) (t : OpTree) (more : List Link) (rest : Tokens) (q : Node × Tokens) : Prop :=
  q.2.length < rest.length ∨ ∃ t' more', Grown k t more rest q t' more'

/-- What a rung makes of an expression at the front. -/
def Binds (k : Nat) (reader : Reader Node) : Prop :=
  ∀ ⦃x : String⦄ ⦃more : List Link⦄ ⦃ts rest : Tokens⦄, IsOperand x →
    (∀ l ∈ more, IsOperand l.2) → Fronts (.name x :: spelled more) ts rest →
      Gives (reader ts) (Grows k (.name x) more rest)

lemma fronts_spelled_cons {l : Link} (h : Fronts (spelled (l :: more)) r rest) :
    ∃ r', Fronts l.1.tokens r r' ∧ Fronts (.name l.2 :: spelled more) r' rest := by
  rw [spelled, List.flatMap_cons, List.append_assoc] at h
  exact h.split

/-- Behind the end of the expression nothing brings a reader back. -/
lemma gives_grows_of_lt {next : Node → Reader Node} (hnext : Continues scope next)
    (he : Built scope e) (hr : r.length < rest.length) :
    Gives (next e r) (Grows k t more rest) := by
  refine (hnext e r he).mono fun a ha => .inl ?_
  exact Nat.lt_of_le_of_lt (skips_of_continued ha.2).length_le hr

/-- A reader that finds no operator of its own stays where it is. -/
lemma gives_grows_of_stop {next : Node → Reader Node} (hnext : Continues scope next)
    (ht : t.WellBound) (htop : t.top ≤ k) (hfront : Fronts (spelled more) r rest)
    (hloose : Loose k more)
    (hstop : ∀ l ∈ more.head?, ∀ r', Fronts l.1.tokens r r' → next t.toNode r = .ok (t.toNode, r)) :
    Gives (next t.toNode r) (Grows k t more rest) := by
  have hstay : Grown k t more rest (t.toNode, r) t more := ⟨rfl, rfl, rfl, ht, htop, hfront, hloose⟩
  cases more with
  | nil =>
    obtain ⟨⟩ := hfront
    refine (hnext t.toNode r (t.built_toNode scope)).mono ?_
    rintro a ⟨-, rfl | htakes⟩
    · exact .inr ⟨t, [], hstay⟩
    · exact .inl htakes.length_lt
  | cons l more =>
    obtain ⟨r', hop, -⟩ := fronts_spelled_cons hfront
    rw [hstop l rfl r' hop]
    exact gives_ok (.inr ⟨t, l :: more, hstay⟩)

lemma Grown.step {l : Link} {right : Node × Tokens} {t₂ : OpTree} {more₂ : List Link}
    (hright : Grown j (.name l.2) more rest right t₂ more₂)
    (h : Grown k (.node l.1 t t₂) more₂ rest q t' more') :
    Grown k t (l :: more) rest q t' more' := by
  refine { h with first := h.first, links := ?_ }
  have hlinks := hright.links
  rw [h.links, OpTree.links, List.append_assoc, List.cons_append, hlinks, hright.first]
  rfl

lemma Grown.trans {q' : Node × Tokens} (h : Grown j t more rest q t' more')
    (h' : Grows k t' more' rest q') : Grows k t more rest q' := by
  rcases h' with hover | ⟨t'', more'', h'⟩
  · exact .inl hover
  · refine .inr ⟨t'', more'', { h' with first := ?_, links := ?_ }⟩
    · exact h'.first.trans h.first
    · exact h'.links.trans h.links

lemma Grown.isOperand {x : String} (h : Grown k (.name x) more rest q t' more')
    (hmore : ∀ l ∈ more, IsOperand l.2) : ∀ l ∈ more', IsOperand l.2 := by
  have hlinks : t'.links ++ more' = more := h.links
  exact fun l hl => hmore l (hlinks ▸ List.mem_append_right _ hl)

/-! ### Chains of operators -/

/-- How a chain of operators of one rank goes on at an operator. -/
structure Chains (k : Nat) (operand : Reader Node) (next : Nat → Node → Reader Node) : Prop where
  stop : ∀ links left op r r', Fronts (Joiner.tokens op) r r' → op.rank ≠ k →
    next links left r = .ok (left, r)
  last : ∀ left op r r', Fronts (Joiner.tokens op) r r' → op.rank = k →
    ∃ fault, next 0 left r = .error fault
  link : ∀ links left op r r', Fronts (Joiner.tokens op) r r' → op.rank = k →
    next (links + 1) left r = operand r' >>= fun a => next links (op.node left a.1) a.2

section Chains

variable {operand : Reader Node} {next : Nat → Node → Reader Node}

lemma wellBound_node {op : Joiner} {t₂ : OpTree} (hop : op.rank ≠ 5) (ht : t.WellBound)
    (htop : t.top ≤ op.rank) (ht₂ : t₂.WellBound) (htop₂ : t₂.top < op.rank) :
    (OpTree.node op t t₂).WellBound :=
  ⟨⟨htop₂, htop, fun h => absurd (Joiner.rank_of_isRange h) hop⟩, ht, ht₂⟩

lemma Chains.grows_of_ne (h : Chains (j + 1) operand next)
    (hnext : ∀ links, Continues scope (next links)) (links : Nat) (ht : t.WellBound)
    (htop : t.top ≤ j + 1) (hfront : Fronts (spelled more) r rest) (hloose : Loose j more)
    (hne : ∀ l ∈ more.head?, l.1.rank ≠ j + 1) :
    Gives (next links t.toNode r) (Grows (j + 1) t more rest) := by
  refine gives_grows_of_stop (hnext links) ht htop hfront (fun l hl => ?_) fun l hl r' hr' => ?_
  · have hrank := hne l hl
    have hl := hloose l hl
    omega
  · exact h.stop links t.toNode l.1 r r' hr' (hne l hl)

/-- A chain takes every operator of its rank, with right operands of lower ranks. -/
lemma Chains.grows (h : Chains (j + 1) operand next) (hnext : ∀ links, Continues scope (next links))
    (hoperand : Binds j operand) (hsound : Sound scope operand) (hj : j + 1 ≠ 5) (links : Nat)
    (ht : t.WellBound) (htop : t.top ≤ j + 1) (hmore : ∀ l ∈ more, IsOperand l.2)
    (hfront : Fronts (spelled more) r rest) (hloose : Loose j more) :
    Gives (next links t.toNode r) (Grows (j + 1) t more rest) := by
  induction links generalizing t more r with
  | zero =>
    rcases more with _ | ⟨l, more⟩
    · exact h.grows_of_ne hnext 0 ht htop hfront hloose (by simp)
    by_cases hl : l.1.rank = j + 1
    · -- the chain is as long as it may be, and the operator is too much
      obtain ⟨r', hop, -⟩ := fronts_spelled_cons hfront
      obtain ⟨fault, hlast⟩ := h.last t.toNode l.1 r r' hop hl
      rw [hlast]
      exact gives_error fault
    · exact h.grows_of_ne hnext 0 ht htop hfront hloose (by simpa using hl)
  | succ links ih =>
    rcases more with _ | ⟨l, more⟩
    · exact h.grows_of_ne hnext _ ht htop hfront hloose (by simp)
    by_cases hl : l.1.rank = j + 1
    · obtain ⟨r', hop, hr'⟩ := fronts_spelled_cons hfront
      obtain ⟨hoperandName, hmore⟩ := List.forall_mem_cons.1 hmore
      rw [h.link links t.toNode l.1 r r' hop hl]
      refine gives_bind ((hoperand hoperandName hmore hr').and (hsound r')) ?_
      rintro ⟨right, r''⟩ ⟨hover | ⟨t₂, more₂, hright⟩, hbuilt, -⟩
      · -- the right operand reaches into what stands behind the links
        have hnode : Built scope (l.1.node t.toNode right) := by
          cases l.1 <;> exact built_pair trivial rfl rfl (t.built_toNode scope) hbuilt
        exact gives_grows_of_lt (hnext links) hnode hover
      · obtain rfl : right = t₂.toNode := hright.tree
        -- the operator binds the tree so far to a right operand of tighter ones
        have hnode : (OpTree.node l.1 t t₂).WellBound := by
          refine wellBound_node (hl ▸ hj) ht (hl ▸ htop) hright.wellBound ?_
          have htop₂ := hright.top
          omega
        refine (ih hnode (Nat.le_of_eq hl) (hright.isOperand hmore) hright.front
          hright.loose).mono ?_
        rintro a (hover | ⟨t', more', hgrown⟩)
        · exact .inl hover
        · exact .inr ⟨t', more', hright.step hgrown⟩
    · exact h.grows_of_ne hnext _ ht htop hfront hloose (by simpa using hl)

lemma Chains.binds (h : Chains (j + 1) operand next) (hnext : ∀ links, Continues scope (next links))
    (hoperand : Binds j operand) (hsound : Sound scope operand) (hj : j + 1 ≠ 5) (links : Nat) :
    Binds (j + 1) fun ts => operand ts >>= fun a => next links a.1 a.2 := by
  intro x more ts rest hx hmore hts
  refine gives_bind ((hoperand hx hmore hts).and (hsound ts)) ?_
  rintro ⟨left, r⟩ ⟨hover | ⟨t, more', hleft⟩, hbuilt, -⟩
  · exact gives_grows_of_lt (hnext links) hbuilt hover
  · obtain rfl : left = t.toNode := hleft.tree
    have htop : t.top ≤ j + 1 := Nat.le_succ_of_le hleft.top
    refine (h.grows hnext hoperand hsound hj links hleft.wellBound htop (hleft.isOperand hmore)
      hleft.front hleft.loose).mono fun a ha => ?_
    exact hleft.trans ha

lemma chains_chain {operator : Operator} (h : ReadsRank k operator) :
    Chains k operand (chain operand operator) where
  stop links left op r r' hop hk := by
    refine chain_of_none links ?_
    rw [h op r r' hop, if_neg hk]
  last left op r r' hop hk := by
    have hsome := h op r r' hop
    rw [if_pos hk] at hsome
    simp only [chain, hsome]
    exact ⟨_, rfl⟩
  link links left op r r' hop hk := by
    have hsome := h op r r' hop
    rw [if_pos hk] at hsome
    simp only [chain, hsome]

lemma chains_compareChain : Chains 6 operand (compareChain inner operand) where
  stop links left op r r' hop hk := by
    have his := eatName?_of_ne (peek_ne_is hop)
    have hnone := readsRank_comparison op r r' hop
    rw [if_neg hk] at hnone
    have hnone := Option.map_eq_none_iff.1 hnone
    cases links <;> simp [compareChain, his, hnone]
  last left op r r' hop hk := by
    have his := eatName?_of_ne (peek_ne_is hop)
    have hsome := readsRank_comparison op r r' hop
    rw [if_pos hk] at hsome
    obtain ⟨c, hc, -⟩ := Option.map_eq_some_iff.1 hsome
    simp only [compareChain, his, hc]
    exact ⟨_, rfl⟩
  link links left op r r' hop hk := by
    have his := eatName?_of_ne (peek_ne_is hop)
    have hsome := readsRank_comparison op r r' hop
    rw [if_pos hk] at hsome
    obtain ⟨c, hc, hop⟩ := Option.map_eq_some_iff.1 hsome
    obtain ⟨hnode, hr⟩ := Prod.mk.inj hop
    simp only [compareChain, his, hc, ← hnode, ← hr]

end Chains

/-! ### The rungs -/

section Rungs

variable {operand : Reader Node}

lemma binds_signed (h : inner.Sound scope) : Binds 0 (signed scope inner inlineIf) := by
  intro x more ts rest hx hmore hts
  obtain _ | ⟨p, hr⟩ := hts
  rename_i r
  -- behind the end of the expression the name may be called
  have hname : Gives (named scope inner x r) fun a =>
      a = (.nameRef x, r) ∨ Built scope a.1 ∧ a.2.length < rest.length := by
    rcases more with _ | ⟨l, more⟩
    · obtain ⟨⟩ := hr
      refine (h.named x rest).mono fun a ha => (ha.2 hx.1).imp_right fun htakes => ?_
      exact ⟨ha.1.1, htakes.length_lt⟩
    · obtain ⟨r', hop, -⟩ := fronts_spelled_cons hr
      have hparen : peek r ≠ .punct .openParen :=
        peek_ne_of_fronts hop (Nat.ne_of_lt l.1.rank_bounds.1)
      rw [named, hx.1, optionalArgs_none hparen]
      exact gives_ok (.inl rfl)
  refine gives_bind hname ?_
  rintro a (rfl | ⟨hbuilt, hover⟩)
  · refine gives_grows_of_stop (t := .name x) (h.postfixChain maxHeight) trivial (Nat.le_refl 0) hr
      (fun l hl => .inl l.1.rank_bounds.1) fun l hl r' hop => postfixChain_of_rank maxHeight ?_
    rw [rank_of_fronts hop]
    exact l.1.rank_bounds.1
  · exact gives_grows_of_lt (h.postfixChain maxHeight) hbuilt hover

lemma Binds.chained {operator : Operator} (h : Binds j operand) (hsound : Sound scope operand)
    (hrank : ReadsRank (j + 1) operator) (hoperator : Operator.Sound scope operator)
    (hj : j + 1 ≠ 5) : Binds (j + 1) (chained operand operator) :=
  (chains_chain hrank).binds (continues_chain hsound hoperator) h hsound hj maxHeight

lemma Binds.concatenation (h : Binds 0 operand) (hsound : Sound scope operand) :
    Binds 4 (concatenation operand) := by
  have hmarks : ∀ {k}, k ∈ [1, 2, 3, 4, 9] → ReadsRank k (punctOperator (marksOf k)) :=
    readsRank_marks
  have hpower := h.chained hsound (hmarks (by simp)) (sound_punctOperator _) (by decide)
  have hpower' := sound_chained hsound (sound_punctOperator powerOp)
  have hproduct := hpower.chained hpower' (hmarks (by simp)) (sound_punctOperator _) (by decide)
  have hproduct' := sound_chained hpower' (sound_punctOperator productOp)
  have hsum := hproduct.chained hproduct' (hmarks (by simp)) (sound_punctOperator _) (by decide)
  have hsum' := sound_chained hproduct' (sound_punctOperator sumOp)
  exact hsum.chained hsum' (hmarks (by simp)) (sound_punctOperator _) (by decide)

/-- A range has at most two operands, so another `..` may come behind it. -/
lemma Binds.range (h : Binds 0 operand) (hsound : Sound scope operand) :
    Binds 5 (range operand) := by
  have hoperand := h.concatenation hsound
  have hnext := continues_range hsound
  intro x more ts rest hx hmore hts
  refine gives_bind ((hoperand hx hmore hts).and (sound_concatenation hsound ts)) ?_
  rintro ⟨left, r⟩ ⟨hover | ⟨t, more', hleft⟩, hbuilt, -⟩
  · exact gives_grows_of_lt hnext hbuilt hover
  obtain rfl : left = t.toNode := hleft.tree
  have htop := hleft.top
  by_cases hrange : ∃ l ∈ more'.head?, l.1.rank = 5
  · -- an operator of a range comes next, and takes one operand
    obtain ⟨l, hl, hrank⟩ := hrange
    obtain ⟨more', rfl⟩ : ∃ more'', more' = l :: more'' := List.head?_eq_some_iff.1 hl
    obtain ⟨r', hop, hr'⟩ := fronts_spelled_cons hleft.front
    obtain ⟨hname, hmore'⟩ := List.forall_mem_cons.1 (hleft.isOperand hmore)
    have heat := eatPunct?_range hop
    rw [if_pos hrank] at heat
    dsimp only
    rw [heat]
    refine gives_bind (hoperand hname hmore' hr') ?_
    rintro ⟨right, r''⟩ (hover | ⟨t₂, more₂, hright⟩)
    · exact gives_pure (.inl hover)
    · have htop₂ := hright.top
      have hnode : (OpTree.node l.1 t t₂).WellBound :=
        ⟨⟨by omega, by omega, fun _ => by omega⟩, hleft.wellBound, hright.wellBound⟩
      refine gives_pure (hleft.trans (.inr ⟨_, _, hright.step ⟨?_, rfl, rfl, hnode, ?_, ?_, ?_⟩⟩))
      · rw [OpTree.toNode, Joiner.node_of_rank hrank, ← hright.tree]
      · exact Nat.le_of_eq hrank
      · exact hright.front
      · intro l' hl'
        have hloose := hright.loose l' hl'
        omega
  · -- no range, so the reader of ranges stays where it is
    have hne : ∀ l ∈ more'.head?, l.1.rank ≠ 5 := fun l hl hrank => hrange ⟨l, hl, hrank⟩
    refine (gives_grows_of_stop (k := 5) hnext hleft.wellBound (by omega) hleft.front
      (fun l hl => ?_) fun l hl r' hop => ?_).mono fun a ha => hleft.trans ha
    · have hrank := hne l hl
      have hloose := hleft.loose l hl
      omega
    · have heat := eatPunct?_range hop
      rw [if_neg (hne l hl)] at heat
      dsimp only
      rw [heat]

lemma binds_negation (h : inner.Sound scope) : Binds 6 (negation scope inner inlineIf) := by
  have hsigned : Sound scope (signed scope inner inlineIf) := h.signed_succ inlineIf
  have hrange : Binds 5 (range (signed scope inner inlineIf)) := (binds_signed h).range hsigned
  have hcompare := chains_compareChain.binds (h.compareChain (sound_range hsigned)) hrange
    (sound_range hsigned) (by decide) maxHeight
  intro x more ts rest hx hmore hts
  have hnot : eatName? "not" ts = none := by
    refine eatName?_of_ne ?_
    rw [hts.peek]
    simpa using hx.2
  rw [negation, hnot]
  exact hcompare hx hmore hts

lemma binds_coalesced (h : inner.Sound scope) : Binds 9 (coalesced scope inner inlineIf) := by
  have hnegation : Sound scope (negation scope inner inlineIf) := h.negation_succ inlineIf
  have hand := (binds_negation h).chained hnegation (readsRank_logical .and)
    (sound_logicalOperator .and) (by decide)
  have hand' := sound_chained hnegation (sound_logicalOperator .and)
  have hor := hand.chained hand' (readsRank_logical .or) (sound_logicalOperator .or) (by decide)
  have hor' := sound_chained hand' (sound_logicalOperator .or)
  exact hor.chained hor' (readsRank_marks (k := 9) (by simp)) (sound_punctOperator _) (by decide)

lemma binds_conditional (h : inner.Sound scope) : Binds 9 (conditional scope inner inlineIf) := by
  have hnext := h.conditionalChain inlineIf maxHeight
  intro x more ts rest hx hmore hts
  refine gives_bind ((binds_coalesced h hx hmore hts).and (h.coalesced inlineIf ts)) ?_
  rintro ⟨left, r⟩ ⟨hover | ⟨t, more', hleft⟩, hbuilt, -⟩
  · exact gives_grows_of_lt hnext hbuilt hover
  obtain rfl : left = t.toNode := hleft.tree
  refine (gives_grows_of_stop hnext hleft.wellBound hleft.top hleft.front hleft.loose
    fun l hl r' hop => ?_).mono fun a ha => hleft.trans ha
  -- the marks of conditionals have a rank of their own, looser than all operators
  have hne : ∀ {tok : Token}, tok.rank = 10 → peek r ≠ tok := fun htok =>
    peek_ne_of_fronts hop (by rw [htok]; exact Nat.ne_of_gt l.1.rank_bounds.2)
  have hnone : conditionalMark? inlineIf r = none := by
    have helvis : peek r ≠ .punct .elvis := hne rfl
    have hquestion : peek r ≠ .punct .question := hne rfl
    have hif : peek r ≠ .name "if" := hne rfl
    simp [conditionalMark?, isPunct, isName, helvis, hquestion, hif]
  simp [maxHeight, conditionalChain, hnone]

end Rungs

/-- **Operators bind by rank, and equal ones group from the left.** Where an expression of names and
operators without brackets is read up to its end, its tree has the operands and operators in the
order in which they stand. In it the right operand of every operator binds tighter than the operator
and the left operand at least as tightly, and tighter too if the operator is `..`; no other tree of
these operands and operators does so. The ranks rise from `**` over `*`, `/`, `//` and `%`, then `+`
and `-`, `~`, `..`, the comparisons, `and` and `or` to `??`. -/
theorem operators_bind_by_rank {room : Nat} {x : String} {more : List Link}
    (hx : IsOperand x) (hmore : ∀ l ∈ more, IsOperand l.2)
    (hts : Fronts (.name x :: spelled more) ts rest)
    (h : (level scope room).expr inlineIf ts = .ok (e, rest)) :
    ∃ t : OpTree, e = t.toNode ∧ (t.first = x ∧ t.links = more ∧ t.WellBound) ∧
      ∀ t' : OpTree, t'.first = x ∧ t'.links = more ∧ t'.WellBound → t' = t := by
  have hgives : Gives ((level scope room).expr inlineIf ts) (Grows 9 (.name x) more rest) := by
    cases room with
    | zero => exact gives_failAt _ _
    | succ room =>
      change Gives (bounded scope (level scope room) inlineIf ts) _
      refine gives_bind (binds_conditional (sound_level scope room) hx hmore hts) ?_
      rintro ⟨e, r⟩ hgrows
      dsimp only
      split
      · exact gives_failAt _ _
      · exact gives_ok hgrows
  rcases hgives _ h with hover | ⟨t, left, hgrown⟩
  · exact absurd hover (Nat.lt_irrefl _)
  obtain rfl : left = [] := by
    -- an operator that is left would have tokens before the end
    rcases left with _ | ⟨l, left⟩
    · rfl
    · obtain ⟨r', hop, hr'⟩ := fronts_spelled_cons hgrown.front
      obtain _ | ⟨p, hr'⟩ := hr'
      have hlong := hop.length_le
      have hshort := hr'.length_le
      simp only [List.length_cons] at hlong
      omega
  have hlinks : t.links ++ [] = more := hgrown.links
  rw [List.append_nil] at hlinks
  refine ⟨t, hgrown.tree, ⟨hgrown.first, hlinks, hgrown.wellBound⟩, ?_⟩
  rintro t' ⟨hfirst, hmore', hwell⟩
  exact OpTree.eq_of_wellBound hwell hgrown.wellBound (hfirst.trans hgrown.first.symm)
    (hmore'.trans hlinks.symm)

theorem operators_bind_by_rank_mixed :
    let more : List Link := [(.logical .or, "b"), (.logical .and, "c"),
      (.binary .notIn (by decide), "d"), (.binary .range (by decide), "e"),
      (.binary .subtract (by decide), "f"), (.binary .subtract (by decide), "g"),
      (.binary .power (by decide), "h"), (.logical .and, "i")]
    let ts : Tokens := (.name "a" :: spelled more).map fun t => ⟨t, .first⟩
    ∃ t : OpTree, (level .start 1).expr true ts = .ok (t.toNode, []) ∧ t.first = "a" ∧
      t.links = more ∧ t.WellBound := by
  intro more ts
  have hread : ∃ e, (level .start 1).expr true ts = .ok (e, []) := ⟨_, rfl⟩
  obtain ⟨e, hread⟩ := hread
  have hmore : ∀ l ∈ more, IsOperand l.2 := by
    simp [more, IsOperand, constant?]
  have hts : Fronts (.name "a" :: spelled more) ts [] := by
    simpa [ts, Function.comp_def] using fronts_map ts []
  obtain ⟨t, rfl, ⟨hfirst, hlinks, hwell⟩, -⟩ :=
    operators_bind_by_rank (by simp [IsOperand, constant?]) hmore hts hread
  exact ⟨t, hread, hfirst, hlinks, hwell⟩

end TemplateMetrics.Syntax
