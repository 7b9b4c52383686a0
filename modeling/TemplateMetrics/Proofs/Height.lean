import Mathlib.Data.List.Basic
import TemplateMetrics.Proofs.Readers

/-!
How tall the tree of a template can be.

Nesting bounds the tags around an expression, and no expression is taller than `maxHeight`. The one
construct outside both bounds is the list of filters at the head of an `apply` or `filter` tag: it
may be of any length, and each filter is the child of the next. So a tree is either no taller than
the bounds say, or its height is that of such a chain together with the tags around it (`Fits`).
-/

namespace TemplateMetrics.Syntax

namespace Node

lemma height_eq (n : Node) : n.height = 1 + (n.children.map height).foldl max 0 :=
  fold_eq _ n

lemma foldl_max_le {l : List Nat} {a k : Nat} : l.foldl max a ≤ k ↔ a ≤ k ∧ ∀ x ∈ l, x ≤ k := by
  induction l generalizing a with
  | nil => simp
  | cons x r ih => rw [List.foldl_cons, ih, Nat.max_le, List.forall_mem_cons, and_assoc]

/-- A node is taller than its children, and no taller than it must be. -/
lemma height_le_iff {n : Node} {k : Nat} : n.height ≤ k + 1 ↔ ∀ c ∈ n.children, c.height ≤ k := by
  rw [height_eq, Nat.add_comm, Nat.add_le_add_iff_right, foldl_max_le]
  simp

lemma height_lt_of_mem {n c : Node} (h : c ∈ n.children) : c.height < n.height := by
  cases hn : n.height with
  | zero =>
    rw [height_eq] at hn
    omega
  | succ k => exact Nat.lt_succ_of_le (height_le_iff.1 (Nat.le_of_eq hn) c h)

/-- Some child is as tall as its parent allows, if there is a child at all. -/
lemma height_eq_one_or (n : Node) : n.height = 1 ∨ ∃ c ∈ n.children, n.height = c.height + 1 := by
  by_contra hcon
  obtain ⟨hone, hchild⟩ := not_or.1 hcon
  have hpos : n.height = n.height - 2 + 2 := by
    rw [height_eq] at hone ⊢
    omega
  -- otherwise every child would leave a level unused
  have hless : n.height ≤ n.height - 2 + 1 := by
    refine height_le_iff.2 fun c hc => ?_
    have hlt := height_lt_of_mem hc
    have hne : n.height ≠ c.height + 1 := fun he => hchild ⟨c, hc, he⟩
    omega
  omega

end Node

/-! ### Filters at the head of a tag -/

/-- So many filters in a row, the first of which has no target. -/
inductive FilterChain : Nat → Node → Prop
  | first (name : String) (args : List Node) : FilterChain 1 (.filterCall name none args)
  | next {k : Nat} {chain : Node} (name : String) (args : List Node) (h : FilterChain k chain) :
      FilterChain (k + 1) (.filterCall name (some chain) args)

/-- In a tree, an `apply` or `filter` tag has this chain at its head, with so many nodes above. -/
inductive Leads : Node → Nat → Node → Prop
  | head {tag : String} {k : Nat} {chain : Node} (args body : List Node)
      (htag : takesFilters tag = true) (h : FilterChain k chain) :
      Leads (.container tag (chain :: args) body) 1 chain
  | child {n c chain : Node} {level : Nat} (hc : c ∈ n.children) (h : Leads c level chain) :
      Leads n (level + 1) chain

/-- A tree is as tall as the nodes above a chain and the chain together. -/
lemma Leads.le_height {n chain : Node} {level : Nat} (h : Leads n level chain) :
    level + chain.height ≤ n.height := by
  induction h with
  | @head tag k chain args body htag h =>
    have hmem : chain ∈ (Node.container tag (chain :: args) body).children :=
      List.mem_append_left body List.mem_cons_self
    have hlt := Node.height_lt_of_mem hmem
    omega
  | child hc h ih =>
    have hlt := Node.height_lt_of_mem hc
    omega

/-- The bound that a tree keeps with so many tags around it: it is no taller than the tags and one
expression, or else as tall as a chain of filters makes it. -/
def Fits (room : Nat) (n : Node) : Prop :=
  n.height ≤ room + maxHeight + 1 ∨
    ∃ level chain k, Leads n level chain ∧ FilterChain k chain ∧ level ≤ room ∧
      chain.height ≤ k + maxHeight ∧ n.height = level + chain.height

lemma fits_of_height {room : Nat} {n : Node} (h : n.height ≤ maxHeight + 1) : Fits room n :=
  .inl (by omega)

lemma fits_expr {room : Nat} {e : Node} (h : e.height ≤ maxHeight) : Fits room e :=
  fits_of_height (by omega)

/-- One more tag around trees that fit. -/
lemma fits_of_children {room : Nat} {n : Node} (h : ∀ c ∈ n.children, Fits room c) :
    Fits (room + 1) n := by
  rcases n.height_eq_one_or with hone | ⟨c, hc, hheight⟩
  · exact .inl (by omega)
  rcases h c hc with hle | ⟨level, chain, k, hleads, hchain, hlevel, hk, heq⟩
  · exact .inl (by omega)
  · exact .inr ⟨level + 1, chain, k, .child hc hleads, hchain, by omega, hk, by omega⟩

/-! ### Expressions -/

lemma height_level (scope : Scope) (room : Nat) (inlineIf : Bool) (ts : Tokens) :
    Gives ((level scope room).expr inlineIf ts) fun r => r.1.height ≤ maxHeight := by
  cases room with
  | zero => exact gives_failAt _ _
  | succ room =>
    change Gives (bounded scope (level scope room) inlineIf ts) _
    refine gives_step ?_
    rintro ⟨e, r⟩
    dsimp only
    split
    · exact gives_failAt _ _
    · rename_i hle
      exact gives_ok (Nat.le_of_not_lt hle)

/-- The readers of expressions give none that is too tall. -/
def Inner.Bounded (inner : Inner) : Prop :=
  ∀ inlineIf ts, Gives (inner.expr inlineIf ts) fun r => r.1.height ≤ maxHeight

variable {inner : Inner}

lemma gives_callArgs (h : inner.Bounded) (ts : Tokens) :
    Gives (callArgs inner ts) fun r => ∀ e ∈ r.1, e.height ≤ maxHeight :=
  gives_step fun _ => gives_closedList (fun _ => h true _) _ _

lemma gives_optionalArgs (h : inner.Bounded) (ts : Tokens) :
    Gives (optionalArgs inner ts) fun r => ∀ e ∈ r.1.getD [], e.height ≤ maxHeight := by
  unfold optionalArgs
  split
  · refine gives_bind (gives_callArgs h ts) ?_
    rintro ⟨args, r⟩ hargs
    exact gives_pure hargs
  · exact gives_ok (by simp)

/-- A filter is one level taller than its target and its arguments. -/
lemma gives_filterSegment (h : inner.Bounded) (target : Option Node) {k : Nat}
    (hk : ∀ t ∈ target, t.height ≤ k + maxHeight) (ts : Tokens) :
    Gives (filterSegment inner target ts) fun r =>
      (∃ name args, r.1 = .filterCall name target args) ∧ r.1.height ≤ k + 1 + maxHeight := by
  unfold filterSegment
  refine gives_step ?_
  rintro ⟨name, r⟩
  refine gives_bind (gives_optionalArgs h r) ?_
  rintro ⟨args, r⟩ hargs
  refine gives_pure ⟨⟨name, _, rfl⟩, ?_⟩
  rw [Nat.add_right_comm]
  refine Node.height_le_iff.2 fun c hc => ?_
  rcases List.mem_append.1 hc with hc | hc
  · exact hk c (Option.mem_toList.1 hc)
  · have := hargs c hc
    omega

/-- Filters in a row make a chain, each a level taller than the one before. -/
lemma gives_filterChain (h : inner.Bounded) {k : Nat} {chain : Node} (hchain : FilterChain k chain)
    (hk : chain.height ≤ k + maxHeight) (ts : Tokens) :
    Gives (filterChain inner chain ts) fun r =>
      ∃ k, FilterChain k r.1 ∧ r.1.height ≤ k + maxHeight := by
  refine loop_induct (filterRound inner) (motive := fun chain _ x =>
    (∃ k, FilterChain k chain ∧ chain.height ≤ k + maxHeight) → Gives x fun r =>
      ∃ k, FilterChain k r.1 ∧ r.1.height ≤ k + maxHeight)
    (fun _ _ _ => gives_error _) ?_ chain ts ⟨k, hchain, hk⟩
  rintro next hnext chain ts ⟨k, hchain, hk⟩
  unfold filterRound
  split
  · refine gives_bind (gives_filterSegment h (some chain) (k := k) (by simpa using hk) _) ?_
    rintro ⟨longer, r⟩ ⟨⟨name, args, rfl⟩, hlonger⟩
    exact hnext _ r ⟨k + 1, .next name args hchain, hlonger⟩
  · exact gives_ok ⟨k, hchain, hk⟩

lemma gives_leadingFilters (h : inner.Bounded) (tag : String) (ts : Tokens) :
    Gives (leadingFilters inner tag ts) fun r => ∀ chain ∈ r.1, takesFilters tag = true ∧
      ∃ k, FilterChain k chain ∧ chain.height ≤ k + maxHeight := by
  unfold leadingFilters
  split
  · rename_i htag _
    refine gives_bind (gives_filterSegment h none (k := 0) (by simp) ts) ?_
    rintro ⟨first, r⟩ ⟨⟨name, args, rfl⟩, hfirst⟩
    refine gives_bind (gives_filterChain h (.first name args) (by simpa using hfirst) r) ?_
    rintro ⟨chain, r⟩ hchain
    refine gives_pure fun c hc => ?_
    obtain rfl := Option.some.inj hc
    exact ⟨htag, hchain⟩
  · exact gives_ok (by simp)

/-! ### Tags -/

/-- What can be read inside a tag fits the nesting that is left. -/
structure Context.Bounded (ctx : Context) (room : Nat) : Prop where
  inner : ∀ scope, (ctx.inner scope).Bounded
  tag : ∀ name scope ts, Gives (ctx.tag name scope ts) fun r => Fits room r.1
  branch : ∀ scope ts, Gives (ctx.branch scope ts) fun r => Fits room r.1

namespace Context.Bounded

variable {ctx : Context} {room : Nat}

lemma expr (h : ctx.Bounded room) (scope : Scope) (ts : Tokens) :
    Gives (ctx.expr scope ts) fun r => r.1.height ≤ maxHeight :=
  h.inner scope true ts

lemma item (h : ctx.Bounded room) {ends : List String} {scope scope' : Scope} {ts r : Tokens}
    {n : Node} (hitem : ItemRead ctx ends scope ts (.node n) scope' r) : Fits room n := by
  cases hitem with
  | text => exact fits_of_height (Node.height_le_iff.2 (by simp [Node.children]))
  | output _ he =>
    have hheight := h.expr scope _ _ he
    exact fits_of_height (Node.height_le_iff.2 (by simpa [Node.children] using hheight))
  | tag _ _ hnode => exact h.tag _ scope _ _ hnode

lemma readBody (h : ctx.Bounded room) (ends : List String) (scope : Scope) (ts : Tokens) :
    Gives (readBody ctx ends scope ts) fun r => ∀ n ∈ r.1.1, Fits room n := by
  refine (gives_readBody scope ts).mono ?_
  rintro ⟨⟨body, tag⟩, scope', r⟩ hbody
  dsimp only at hbody ⊢
  induction hbody with
  | ending => exact List.forall_mem_nil _
  | node hitem _ ih => exact List.forall_mem_cons.2 ⟨h.item hitem, ih⟩

lemma closedBody (h : ctx.Bounded room) (endTag : String) (mayRepeat : Bool) (scope : Scope)
    (ts : Tokens) :
    Gives (closedBody ctx endTag mayRepeat scope ts) fun r => ∀ n ∈ r.1, Fits room n := by
  unfold Syntax.closedBody
  refine gives_bind (h.readBody [endTag] scope ts) ?_
  rintro ⟨⟨body, tag⟩, scope, r⟩ hbody
  exact gives_step fun r => gives_pure hbody

lemma readIf (h : ctx.Bounded room) (scope : Scope) (ts : Tokens) :
    Gives (readIf ctx scope ts) fun r => Fits (room + 1) r.1 := by
  -- both branches stand one level below the tag
  have hfits : ∀ {test body orElse}, test.height ≤ maxHeight → (∀ n ∈ body, Fits room n) →
      (∀ n ∈ orElse, Fits room n) → Fits (room + 1) (.ifTag test body orElse) := by
    intro test body orElse htest hbody horElse
    refine fits_of_children (List.forall_mem_cons.2 ⟨fits_expr htest, ?_⟩)
    exact List.forall_mem_append.2 ⟨hbody, horElse⟩
  unfold Syntax.readIf
  refine gives_bind (h.expr scope ts) ?_
  rintro ⟨test, r⟩ htest
  refine gives_step fun r => gives_bind (h.readBody _ scope r) ?_
  rintro ⟨⟨body, tag⟩, scope, r⟩ hbody
  dsimp only
  split
  · refine gives_bind (h.branch scope r) ?_
    rintro ⟨next, scope, r⟩ hnext
    exact gives_pure (hfits htest hbody (by simpa using hnext))
  · split
    · refine gives_step fun r => gives_bind (h.closedBody _ _ scope r) ?_
      rintro ⟨orElse, scope, r⟩ horElse
      exact gives_pure (hfits htest hbody horElse)
    · exact gives_step fun r => gives_pure (hfits htest hbody (by simp))

lemma readFor (h : ctx.Bounded room) (scope : Scope) (ts : Tokens) :
    Gives (readFor ctx scope ts) fun r => Fits (room + 1) r.1 := by
  -- the sequence and the condition are expressions, the bodies stand one level below the tag
  have hfits : ∀ {targets iter body orElse} {condition : Option Node}, iter.height ≤ maxHeight →
      (∀ e ∈ condition, e.height ≤ maxHeight) → (∀ n ∈ body, Fits room n) →
      (∀ n ∈ orElse, Fits room n) →
      Fits (room + 1) (.forTag targets iter condition body orElse) := by
    intro targets iter body orElse condition hiter hcondition hbody horElse
    refine fits_of_children (List.forall_mem_cons.2 ⟨fits_expr hiter, ?_⟩)
    refine List.forall_mem_append.2 ⟨List.forall_mem_append.2 ⟨fun e he => ?_, hbody⟩, horElse⟩
    exact fits_expr (hcondition e (Option.mem_toList.1 he))
  unfold Syntax.readFor
  refine gives_step ?_
  rintro ⟨targets, r⟩
  dsimp only
  split
  · refine gives_bind (h.inner scope false _) ?_
    rintro ⟨iter, r⟩ hiter
    dsimp only
    refine gives_bind
      (gives_loopCondition (P := fun e => e.height ≤ maxHeight) (h.expr scope) r) ?_
    rintro ⟨condition, r⟩ hcondition
    refine gives_step fun r => gives_bind (h.readBody _ scope r) ?_
    rintro ⟨⟨body, tag⟩, scope, r⟩ hbody
    dsimp only
    split
    · refine gives_step fun r => gives_bind (h.closedBody _ _ scope r) ?_
      rintro ⟨orElse, scope, r⟩ horElse
      exact gives_pure (hfits hiter hcondition hbody horElse)
    · exact gives_step fun r => gives_pure (hfits hiter hcondition hbody (by simp))
  · exact gives_failAt _ _

lemma readBlock (h : ctx.Bounded room) (scope : Scope) (ts : Tokens) :
    Gives (readBlock ctx scope ts) fun r => Fits (room + 1) r.1 := by
  unfold Syntax.readBlock
  refine gives_step ?_
  rintro ⟨name, r⟩
  dsimp only
  split
  · refine gives_bind (h.closedBody _ _ scope _) ?_
    rintro ⟨body, scope, r⟩ hbody
    exact gives_pure (fits_of_children hbody)
  · refine gives_bind (h.expr scope _) ?_
    rintro ⟨e, r⟩ he
    refine gives_step fun r => gives_pure (fits_of_children (List.forall_mem_singleton.2 ?_))
    exact fits_of_height (Node.height_le_iff.2 (by simpa [Node.children] using he))

lemma readMacro (h : ctx.Bounded room) (scope : Scope) (ts : Tokens) :
    Gives (readMacro ctx scope ts) fun r => Fits (room + 1) r.1 := by
  unfold Syntax.readMacro
  refine gives_step ?_
  rintro ⟨name, r⟩
  refine gives_bind
    (gives_parameters (P := fun e => e.height ≤ maxHeight) (h.expr scope) r) ?_
  rintro ⟨params, r⟩ hparams
  refine gives_step fun r => gives_bind (h.closedBody _ _ scope r) ?_
  rintro ⟨body, scope, r⟩ hbody
  refine gives_pure (fits_of_children (List.forall_mem_append.2 ⟨fun e he => ?_, hbody⟩))
  obtain ⟨p, hp, hpe⟩ := List.mem_filterMap.1 he
  exact fits_expr (hparams p hp e hpe)

lemma readSet (h : ctx.Bounded room) (scope : Scope) (ts : Tokens) :
    Gives (readSet ctx scope ts) fun r => Fits (room + 1) r.1 := by
  unfold Syntax.readSet
  refine gives_step ?_
  rintro ⟨targets, r⟩
  dsimp only
  split
  · refine gives_bind (gives_commaList (P := fun e => e.height ≤ maxHeight) (h.expr scope) _) ?_
    rintro ⟨values, r⟩ hvalues
    refine gives_step fun r => gives_pure (fits_of_children ?_)
    -- one value stands for itself, several stand in a list
    refine List.forall_mem_append.2 ⟨List.forall_mem_singleton.2 ?_, by simp⟩
    split
    · rename_i v hv
      exact fits_expr (hvalues v (hv ▸ List.mem_cons_self))
    · exact fits_of_height (Node.height_le_iff.2 hvalues)
  · refine gives_step fun r => gives_bind (h.closedBody _ _ scope r) ?_
    rintro ⟨body, scope, r⟩ hbody
    exact gives_pure (fits_of_children hbody)

lemma readInclude (h : ctx.Bounded room) (scope : Scope) (ts : Tokens) :
    Gives (readInclude ctx scope ts) fun r => Fits (room + 1) r.1 := by
  unfold Syntax.readInclude
  refine gives_bind
    (gives_includeHead (P := fun e => e.height ≤ maxHeight) (h.expr scope) ts) ?_
  rintro ⟨⟨target, passed, options⟩, r⟩ ⟨htarget, hpassed⟩
  refine gives_pure (fits_of_children (List.forall_mem_cons.2 ⟨fits_expr htarget, fun e he => ?_⟩))
  exact fits_expr (hpassed e (Option.mem_toList.1 he))

lemma readEmbed (h : ctx.Bounded room) (scope : Scope) (ts : Tokens) :
    Gives (readEmbed ctx scope ts) fun r => Fits (room + 1) r.1 := by
  unfold Syntax.readEmbed
  refine gives_bind
    (gives_includeHead (P := fun e => e.height ≤ maxHeight) (h.expr scope) ts) ?_
  rintro ⟨⟨target, passed, options⟩, r⟩ ⟨htarget, hpassed⟩
  refine gives_bind (h.closedBody _ _ scope r) ?_
  rintro ⟨body, scope, r⟩ hbody
  refine gives_pure (fits_of_children (List.forall_mem_cons.2 ⟨fits_expr htarget, ?_⟩))
  refine List.forall_mem_append.2 ⟨fun e he => ?_, hbody⟩
  exact fits_expr (hpassed e (Option.mem_toList.1 he))

lemma readExtends (h : ctx.Bounded room) (scope : Scope) (ts : Tokens) :
    Gives (readExtends ctx scope ts) fun r => Fits (room + 1) r.1 := by
  unfold Syntax.readExtends
  refine gives_bind (h.expr scope ts) ?_
  rintro ⟨target, r⟩ htarget
  exact gives_step fun r => gives_pure (fits_of_children
    (List.forall_mem_singleton.2 (fits_expr htarget)))

lemma readImport (h : ctx.Bounded room) (scope : Scope) (ts : Tokens) :
    Gives (readImport ctx scope ts) fun r => Fits (room + 1) r.1 := by
  unfold Syntax.readImport
  refine gives_bind (h.expr scope ts) ?_
  rintro ⟨target, r⟩ htarget
  dsimp only
  split
  · refine gives_step ?_
    rintro ⟨localName, r⟩
    exact gives_step fun r => gives_pure (fits_of_children
      (List.forall_mem_singleton.2 (fits_expr htarget)))
  · exact gives_failAt _ _

lemma readFrom (h : ctx.Bounded room) (scope : Scope) (ts : Tokens) :
    Gives (readFrom ctx scope ts) fun r => Fits (room + 1) r.1 := by
  unfold Syntax.readFrom
  refine gives_bind (h.expr scope ts) ?_
  rintro ⟨target, r⟩ htarget
  dsimp only
  split
  · refine gives_step ?_
    rintro ⟨names, r⟩
    exact gives_step fun r => gives_pure (fits_of_children
      (List.forall_mem_singleton.2 (fits_expr htarget)))
  · exact gives_failAt _ _

/-- A tag with filters at its head is as tall as they make it, if nothing else in it is taller. -/
lemma fits_container {tag : String} {filters : Option Node} {args body : List Node}
    (hfilters : ∀ chain ∈ filters, takesFilters tag = true ∧
      ∃ k, FilterChain k chain ∧ chain.height ≤ k + maxHeight)
    (hargs : ∀ e ∈ args, e.height ≤ maxHeight) (hbody : ∀ n ∈ body, Fits room n) :
    Fits (room + 1) (.container tag (filters.toList ++ args) body) := by
  have hrest : ∀ c ∈ args ++ body, Fits room c :=
    List.forall_mem_append.2 ⟨fun e he => fits_expr (hargs e he), hbody⟩
  cases filters with
  | none => exact fits_of_children hrest
  | some chain =>
    obtain ⟨htag, k, hchain, hk⟩ := hfilters chain rfl
    rcases Node.height_eq_one_or (.container tag (chain :: args) body) with hone | ⟨c, hc, hheight⟩
    · exact fits_of_height (by simp only [Option.toList_some, List.singleton_append]; omega)
    -- the tallest child of the tag is the chain, or one of the others
    rcases List.mem_cons.1 hc with rfl | hc
    · exact .inr ⟨1, c, k, .head args body htag hchain, hchain, by omega, hk, by
        simpa [Nat.add_comm] using hheight⟩
    · rcases hrest c hc with hle | ⟨level, lead, j, hleads, hlead, hlevel, hj, heq⟩
      · exact .inl (by simp only [Option.toList_some, List.singleton_append]; omega)
      · exact .inr ⟨level + 1, lead, j, .child (List.mem_cons_of_mem _ hc) hleads, hlead,
          by omega, hj, by simp only [Option.toList_some, List.singleton_append]; omega⟩

lemma readContainer (h : ctx.Bounded room) (tag : String) (scope : Scope) (ts : Tokens) :
    Gives (readContainer ctx tag scope ts) fun r => Fits (room + 1) r.1 := by
  unfold Syntax.readContainer
  refine gives_bind (gives_leadingFilters (h.inner scope) tag ts) ?_
  rintro ⟨filters, r⟩ hfilters
  refine gives_bind
    (gives_tagArgs (P := fun e => e.height ≤ maxHeight) (h.expr scope) r) ?_
  rintro ⟨args, r⟩ hargs
  refine gives_step fun r => ?_
  dsimp only
  split
  · refine gives_bind (h.closedBody _ _ scope r) ?_
    rintro ⟨body, scope, r⟩ hbody
    exact gives_pure (fits_container hfilters hargs hbody)
  · exact gives_pure (fits_container hfilters hargs (by simp))

lemma readTag (h : ctx.Bounded room) (name : String) (scope : Scope) (ts : Tokens) :
    Gives (readTag ctx name scope ts) fun r => Fits (room + 1) r.1 := by
  unfold Syntax.readTag
  split
  · exact h.readIf scope ts
  · exact h.readFor scope ts
  · exact h.readBlock scope ts
  · exact h.readMacro scope ts
  · exact h.readSet scope ts
  · exact h.readInclude scope ts
  · exact h.readEmbed scope ts
  · exact h.readExtends scope ts
  · exact h.readImport scope ts
  · exact h.readFrom scope ts
  · exact h.readContainer _ scope ts

end Context.Bounded

/-- With so much nesting left, everything that is read fits it. -/
lemma bounded_context (room : Nat) : (context room).Bounded room := by
  induction room with
  | zero =>
    exact ⟨fun scope => height_level scope 0, fun _ _ _ => gives_failAt _ _,
      fun _ _ => gives_failAt _ _⟩
  | succ room ih =>
    exact ⟨fun scope => height_level scope (room + 1), ih.readTag, ih.readIf⟩

/-- A template adds a level to what fits the nesting that is accepted. -/
lemma fits_parse {source : String} {t : Node} (h : parse source = .ok t) :
    Fits (maxNesting + 1) t := by
  have hgives : Gives (parse source) fun t => Fits (maxNesting + 1) t := by
    unfold parse
    refine gives_step fun ts => ?_
    unfold readTemplate
    refine gives_bind ((bounded_context maxNesting).readBody [] Scope.start ts) ?_
    rintro ⟨⟨body, tag⟩, scope, r⟩ hbody
    exact gives_pure (fits_of_children hbody)
  exact hgives t h

end TemplateMetrics.Syntax
