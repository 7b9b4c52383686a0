import Mathlib.Tactic.Common
import TemplateMetrics.Syntax.Statement

/-!
What a reader gives when it succeeds. The rules follow the way readers are put together, so that a
proof about a reader goes through its steps in the order in which it takes them.
-/

namespace TemplateMetrics.Syntax

variable {α β : Type}

/-- Whatever `x` gives satisfies `P`. -/
def Gives (x : Parsed α) (P : α → Prop) : Prop := ∀ a, x = .ok a → P a

variable {P Q : α → Prop} {R : β → Prop}

lemma gives_ok {a : α} (h : P a) : Gives (.ok a) P := by
  rintro _ ⟨rfl⟩
  exact h

lemma gives_pure {a : α} (h : P a) : Gives (pure a) P := gives_ok h

lemma gives_error (e : SyntaxError) : Gives (.error e : Parsed α) P := by
  rintro _ ⟨⟩

lemma gives_failAt (ts : Tokens) (fault : Fault) : Gives (failAt ts fault : Parsed α) P :=
  gives_error _

lemma gives_any (x : Parsed α) : Gives x fun _ => True := fun _ _ => trivial

lemma Gives.mono {x : Parsed α} (h : Gives x P) (hPQ : ∀ a, P a → Q a) : Gives x Q :=
  fun a ha => hPQ a (h a ha)

lemma Gives.and {x : Parsed α} (hP : Gives x P) (hQ : Gives x Q) : Gives x fun a => P a ∧ Q a :=
  fun a ha => ⟨hP a ha, hQ a ha⟩

lemma gives_bind {x : Parsed α} {f : α → Parsed β} (hx : Gives x Q)
    (hf : ∀ a, Q a → Gives (f a) R) : Gives (x >>= f) R := by
  intro b hb
  cases h : x with
  | error e =>
    rw [h] at hb
    cases hb
  | ok a =>
    rw [h] at hb
    exact hf a (hx a h) b hb

/-- A step whose result does not matter. -/
lemma gives_step {x : Parsed α} {f : α → Parsed β} (hf : ∀ a, Gives (f a) R) :
    Gives (x >>= f) R :=
  gives_bind (gives_any x) fun a _ => hf a

/-! ### Loops -/

section Loops

variable {σ : Type} (round round' : Round σ α)

/-- What holds where no round is left, and of a round whenever it holds of what comes next, holds of
a loop. -/
lemma loop_induct {motive : σ → Tokens → Parsed α → Prop}
    (stop : ∀ s ts, motive s ts (.error ⟨1, .chainTooLong⟩))
    (step : ∀ next, (∀ s ts, motive s ts (next s ts)) → ∀ s ts, motive s ts (round next s ts))
    (s : σ) (ts : Tokens) : motive s ts (loop round s ts) := by
  have hrounds : ∀ n s ts, motive s ts (rounds round n s ts) := by
    intro n
    induction n with
    | zero => exact stop
    | succ n ih => exact step _ ih
  exact hrounds _ s ts

/-- The same of two loops that go over one list of tokens. -/
lemma loop_induct₂ {motive : σ → Tokens → Parsed α → Parsed α → Prop}
    (stop : ∀ s ts, motive s ts (.error ⟨1, .chainTooLong⟩) (.error ⟨1, .chainTooLong⟩))
    (step : ∀ next next', (∀ s ts, motive s ts (next s ts) (next' s ts)) →
      ∀ s ts, motive s ts (round next s ts) (round' next' s ts))
    (s : σ) (ts : Tokens) : motive s ts (loop round s ts) (loop round' s ts) := by
  have hrounds : ∀ n s ts, motive s ts (rounds round n s ts) (rounds round' n s ts) := by
    intro n
    induction n with
    | zero => exact stop
    | succ n ih => exact step _ _ ih
  exact hrounds _ s ts

end Loops

/-! ### Lists of items -/

variable {item : Reader α}

lemma gives_closedList (h : ∀ ts, Gives (item ts) fun r => P r.1) (close : Punct) (ts : Tokens) :
    Gives (closedList close item ts) fun r => ∀ x ∈ r.1, P x := by
  refine loop_induct (closedRound close item)
    (motive := fun _ _ x => Gives x fun r => ∀ x ∈ r.1, P x) (fun _ _ => gives_error _) ?_ () ts
  intro next hnext _ ts
  unfold closedRound
  split
  · exact gives_ok (by simp)
  · refine gives_bind (h ts) ?_
    rintro ⟨x, r⟩ hx
    dsimp only
    split
    · refine gives_bind (hnext () _) ?_
      rintro ⟨xs, r⟩ hxs
      exact gives_pure (List.forall_mem_cons.2 ⟨hx, hxs⟩)
    · exact gives_step fun r => gives_pure (by simpa using hx)

lemma gives_commaList (h : ∀ ts, Gives (item ts) fun r => P r.1) (ts : Tokens) :
    Gives (commaList item ts) fun r => ∀ x ∈ r.1, P x := by
  refine loop_induct (commaRound item)
    (motive := fun _ _ x => Gives x fun r => ∀ x ∈ r.1, P x) (fun _ _ => gives_error _) ?_ () ts
  intro next hnext _ ts
  unfold commaRound
  refine gives_bind (h ts) ?_
  rintro ⟨x, r⟩ hx
  dsimp only
  split
  · refine gives_bind (hnext () _) ?_
    rintro ⟨xs, r⟩ hxs
    exact gives_pure (List.forall_mem_cons.2 ⟨hx, hxs⟩)
  · exact gives_pure (by simpa using hx)

/-! ### Expressions within tags

What holds of every expression that is read holds of those that stand within a tag. -/

section Tags

variable {P : Node → Prop}

lemma gives_tagArgs {expr : Reader Node} (h : ∀ ts, Gives (expr ts) fun r => P r.1) (ts : Tokens) :
    Gives (tagArgs expr ts) fun r => ∀ e ∈ r.1, P e := by
  refine loop_induct (tagArgsRound expr)
    (motive := fun _ _ x => Gives x fun r => ∀ e ∈ r.1, P e) (fun _ _ => gives_error _) ?_ () ts
  intro next hnext _ ts
  unfold tagArgsRound
  split
  · exact gives_ok (by simp)
  · exact gives_ok (by simp)
  · exact hnext () _
  · exact hnext () _
  · -- what is neither the end nor a comma nor `only` is an argument
    refine gives_bind (h ts) ?_
    rintro ⟨arg, r⟩ harg
    refine gives_bind (hnext () r) ?_
    rintro ⟨args, r⟩ hargs
    exact gives_pure (List.forall_mem_cons.2 ⟨harg, hargs⟩)

lemma gives_loopCondition {expr : Reader Node} (h : ∀ ts, Gives (expr ts) fun r => P r.1)
    (ts : Tokens) : Gives (loopCondition expr ts) fun r => ∀ e ∈ r.1, P e := by
  unfold loopCondition
  split
  · refine gives_bind (h _) ?_
    rintro ⟨e, r⟩ he
    exact gives_pure (by simpa using he)
  · exact gives_ok (by simp)

variable {ctx : Context} {scope : Scope}

lemma gives_parameters (h : ∀ ts, Gives (ctx.expr scope ts) fun r => P r.1) (ts : Tokens) :
    Gives (parameters ctx scope ts) fun r => ∀ p ∈ r.1, ∀ e ∈ p.2, P e := by
  have hparameter : ∀ ts, Gives (parameter ctx scope ts) fun r => ∀ e ∈ r.1.2, P e := by
    intro ts
    unfold parameter
    refine gives_step ?_
    rintro ⟨name, r⟩
    dsimp only
    split
    · refine gives_bind (h _) ?_
      rintro ⟨e, r⟩ he
      exact gives_pure (by simpa using he)
    · exact gives_pure (by simp)
  unfold parameters
  refine gives_step fun r => ?_
  dsimp only
  split
  · exact gives_pure (by simp)
  · refine gives_bind (gives_commaList (P := fun p => ∀ e ∈ p.2, P e) hparameter _) ?_
    rintro ⟨params, r⟩ hparams
    exact gives_step fun r => gives_pure hparams

lemma gives_includeClauses (h : ∀ ts, Gives (ctx.expr scope ts) fun r => P r.1)
    {clauses : Clauses} (hpassed : ∀ e ∈ clauses.1, P e) (ts : Tokens) :
    Gives (includeClauses ctx scope clauses ts) fun r => ∀ e ∈ r.1.1, P e := by
  refine loop_induct (clauseRound ctx scope)
    (motive := fun clauses _ x => (∀ e ∈ clauses.1, P e) → Gives x fun r => ∀ e ∈ r.1.1, P e)
    (fun _ _ _ => gives_error _) ?_ clauses ts hpassed
  rintro next hnext ⟨passed, options⟩ ts hpassed
  unfold clauseRound
  dsimp only
  split
  · split
    · -- `ignore missing`
      exact hnext _ _ hpassed
    · exact gives_failAt _ _
  · split
    · -- `with context`
      exact hnext _ _ hpassed
    · -- `with` and a value, which takes the place of an earlier one
      refine gives_bind (h _) ?_
      rintro ⟨e, r⟩ he
      exact hnext _ _ (by simpa using he)
  · exact hnext _ _ hpassed
  · exact hnext _ _ hpassed
  · exact gives_ok hpassed

lemma gives_includeHead (h : ∀ ts, Gives (ctx.expr scope ts) fun r => P r.1) (ts : Tokens) :
    Gives (includeHead ctx scope ts) fun r => P r.1.1 ∧ ∀ e ∈ r.1.2.1, P e := by
  unfold includeHead
  refine gives_bind (h ts) ?_
  rintro ⟨target, r⟩ htarget
  refine gives_bind (gives_includeClauses h (by simp) r) ?_
  rintro ⟨⟨passed, options⟩, r⟩ hpassed
  exact gives_step fun r => gives_pure ⟨htarget, hpassed⟩

end Tags

/-! ### Bodies

One case for each thing that can come next in a body; what a reader of bodies keeps is shown by
these cases. -/

variable {ctx : Context} {ends : List String}

/-- What comes next in a body, where it stands, and what is behind it. -/
inductive ItemRead (ctx : Context) (ends : List String) (scope : Scope) :
    Tokens → BodyItem → Scope → Tokens → Prop
  | template {t : Located} {r : Tokens} (ht : t.token = .eof) (hends : ends = []) :
      ItemRead ctx ends scope (t :: r) (.ending "") scope r
  | text {t : Located} {r : Tokens} {s : String} (ht : t.token = .text s) :
      ItemRead ctx ends scope (t :: r) (.node (.text s)) scope r
  | output {t : Located} {r r' : Tokens} {e : Node} (ht : t.token = .outputStart)
      (he : ctx.expr scope r = .ok (e, r')) (hend : peek r' = .outputEnd) :
      ItemRead ctx ends scope (t :: r) (.node (.output e)) scope r'.tail
  | ending {t : Located} {r r' : Tokens} {name : String} (ht : t.token = .tagStart)
      (hname : expectName r = .ok (name, r')) (hends : name ∈ ends) :
      ItemRead ctx ends scope (t :: r) (.ending name) scope r'
  | tag {t : Located} {r r' r'' : Tokens} {name : String} {node : Node} {scope' : Scope}
      (ht : t.token = .tagStart) (hname : expectName r = .ok (name, r'))
      (hnode : ctx.tag name scope r' = .ok (node, scope', r'')) :
      ItemRead ctx ends scope (t :: r) (.node node) scope' r''

lemma gives_bodyItem (scope : Scope) (ts : Tokens) :
    Gives (bodyItem ctx ends scope ts) fun x => ItemRead ctx ends scope ts x.1 x.2.1 x.2.2 := by
  cases ts with
  | nil => exact gives_failAt _ _
  | cons t r =>
    rw [bodyItem]
    split
    · -- the end of the template ends the outermost body only
      split
      · exact gives_ok (.template (by assumption) (List.isEmpty_iff.1 (by assumption)))
      · exact gives_error _
    · exact gives_ok (.text (by assumption))
    · -- an output and its closing delimiter
      refine gives_bind (fun _ he => he) ?_
      rintro ⟨e, r'⟩ he
      dsimp only
      split
      · exact gives_pure (.output (by assumption) he (by assumption))
      · exact gives_error _
    · -- a tag, which may end the body
      refine gives_bind (fun _ hname => hname) ?_
      rintro ⟨name, r'⟩ hname
      dsimp only
      split
      · exact gives_pure (.ending (by assumption) hname (List.contains_iff_mem.1 (by assumption)))
      · split
        · exact gives_error _
        · refine gives_bind (fun _ hnode => hnode) ?_
          rintro ⟨node, scope', r''⟩ hnode
          exact gives_pure (.tag (by assumption) hname hnode)
    · exact gives_error _

/-- A body from one place to another: the nodes of it, one after the other, and the tag behind. -/
inductive BodyRead (ctx : Context) (ends : List String) :
    Scope → Tokens → List Node → String → Scope → Tokens → Prop
  | ending {scope scope' : Scope} {ts r : Tokens} {tag : String}
      (h : ItemRead ctx ends scope ts (.ending tag) scope' r) :
      BodyRead ctx ends scope ts [] tag scope' r
  | node {scope scope' scope'' : Scope} {ts r rest : Tokens} {n : Node} {body : List Node}
      {tag : String} (h : ItemRead ctx ends scope ts (.node n) scope' r)
      (hbody : BodyRead ctx ends scope' r body tag scope'' rest) :
      BodyRead ctx ends scope ts (n :: body) tag scope'' rest

lemma gives_readBody (scope : Scope) (ts : Tokens) : Gives (readBody ctx ends scope ts) fun r =>
    BodyRead ctx ends scope ts r.1.1 r.1.2 r.2.1 r.2.2 := by
  refine loop_induct (bodyRound ctx ends) (motive := fun scope ts x => Gives x fun r =>
    BodyRead ctx ends scope ts r.1.1 r.1.2 r.2.1 r.2.2) (fun _ _ => gives_error _) ?_ scope ts
  intro next hnext scope ts
  refine gives_bind (gives_bodyItem scope ts) ?_
  rintro ⟨item, scope', r⟩ hitem
  cases item with
  | ending tag => exact gives_pure (.ending hitem)
  | node n =>
    refine gives_bind (hnext scope' r) ?_
    rintro ⟨⟨body, tag⟩, scope'', rest⟩ hbody
    exact gives_pure (.node hitem hbody)

/-- A tag that neither ends the body nor is one that never opens anything. -/
lemma bodyItem_tag {name : String} {scope scope' : Scope} {r r' : Tokens} {node : Node}
    {p q : Position} (hends : ends.contains name = false) (hstray : isStray name = false)
    (hnode : ctx.tag name scope r = .ok (node, scope', r')) :
    bodyItem ctx ends scope (⟨.tagStart, p⟩ :: ⟨.name name, q⟩ :: r) =
      .ok (.node node, scope', r') := by
  simp only [bodyItem, expectName, bind, Except.bind, hends, hstray, hnode, Bool.false_eq_true,
    if_false]
  rfl

/-- A template of one node and the end. -/
lemma readTemplate_of_item {ts : Tokens} {n : Node} {scope : Scope} {stop : Position}
    (h : bodyItem (context maxNesting) [] .start ts = .ok (.node n, scope, [⟨.eof, stop⟩])) :
    readTemplate ts = .ok (.template [n]) := by
  cases ts with
  | nil => cases h
  | cons t r =>
    simp only [readTemplate, readBody, loop, List.length_cons, rounds, bodyRound, h, bind,
      Except.bind]
    rfl

end TemplateMetrics.Syntax
