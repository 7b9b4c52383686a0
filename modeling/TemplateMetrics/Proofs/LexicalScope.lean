import TemplateMetrics.Proofs.Balance
import TemplateMetrics.Proofs.Places

/-!
Lexical scope.

A name is bound at a place by a loop or a macro around it, or by a set or an import before it whose
scope is still open there (`Bound`). Seen from a child of a node, the names bound are those of the
node itself, those that the children before it leave bound (`Node.bindings`), and those bound inside
the child (`bound_cons`).
-/

namespace TemplateMetrics

open Syntax

/-! ### Names that nodes bind -/

namespace Syntax.Node

/-- Names that a loop or a macro binds in all of itself. -/
def scopeNames : Node → List String
  | .forTag targets _ _ _ _ => targets
  | .macroTag _ params _ _ => params
  | _ => []

/-- Names that a set binds behind it. -/
def setNames : Node → List String
  | .setTag targets _ _ => targets
  | _ => []

/-- Names that an import binds from where it starts. -/
def importNames : Node → List String
  | .importTag _ localName names => localName.toList ++ names.map fun n => n.2.getD n.1
  | _ => []

/-- The name that a node refers to. -/
def reference? : Node → Option String
  | .nameRef name => some name
  | _ => none

/-- Names that a node leaves bound in the scope it stands in. -/
def bindings : Node → List String :=
  fold fun n below =>
    if Collect.Variables.opensScope n then [] else n.importNames ++ below.flatten ++ n.setNames

end Syntax.Node

namespace Collect.Variables

variable {root n c d m : Node} {i j : Nat} {p q h : Place} {x : String}

/-- Names bound at `q` belong to the scope of the nearest loop, macro or block around, and to that
of the root if there is none. -/
inductive Home (root : Node) (q : Place) : Place → Prop
  | nearest {h : Place} {n : Node} (hq : Encloses h q) (hn : root.at? h = some n)
      (hopens : opensScope n = true)
      (hbetween : ∀ g m, Encloses h g → Encloses g q → root.at? g = some m →
        opensScope m = false) : Home root q h
  | root (hnone : ∀ g m, Encloses g q → root.at? g = some m → opensScope m = false) :
      Home root q []

/-- A name is bound at a place: by a loop or a macro around, by a set that has ended before, or by
an import that has started before, in a scope around the place. -/
inductive Bound (root : Node) (p : Place) (x : String) : Prop
  | around {q : Place} {n : Node} (hq : Encloses q p) (hn : root.at? q = some n)
      (hx : x ∈ n.scopeNames)
  | set {q h : Place} {n : Node} (hn : root.at? q = some n) (hx : x ∈ n.setNames)
      (hq : Before q p) (hended : ¬ Encloses q p) (hhome : Home root q h) (hh : Encloses h p)
  | imported {q h : Place} {n : Node} (hn : root.at? q = some n) (hx : x ∈ n.importNames)
      (hq : Before q p) (hhome : Home root q h) (hh : Encloses h p)

/-! ### Open scopes -/

/-- All scopes around `q` are scopes around `p`. -/
def Open (root : Node) (q p : Place) : Prop :=
  ∀ g m, Encloses g q → root.at? g = some m → opensScope m = true → Encloses g p

/-- No scope opens on the way to `q`. -/
def Clear (root : Node) (q : Place) : Prop :=
  ∀ g m, Encloses g q → root.at? g = some m → opensScope m = false

lemma clear_nil : Clear n [] := fun _ _ hg => absurd hg not_encloses_nil

lemma clear_cons (hc : n.children[i]? = some c) :
    Clear n (i :: q) ↔ opensScope n = false ∧ Clear c q :=
  Node.forall_encloses_cons hc

lemma open_cons_self (hc : n.children[i]? = some c) : Open n (i :: q) (i :: p) ↔ Open c q p := by
  unfold Open
  rw [Node.forall_encloses_cons hc]
  simp only [encloses_nil_cons, encloses_cons_cons, implies_true, true_and]

lemma open_cons_of_ne (hd : n.children[j]? = some d) (hji : j ≠ i) :
    Open n (j :: q) (i :: p) ↔ Clear d q := by
  unfold Open Clear
  rw [Node.forall_encloses_cons hd]
  simp only [encloses_nil_cons, encloses_cons_cons, hji, implies_true, true_and, false_and,
    imp_false, Bool.not_eq_true]

lemma exists_home (root : Node) (q : Place) : ∃ h, Home root q h := by
  induction q generalizing root with
  | nil => exact ⟨[], .root fun _ _ hg => absurd hg not_encloses_nil⟩
  | cons i q ih =>
    -- behind the root, a scope on the way stands below the child that the way follows
    have hbelow : ∀ g m, Encloses g (i :: q) → root.at? g = some m → g = [] ∧ m = root ∨
        ∃ g' c, root.children[i]? = some c ∧ g = i :: g' ∧ Encloses g' q ∧ c.at? g' = some m := by
      intro g m hg hm
      rcases encloses_cons.1 hg with rfl | ⟨g, rfl, hin⟩
      · exact .inl ⟨rfl, (Option.some.inj hm).symm⟩
      · obtain ⟨c, hc, hm⟩ := Node.at?_cons_eq_some.1 hm
        exact .inr ⟨g, c, hc, rfl, hin, hm⟩
    have htop : (∀ c, root.children[i]? = some c → Clear c q) → ∃ h, Home root (i :: q) h := by
      intro hclear
      cases hopens : opensScope root with
      | false =>
        refine ⟨[], .root fun g m hg hm => ?_⟩
        rcases hbelow g m hg hm with ⟨rfl, rfl⟩ | ⟨g, c, hc, rfl, hg, hm⟩
        · exact hopens
        · exact hclear c hc g m hg hm
      | true =>
        refine ⟨[], .nearest encloses_nil_cons rfl hopens fun g m hroot hg hm => ?_⟩
        rcases hbelow g m hg hm with ⟨rfl, rfl⟩ | ⟨g, c, hc, rfl, hg, hm⟩
        · exact absurd hroot not_encloses_nil
        · exact hclear c hc g m hg hm
    cases hchild : root.children[i]? with
    | none => exact htop fun c hc => by rw [hchild] at hc; cases hc
    | some c =>
      obtain ⟨h, hhome⟩ := ih c
      cases hhome with
      | root hnone =>
        refine htop fun c' hc' => ?_
        rw [hchild] at hc'
        obtain rfl := Option.some.inj hc'
        exact hnone
      | @nearest h n hq hn hopens hbetween =>
        refine ⟨i :: h, .nearest (encloses_cons_cons.2 ⟨rfl, hq⟩)
          ((Node.at?_cons hchild h).trans hn) hopens fun g m hhg hg hm => ?_⟩
        rcases hbelow g m hg hm with ⟨rfl, rfl⟩ | ⟨g, c', hc', rfl, hg, hm⟩
        · exact absurd hhg not_encloses_nil
        · rw [hchild] at hc'
          obtain rfl := Option.some.inj hc'
          exact hbetween g m (encloses_cons_cons.1 hhg).2 hg hm

/-- The home of `q` is around `p` exactly if all scopes around `q` are. -/
lemma exists_home_iff (hp : p ≠ []) :
    (∃ h, Home root q h ∧ Encloses h p) ↔ Open root q p := by
  constructor
  · rintro ⟨h, hhome, hh⟩ g m hg hm hopens
    cases hhome with
    | root hnone =>
      rw [hnone g m hg hm] at hopens
      cases hopens
    | nearest hq hn _ hbetween =>
      -- a scope further in would be nearer
      by_cases hin : Encloses h g
      · rw [hbetween g m hin hg hm] at hopens
        cases hopens
      · refine Encloses.of_prefix ?_ hh
        rcases List.prefix_or_prefix_of_prefix hg.1 hq.1 with hgh | hhg
        · exact hgh
        · by_cases he : h = g
          · exact he ▸ List.prefix_rfl
          · exact absurd ⟨hhg, he⟩ hin
  · intro hopen
    obtain ⟨h, hhome⟩ := exists_home root q
    refine ⟨h, hhome, ?_⟩
    cases hhome with
    | root =>
      obtain ⟨i, p, rfl⟩ := List.exists_cons_of_ne_nil hp
      exact encloses_nil_cons
    | nearest hq hn hopens => exact hopen _ _ hq hn hopens

/-! ### Bindings, child by child -/

lemma bound_iff : Bound root p x ↔
    (∃ q n, Encloses q p ∧ root.at? q = some n ∧ x ∈ n.scopeNames) ∨
    ∃ q n, root.at? q = some n ∧ (x ∈ n.setNames ∧ ¬ Encloses q p ∨ x ∈ n.importNames) ∧
      Before q p ∧ Open root q p := by
  constructor
  · intro hbound
    cases hbound with
    | around hq hn hx => exact .inl ⟨_, _, hq, hn, hx⟩
    | set hn hx hq hended hhome hh =>
      exact .inr ⟨_, _, hn, .inl ⟨hx, hended⟩, hq, (exists_home_iff hq.ne_nil).1 ⟨_, hhome, hh⟩⟩
    | imported hn hx hq hhome hh =>
      exact .inr ⟨_, _, hn, .inr hx, hq, (exists_home_iff hq.ne_nil).1 ⟨_, hhome, hh⟩⟩
  · rintro (⟨q, n, hq, hn, hx⟩ | ⟨q, n, hn, hx, hq, hopen⟩)
    · exact .around hq hn hx
    · obtain ⟨h, hhome, hh⟩ := (exists_home_iff hq.ne_nil).2 hopen
      rcases hx with ⟨hx, hended⟩ | hx
      · exact .set hn hx hq hended hhome hh
      · exact .imported hn hx hq hhome hh

lemma mem_bindings_step : x ∈ n.bindings ↔ opensScope n = false ∧
    (x ∈ n.importNames ∨ (∃ c ∈ n.children, x ∈ c.bindings) ∨ x ∈ n.setNames) := by
  rw [Node.bindings, Node.fold_eq]
  cases opensScope n with
  | false => simp
  | true => simp

lemma opensScope_of_mem (hx : x ∈ n.setNames ∨ x ∈ n.importNames) : opensScope n = false := by
  cases n with
  | setTag => rfl
  | importTag => rfl
  | _ => rcases hx with hx | hx <;> cases hx

/-- Names are left bound by the sets and imports that stand in no scope further in. -/
lemma mem_bindings : x ∈ n.bindings ↔ ∃ q m, n.at? q = some m ∧
    (x ∈ m.setNames ∨ x ∈ m.importNames) ∧ Clear n q := by
  induction n using Node.induct with
  | step n ih =>
    rw [mem_bindings_step]
    constructor
    · rintro ⟨hn, hx | ⟨c, hc, hx⟩ | hx⟩
      · -- an import binds at the node itself
        exact ⟨[], n, rfl, .inr hx, clear_nil⟩
      · -- a child leaves its names bound where the node opens no scope
        obtain ⟨q, m, hm, hx, hclear⟩ := (ih c hc).1 hx
        obtain ⟨i, hi⟩ := List.mem_iff_getElem?.1 hc
        exact ⟨i :: q, m, (Node.at?_cons hi q).trans hm, hx, (clear_cons hi).2 ⟨hn, hclear⟩⟩
      · -- a set binds when the node is left
        exact ⟨[], n, rfl, .inl hx, clear_nil⟩
    · rintro ⟨q, m, hm, hx, hclear⟩
      cases q with
      | nil =>
        obtain rfl := Option.some.inj hm
        exact ⟨opensScope_of_mem hx, hx.elim (fun hx => .inr (.inr hx)) .inl⟩
      | cons i q =>
        obtain ⟨c, hc, hm⟩ := Node.at?_cons_eq_some.1 hm
        obtain ⟨hn, hclear⟩ := (clear_cons hc).1 hclear
        have hmem := List.mem_of_getElem? hc
        exact ⟨hn, .inr (.inl ⟨c, hmem, (ih c hmem).2 ⟨q, m, hm, hx, hclear⟩⟩)⟩

/-- A name is bound below a child by the node itself, by what the children before it leave bound, or
inside the child. -/
lemma bound_cons (hc : n.children[i]? = some c) : Bound n (i :: p) x ↔
    (x ∈ n.scopeNames ∨ x ∈ n.importNames) ∨ (∃ d ∈ n.children.take i, x ∈ d.bindings) ∨
      Bound c p x := by
  rw [bound_iff, bound_iff, Node.exists_encloses_cons hc, Node.exists_at?_iff]
  constructor
  · rintro ((hx | haround) | (⟨hx, -, -⟩ | ⟨j, d, hd, q, m, hm, hx, hq, hopen⟩))
    · exact .inl (.inl hx)
    · exact .inr (.inr (.inl haround))
    · rcases hx with ⟨-, hended⟩ | hx
      · -- a set on the way is not left yet
        exact absurd encloses_nil_cons hended
      · exact .inl (.inr hx)
    · rcases hq with hlt | ⟨rfl, hq⟩
      · -- a child before this one
        have hclear := (open_cons_of_ne hd (Nat.ne_of_lt hlt)).1 hopen
        have hmem : d ∈ n.children.take i := mem_take_iff_getElem?.2 ⟨j, hlt, hd⟩
        exact .inr (.inl ⟨d, hmem, mem_bindings.2 ⟨q, m, hm, hx.imp_left And.left, hclear⟩⟩)
      · -- the child itself
        rw [hc] at hd
        obtain rfl := Option.some.inj hd
        refine .inr (.inr (.inr ⟨q, m, hm, ?_, hq, (open_cons_self hc).1 hopen⟩))
        exact hx.imp_left fun hx => ⟨hx.1, fun hin => hx.2 (encloses_cons_cons.2 ⟨rfl, hin⟩)⟩
  · rintro ((hx | hx) | ⟨d, hd, hx⟩ | haround | ⟨q, m, hm, hx, hq, hopen⟩)
    · exact .inl (.inl hx)
    · exact .inr (.inl ⟨.inr hx, trivial, fun _ _ hg => absurd hg not_encloses_nil⟩)
    · obtain ⟨j, hlt, hj⟩ := mem_take_iff_getElem?.1 hd
      obtain ⟨q, m, hm, hx, hclear⟩ := mem_bindings.1 hx
      have hne : j ≠ i := Nat.ne_of_lt hlt
      refine .inr (.inr ⟨j, d, hj, q, m, hm, ?_, .inl hlt, (open_cons_of_ne hj hne).2 hclear⟩)
      exact hx.imp_left fun hx => ⟨hx, fun hin => hne (encloses_cons_cons.1 hin).1⟩
    · exact .inl (.inr haround)
    · refine .inr (.inr ⟨i, c, hc, q, m, hm, ?_, .inr ⟨rfl, hq⟩, (open_cons_self hc).2 hopen⟩)
      exact hx.imp_left fun hx => ⟨hx.1, fun hin => hx.2 (encloses_cons_cons.1 hin).2⟩

end Collect.Variables

end TemplateMetrics
