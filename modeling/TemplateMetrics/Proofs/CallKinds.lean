import TemplateMetrics.Proofs.Expressions

/-!
Calls of macros, of functions and of members.

Readers decide what a call is from the names that are in scope when they come to it. A walk over the
finished tree that adds names when it leaves an import or a macro has the same names in scope there
(`Walks`), since the readers pass the names on in document order.
-/

namespace TemplateMetrics.Syntax

/-! ### Names in scope along a walk -/

/-- The names in scope behind a step of a walk. -/
def Scope.after (scope : Scope) : Event → Scope
  | .enter _ => scope
  | .leave n => scope.leave n

/-- A walk leads from one scope to another, and every node that it enters is called as the names say
that are in scope there. -/
inductive Walks : Scope → List Event → Scope → Prop
  | nil (scope : Scope) : Walks scope [] scope
  | enter {scope scope' : Scope} {n : Node} {es : List Event} (hn : n.Called scope)
      (h : Walks scope es scope') : Walks scope (.enter n :: es) scope'
  | leave {scope scope' : Scope} {n : Node} {es : List Event}
      (h : Walks (scope.leave n) es scope') : Walks scope (.leave n :: es) scope'

/-- A walk over several nodes in a row. -/
abbrev WalksAll (scope : Scope) (ns : List Node) (scope' : Scope) : Prop :=
  Walks scope (ns.flatMap Node.events) scope'

variable {scope scope' scope'' : Scope} {n e : Node} {ns ms : List Node}

lemma Walks.append {es es' : List Event} (h : Walks scope es scope')
    (h' : Walks scope' es' scope'') : Walks scope (es ++ es') scope'' := by
  induction h with
  | nil => exact h'
  | enter hn _ ih => exact .enter hn (ih h')
  | leave _ ih => exact .leave (ih h')

lemma walks_node (hn : n.Called scope) (h : WalksAll scope n.children scope') :
    Walks scope n.events (scope'.leave n) := by
  rw [Node.events_eq]
  exact .enter hn (h.append (.leave (.nil _)))

lemma walksAll_nil : WalksAll scope [] scope := .nil scope

lemma walksAll_cons (h : Walks scope n.events scope') (h' : WalksAll scope' ns scope'') :
    WalksAll scope (n :: ns) scope'' := by
  rw [WalksAll, List.flatMap_cons]
  exact h.append h'

lemma walksAll_append (h : WalksAll scope ns scope') (h' : WalksAll scope' ms scope'') :
    WalksAll scope (ns ++ ms) scope'' := by
  rw [WalksAll, List.flatMap_append]
  exact Walks.append h h'

/-- Nodes that leave the scope as it is do so in a row too. -/
lemma walksAll_of_forall (h : ∀ c ∈ ns, Walks scope c.events scope) : WalksAll scope ns scope := by
  induction ns with
  | nil => exact walksAll_nil
  | cons c r ih =>
    obtain ⟨hc, hr⟩ := List.forall_mem_cons.1 h
    exact walksAll_cons hc (ih hr)

/-- An expression leaves the scope as it is. -/
lemma walks_of_built (h : Built scope e) : Walks scope e.events scope := by
  induction e using Node.induct with
  | step e ih =>
    have hchildren : WalksAll scope e.children scope := by
      refine walksAll_of_forall fun c hc => ih c hc fun m hm => h m ?_
      rw [Node.nodes_eq]
      exact List.mem_cons_of_mem _ (List.mem_flatMap.2 ⟨c, hc, hm⟩)
    obtain ⟨hcalled, hleave⟩ := h e e.mem_nodes_self
    have hwalk := walks_node hcalled hchildren
    rwa [hleave] at hwalk

lemma walksAll_of_built (h : ∀ e ∈ ns, Built scope e) : WalksAll scope ns scope :=
  walksAll_of_forall fun e he => walks_of_built (h e he)

lemma walksAll_toList {o : Option Node} (h : ∀ e ∈ o, Built scope e) :
    WalksAll scope o.toList scope :=
  walksAll_of_built fun e he => h e (Option.mem_toList.1 he)

/-- What is entered on the way is called as the names say that the walk has met before. -/
lemma Walks.called {before after : List Event}
    (h : Walks scope (before ++ .enter n :: after) scope') :
    n.Called (before.foldl Scope.after scope) := by
  induction before generalizing scope with
  | nil =>
    obtain _ | ⟨hn, -⟩ := h
    exact hn
  | cons step before ih =>
    cases h with
    | enter _ h => exact ih h
    | leave h => exact ih h

/-! ### Readers of tags -/

/-- What can be read inside a tag is called as the names in scope say. -/
structure Context.Scoped (ctx : Context) : Prop where
  inner : ∀ scope, (ctx.inner scope).Sound scope
  tag : ∀ name scope ts, Gives (ctx.tag name scope ts) fun r => Walks scope r.1.events r.2.1
  branch : ∀ scope ts, Gives (ctx.branch scope ts) fun r => Walks scope r.1.events r.2.1

lemma built_filterChain {inner : Inner} (h : inner.Sound scope) {chain : Node}
    (hchain : Built scope chain) (ts : Tokens) :
    Gives (filterChain inner chain ts) fun r => Built scope r.1 := by
  refine loop_induct (filterRound inner)
    (motive := fun chain _ x => Built scope chain → Gives x fun r => Built scope r.1)
    (fun _ _ _ => gives_error _) ?_ chain ts hchain
  intro next hnext chain ts hchain
  unfold filterRound
  split
  · refine gives_bind (h.filterSegment (by simpa using hchain) _) ?_
    rintro ⟨longer, r⟩ ⟨hlonger, -⟩
    exact hnext longer r hlonger
  · exact gives_ok hchain

lemma built_leadingFilters {inner : Inner} (h : inner.Sound scope) (tag : String) (ts : Tokens) :
    Gives (leadingFilters inner tag ts) fun r => ∀ e ∈ r.1, Built scope e := by
  unfold leadingFilters
  split
  · refine gives_bind (h.filterSegment (by simp) ts) ?_
    rintro ⟨first, r⟩ ⟨hfirst, -⟩
    refine gives_bind (built_filterChain h hfirst r) ?_
    rintro ⟨chain, r⟩ hchain
    exact gives_pure (by simpa using hchain)
  · exact gives_ok (by simp)

namespace Context.Scoped

variable {ctx : Context}

lemma expr (h : ctx.Scoped) (scope : Scope) (ts : Tokens) :
    Gives (ctx.expr scope ts) fun r => Built scope r.1 :=
  ((h.inner scope).expr true ts).mono fun _ ha => ha.1

lemma item (h : ctx.Scoped) {ends : List String} {scope scope' : Scope} {ts r : Tokens} {n : Node}
    (hitem : ItemRead ctx ends scope ts (.node n) scope' r) : Walks scope n.events scope' := by
  cases hitem with
  | text => exact walks_node trivial walksAll_nil
  | output _ he =>
    exact walks_node trivial (walksAll_cons (walks_of_built (h.expr scope _ _ he)) walksAll_nil)
  | tag _ _ hnode => exact h.tag _ scope _ _ hnode

lemma readBody (h : ctx.Scoped) (ends : List String) (scope : Scope) (ts : Tokens) :
    Gives (readBody ctx ends scope ts) fun r => WalksAll scope r.1.1 r.2.1 := by
  refine (gives_readBody scope ts).mono ?_
  rintro ⟨⟨body, tag⟩, scope', r⟩ hbody
  dsimp only at hbody ⊢
  induction hbody with
  | ending hitem =>
    -- what ends a body leaves the names as they are
    cases hitem <;> exact walksAll_nil
  | node hitem _ ih => exact walksAll_cons (h.item hitem) ih

lemma closedBody (h : ctx.Scoped) (endTag : String) (mayRepeat : Bool) (scope : Scope)
    (ts : Tokens) :
    Gives (closedBody ctx endTag mayRepeat scope ts) fun r => WalksAll scope r.1 r.2.1 := by
  unfold Syntax.closedBody
  refine gives_bind (h.readBody [endTag] scope ts) ?_
  rintro ⟨⟨body, tag⟩, scope', r⟩ hbody
  exact gives_step fun r => gives_pure hbody

lemma readIf (h : ctx.Scoped) (scope : Scope) (ts : Tokens) :
    Gives (readIf ctx scope ts) fun r => Walks scope r.1.events r.2.1 := by
  unfold Syntax.readIf
  refine gives_bind (h.expr scope ts) ?_
  rintro ⟨test, r⟩ htest
  refine gives_step fun r => gives_bind (h.readBody _ scope r) ?_
  rintro ⟨⟨body, tag⟩, scope', r⟩ hbody
  -- names that the body brings into scope are known in the branch after it
  have hwalk : ∀ {orElse scope''}, WalksAll scope' orElse scope'' →
      Walks scope (Node.ifTag test body orElse).events scope'' := fun horElse =>
    walks_node trivial (walksAll_cons (walks_of_built htest) (walksAll_append hbody horElse))
  dsimp only
  split
  · refine gives_bind (h.branch scope' r) ?_
    rintro ⟨next, scope'', r⟩ hnext
    exact gives_pure (hwalk (walksAll_cons hnext walksAll_nil))
  · split
    · refine gives_step fun r => gives_bind (h.closedBody _ _ scope' r) ?_
      rintro ⟨orElse, scope'', r⟩ horElse
      exact gives_pure (hwalk horElse)
    · exact gives_step fun r => gives_pure (hwalk walksAll_nil)

lemma readFor (h : ctx.Scoped) (scope : Scope) (ts : Tokens) :
    Gives (readFor ctx scope ts) fun r => Walks scope r.1.events r.2.1 := by
  unfold Syntax.readFor
  refine gives_step ?_
  rintro ⟨targets, r⟩
  dsimp only
  split
  · refine gives_bind ((h.inner scope).expr false _) ?_
    rintro ⟨iter, r⟩ ⟨hiter, -⟩
    dsimp only
    refine gives_bind (gives_loopCondition (h.expr scope) r) ?_
    rintro ⟨condition, r⟩ hcondition
    refine gives_step fun r => gives_bind (h.readBody _ scope r) ?_
    rintro ⟨⟨body, tag⟩, scope', r⟩ hbody
    have hwalk : ∀ {orElse scope''}, WalksAll scope' orElse scope'' →
        Walks scope (Node.forTag targets iter condition body orElse).events scope'' := by
      intro orElse scope'' horElse
      refine walks_node trivial (walksAll_cons (walks_of_built hiter) ?_)
      exact walksAll_append (walksAll_append (walksAll_toList hcondition) hbody) horElse
    dsimp only
    split
    · refine gives_step fun r => gives_bind (h.closedBody _ _ scope' r) ?_
      rintro ⟨orElse, scope'', r⟩ horElse
      exact gives_pure (hwalk horElse)
    · exact gives_step fun r => gives_pure (hwalk walksAll_nil)
  · exact gives_failAt _ _

lemma readBlock (h : ctx.Scoped) (scope : Scope) (ts : Tokens) :
    Gives (readBlock ctx scope ts) fun r => Walks scope r.1.events r.2.1 := by
  unfold Syntax.readBlock
  refine gives_step ?_
  rintro ⟨name, r⟩
  dsimp only
  split
  · refine gives_bind (h.closedBody _ _ scope _) ?_
    rintro ⟨body, scope', r⟩ hbody
    exact gives_pure (walks_node trivial hbody)
  · refine gives_bind (h.expr scope _) ?_
    rintro ⟨e, r⟩ he
    have hout : Walks scope (Node.output e).events scope :=
      walks_node trivial (walksAll_cons (walks_of_built he) walksAll_nil)
    exact gives_step fun r => gives_pure (walks_node trivial (walksAll_cons hout walksAll_nil))

/-- The name of a macro comes into scope where the macro is left. -/
lemma readMacro (h : ctx.Scoped) (scope : Scope) (ts : Tokens) :
    Gives (readMacro ctx scope ts) fun r => Walks scope r.1.events r.2.1 := by
  unfold Syntax.readMacro
  refine gives_step ?_
  rintro ⟨name, r⟩
  refine gives_bind (gives_parameters (h.expr scope) r) ?_
  rintro ⟨params, r⟩ hparams
  refine gives_step fun r => gives_bind (h.closedBody _ _ scope r) ?_
  rintro ⟨body, scope', r⟩ hbody
  have hdefaults : WalksAll scope (params.filterMap (·.2)) scope := by
    refine walksAll_of_built fun e he => ?_
    obtain ⟨p, hp, hpe⟩ := List.mem_filterMap.1 he
    exact hparams p hp e hpe
  exact gives_pure (walks_node trivial (walksAll_append hdefaults hbody))

lemma readSet (h : ctx.Scoped) (scope : Scope) (ts : Tokens) :
    Gives (readSet ctx scope ts) fun r => Walks scope r.1.events r.2.1 := by
  unfold Syntax.readSet
  refine gives_step ?_
  rintro ⟨targets, r⟩
  dsimp only
  split
  · refine gives_bind (gives_commaList (h.expr scope) _) ?_
    rintro ⟨values, r⟩ hvalues
    refine gives_step fun r => gives_pure (walks_node trivial ?_)
    -- one value stands for itself, several stand in a list
    refine walksAll_append (walksAll_cons (walks_of_built ?_) walksAll_nil) walksAll_nil
    split
    · rename_i v hv
      exact hvalues v (hv ▸ List.mem_cons_self)
    · exact built_of_children trivial rfl hvalues
  · refine gives_step fun r => gives_bind (h.closedBody _ _ scope r) ?_
    rintro ⟨body, scope', r⟩ hbody
    exact gives_pure (walks_node trivial hbody)

lemma readInclude (h : ctx.Scoped) (scope : Scope) (ts : Tokens) :
    Gives (readInclude ctx scope ts) fun r => Walks scope r.1.events r.2.1 := by
  unfold Syntax.readInclude
  refine gives_bind (gives_includeHead (h.expr scope) ts) ?_
  rintro ⟨⟨target, passed, options⟩, r⟩ ⟨htarget, hpassed⟩
  refine gives_pure (walks_node trivial ?_)
  exact walksAll_cons (walks_of_built htarget) (walksAll_toList hpassed)

lemma readEmbed (h : ctx.Scoped) (scope : Scope) (ts : Tokens) :
    Gives (readEmbed ctx scope ts) fun r => Walks scope r.1.events r.2.1 := by
  unfold Syntax.readEmbed
  refine gives_bind (gives_includeHead (h.expr scope) ts) ?_
  rintro ⟨⟨target, passed, options⟩, r⟩ ⟨htarget, hpassed⟩
  refine gives_bind (h.closedBody _ _ scope r) ?_
  rintro ⟨body, scope', r⟩ hbody
  refine gives_pure (walks_node trivial (walksAll_cons (walks_of_built htarget) ?_))
  exact walksAll_append (walksAll_toList hpassed) hbody

/-- A tag of one expression. -/
lemma walks_of_target {target : Node} (hn : n.Called scope) (hchildren : n.children = [target])
    (htarget : Built scope target) : Walks scope n.events (scope.leave n) := by
  refine walks_node hn ?_
  rw [hchildren]
  exact walksAll_cons (walks_of_built htarget) walksAll_nil

lemma readExtends (h : ctx.Scoped) (scope : Scope) (ts : Tokens) :
    Gives (readExtends ctx scope ts) fun r => Walks scope r.1.events r.2.1 := by
  unfold Syntax.readExtends
  refine gives_bind (h.expr scope ts) ?_
  rintro ⟨target, r⟩ htarget
  exact gives_step fun r => gives_pure (walks_of_target trivial rfl htarget)

/-- The local name of an import comes into scope where the import is left. -/
lemma readImport (h : ctx.Scoped) (scope : Scope) (ts : Tokens) :
    Gives (readImport ctx scope ts) fun r => Walks scope r.1.events r.2.1 := by
  unfold Syntax.readImport
  refine gives_bind (h.expr scope ts) ?_
  rintro ⟨target, r⟩ htarget
  dsimp only
  split
  · refine gives_step ?_
    rintro ⟨localName, r⟩
    exact gives_step fun r => gives_pure (walks_of_target trivial rfl htarget)
  · exact gives_failAt _ _

lemma readFrom (h : ctx.Scoped) (scope : Scope) (ts : Tokens) :
    Gives (readFrom ctx scope ts) fun r => Walks scope r.1.events r.2.1 := by
  unfold Syntax.readFrom
  refine gives_bind (h.expr scope ts) ?_
  rintro ⟨target, r⟩ htarget
  dsimp only
  split
  · refine gives_step ?_
    rintro ⟨names, r⟩
    exact gives_step fun r => gives_pure (walks_of_target trivial rfl htarget)
  · exact gives_failAt _ _

lemma readContainer (h : ctx.Scoped) (tag : String) (scope : Scope) (ts : Tokens) :
    Gives (readContainer ctx tag scope ts) fun r => Walks scope r.1.events r.2.1 := by
  unfold Syntax.readContainer
  refine gives_bind (built_leadingFilters (h.inner scope) tag ts) ?_
  rintro ⟨filters, r⟩ hfilters
  refine gives_bind (gives_tagArgs (h.expr scope) r) ?_
  rintro ⟨args, r⟩ hargs
  -- filters and arguments bring no names into scope
  have hhead : WalksAll scope (filters.toList ++ args) scope :=
    walksAll_append (walksAll_toList hfilters) (walksAll_of_built hargs)
  refine gives_step fun r => ?_
  dsimp only
  split
  · refine gives_bind (h.closedBody _ _ scope r) ?_
    rintro ⟨body, scope', r⟩ hbody
    exact gives_pure (walks_node trivial (walksAll_append hhead hbody))
  · exact gives_pure (walks_node trivial (walksAll_append hhead walksAll_nil))

lemma readTag (h : ctx.Scoped) (name : String) (scope : Scope) (ts : Tokens) :
    Gives (readTag ctx name scope ts) fun r => Walks scope r.1.events r.2.1 := by
  unfold Syntax.readTag
  split
  · exact h.readIf scope ts
  · exact h.readFor scope ts
  · exact h.readBlock scope ts
  · exact h.readMacro scope ts
  · exact h.readSet scope ts
  · exact h.readInclude scope ts
  · exact h.readEmbed scope ts
  · exact h.readExtends scope ts
  · exact h.readImport scope ts
  · exact h.readFrom scope ts
  · exact h.readContainer _ scope ts

end Context.Scoped

/-- With so much nesting left, everything that is read is called as the names in scope say. -/
lemma scoped_context (room : Nat) : (context room).Scoped := by
  induction room with
  | zero =>
    exact ⟨fun scope => sound_level scope 0, fun _ _ _ => gives_failAt _ _,
      fun _ _ => gives_failAt _ _⟩
  | succ room ih =>
    exact ⟨fun scope => sound_level scope (room + 1), ih.readTag, ih.readIf⟩

/-- The walk over a template starts with the names with which its readers start. -/
lemma walks_parse {source : String} {root : Node} (h : parse source = .ok root) :
    ∃ scope, Walks Scope.start root.events scope := by
  have hgives : Gives (parse source) fun root => ∃ scope, Walks Scope.start root.events scope := by
    unfold parse
    refine gives_step fun ts => ?_
    unfold readTemplate
    refine gives_bind ((scoped_context maxNesting).readBody [] Scope.start ts) ?_
    rintro ⟨⟨body, tag⟩, scope, r⟩ hbody
    exact gives_pure ⟨scope, walks_node trivial hbody⟩
  exact hgives root h

/-- **Calls are what the names before them say.** Walking over the tree of a template, with `_self`
as the only name whose members are macros and no name a macro at first, names come into scope where
an import or a macro is left. A call under a name is one of a macro if the members of that name are
macros, and a call without one if it calls a name that is a macro; all other calls are of functions
and of members. -/
theorem calls_follow_scope {source : String} {root : Node} (h : parse source = .ok root)
    {before after : List Event} {n : Node} (hn : root.events = before ++ .enter n :: after) :
    let known := before.foldl Scope.after ⟨NameSet.ofNames ["_self"], NameMap.empty⟩
    (∀ space name args, n = .macroCall (some space) name args →
      known.spaces.contains space = true) ∧
    (∀ name args, n = .macroCall none name args → known.macros.contains name = true) ∧
    (∀ name args, n = .functionCall name args → known.macros.contains name = false) ∧
    (∀ space name args, n = .member (.nameRef space) name (some args) →
      known.spaces.contains space = false) := by
  intro known
  obtain ⟨scope, hwalk⟩ := walks_parse h
  rw [hn] at hwalk
  -- the prefix of a walk ends in the scope in which the node is entered
  have hcalled : n.Called known := hwalk.called
  refine ⟨?_, ?_, ?_, ?_⟩
  · rintro space name args rfl
    exact hcalled
  · rintro name args rfl
    exact hcalled
  · rintro name args rfl
    exact hcalled
  · rintro space name args rfl
    exact hcalled

/-- A macro that is called within itself, where it is a function, and behind itself. -/
def ownMacro : String :=
  "\x7b% macro m() %\x7d\x7b\x7b m() \x7d\x7d\x7b% endmacro %\x7d\x7b\x7b m(_self.m()) \x7d\x7d"

def ownMacroCall : Node := .macroCall none "m" [.macroCall (some "_self") "m" []]

def ownMacroTree : Node :=
  .template [.macroTag "m" [] [] [.output (.functionCall "m" [])], .output ownMacroCall]

set_option maxRecDepth 2000 in
lemma parse_ownMacro : parse ownMacro = .ok ownMacroTree := by with_unfolding_all rfl

theorem calls_follow_scope_ownMacro :
    parse ownMacro = .ok ownMacroTree ∧
    ∃ before after, ownMacroTree.events = before ++ .enter ownMacroCall :: after ∧
      (before.foldl Scope.after ⟨NameSet.ofNames ["_self"], NameMap.empty⟩).macros.contains "m" =
        true := by
  have hn : ownMacroTree.events =
      ownMacroTree.events.take 8 ++ .enter ownMacroCall :: ownMacroTree.events.drop 9 := rfl
  exact ⟨parse_ownMacro, _, _, hn, (calls_follow_scope parse_ownMacro hn).2.1 "m" _ rfl⟩

end TemplateMetrics.Syntax
