import TemplateMetrics.Proofs.Loops

/-!
Where the readers of tags go on and where they fail.

Every reader of a tag leaves the end of the tokens it was given and fails at one of them
(`fair_context`). A body that is read ends behind a tag that may end it, or behind the end of the
template (`EndsBody`). What bodies keep follows from what can come next in one (`ItemRead`).
-/

namespace TemplateMetrics.Syntax

variable {α β : Type}

/-! ### Readers of tags -/

/-- A reader of tags stays within the tokens it is given. -/
abbrev ScopedReader.Stays (reader : ScopedReader α) : Prop :=
  ∀ scope ts, Syntax.Stays false ts (reader scope ts) fun r => r.2.2

/-- What can be read inside a tag stays within its tokens. -/
structure Context.Fair (ctx : Context) : Prop where
  inner : ∀ scope, (ctx.inner scope).Fair
  tag : ∀ name, ScopedReader.Stays (ctx.tag name)
  branch : ScopedReader.Stays ctx.branch

variable {ts r : Tokens}

lemma stays_expectTagEnd (ts : Tokens) : Stays false ts (expectTagEnd ts) id := by
  unfold expectTagEnd
  split
  · rename_i hend
    exact stays_ok (leaves_tail (by rw [hend]; rintro ⟨⟩))
  · exact stays_failAt (by rintro ⟨⟩) rfl

lemma leaves_skipName (s : String) (ts : Tokens) : Leaves ts (skipName s ts) := by
  unfold skipName
  cases h : eatName? s ts with
  | none => exact .refl ts
  | some r => exact (takes_eatName? h).leaves

lemma leaves_skipAnyName (ts : Tokens) : Leaves ts (skipAnyName ts) := by
  unfold skipAnyName
  split
  · exact leaves_token rfl (by rintro ⟨⟩)
  · exact .refl ts

lemma leaves_skipBlockMarks (ts : Tokens) : Leaves ts (skipBlockMarks ts) := by
  fun_induction skipBlockMarks ts with
  | case1 _ _ ih => exact .cons (by rintro ⟨⟩) ih
  | case2 _ _ ih => exact .cons (by rintro ⟨⟩) ih
  | case3 ts => exact .refl ts

lemma leaves_skipContextClause (ts : Tokens) : Leaves ts (skipContextClause ts) := by
  unfold skipContextClause
  split
  · rename_i r _ hwith
    exact (takes_eatName? hwith).leaves.trans (leaves_skipName _ _)
  · rename_i r hwithout
    exact (takes_eatName? hwithout).leaves.trans (leaves_skipName _ _)
  · exact .refl ts

lemma stays_commaList {item : Reader α} (hitem : Reader.Stays false item) :
    Reader.Stays false (commaList item) := by
  refine loop_induct (commaRound item) (motive := fun _ ts x => Stays false ts x Prod.snd)
    (fun _ _ => stays_stop) ?_ ()
  intro next hnext _ ts
  unfold commaRound
  refine stays_bind (hitem ts) ?_
  rintro ⟨x, r⟩ -
  dsimp only
  split
  · rename_i r' hcomma
    refine stays_bind ((hnext () r').of_leaves (takes_eatPunct? hcomma).leaves) ?_
    rintro ⟨xs, r''⟩ -
    exact stays_pure (.refl r'')
  · exact stays_pure (.refl r)

lemma stays_importedName : Reader.Stays false importedName := by
  intro ts
  unfold importedName
  refine stays_bind (stays_expectName ts) ?_
  rintro ⟨name, r⟩ -
  dsimp only
  split
  · rename_i r' has
    refine stays_bind ((stays_expectName r').of_leaves (takes_eatName? has).leaves) ?_
    rintro ⟨localName, r''⟩ -
    exact stays_pure (.refl r'')
  · exact stays_pure (.refl r)

lemma stays_loopCondition {expr : Reader Node} (h : Reader.Stays false expr) :
    Reader.Stays false (loopCondition expr) := by
  intro ts
  unfold loopCondition
  split
  · rename_i r hif
    refine stays_bind ((h r).of_leaves (takes_eatName? hif).leaves) ?_
    rintro ⟨e, r'⟩ -
    exact stays_pure (.refl r')
  · exact stays_ok (.refl ts)

lemma stays_tagArgs {expr : Reader Node} (h : Reader.Stays false expr) :
    Reader.Stays false (tagArgs expr) := by
  refine loop_induct (tagArgsRound expr) (motive := fun _ ts x => Stays false ts x Prod.snd)
    (fun _ _ => stays_stop) ?_ ()
  intro next hnext _ ts
  unfold tagArgsRound
  split
  · exact stays_ok (.refl ts)
  · exact stays_ok (.refl ts)
  · rename_i hcomma
    exact (hnext () ts.tail).of_leaves (leaves_tail (by rw [hcomma]; rintro ⟨⟩))
  · rename_i honly
    exact (hnext () ts.tail).of_leaves (leaves_tail (by rw [honly]; rintro ⟨⟩))
  · refine stays_bind (h ts) ?_
    rintro ⟨arg, r⟩ -
    refine stays_bind (hnext () r) ?_
    rintro ⟨args, r'⟩ -
    exact stays_pure (.refl r')

lemma stays_filterChain {inner : Inner} (h : inner.Fair) (chain : Node) :
    Reader.Stays true (filterChain inner chain) := by
  refine loop_induct (filterRound inner) (motive := fun _ ts x => Stays true ts x Prod.snd)
    (fun _ _ => stays_stop) ?_ chain
  intro next hnext chain ts
  unfold filterRound
  split
  · rename_i r hpipe
    have hsegment := h.filterSegment (some chain) r
    refine stays_bind (hsegment.of_leaves (takes_eatPunct? hpipe).leaves) ?_
    rintro ⟨longer, r'⟩ -
    exact hnext longer r'
  · exact stays_ok (.refl ts)

lemma stays_leadingFilters {inner : Inner} (h : inner.Fair) (tag : String) :
    Reader.Stays true (leadingFilters inner tag) := by
  intro ts
  unfold leadingFilters
  split
  · refine stays_bind (h.filterSegment none ts) ?_
    rintro ⟨first, r⟩ -
    refine stays_bind (stays_filterChain h first r) ?_
    rintro ⟨chain, r'⟩ -
    exact stays_pure (.refl r')
  · exact stays_ok (.refl ts)

/-- Where a body ends: behind the name of a tag that ends it, or, if there is no such tag, behind
the end of the template. -/
inductive EndsBody (ends : List String) (ts : Tokens) : String → Tokens → Prop
  | template {t : Located} {r : Tokens} (hends : ends = []) (ht : t.token = .eof)
      (h : Leaves ts (t :: r)) : EndsBody ends ts "" r
  | tag {name : String} {r : Tokens} (hname : name ∈ ends) (h : Leaves ts r) :
      EndsBody ends ts name r

lemma EndsBody.of_leaves {ends : List String} {name : String} {rest : Tokens}
    (h : EndsBody ends r name rest) (hr : Leaves ts r) : EndsBody ends ts name rest := by
  cases h with
  | template hends ht h => exact .template hends ht (hr.trans h)
  | tag hname h => exact .tag hname (hr.trans h)

namespace Context.Fair

variable {ctx : Context}

lemma expr (h : ctx.Fair) (scope : Scope) : Reader.Stays false (ctx.expr scope) :=
  fun ts => ((h.inner scope).expr true ts).of_true

lemma parameter (h : ctx.Fair) (scope : Scope) : Reader.Stays false (parameter ctx scope) := by
  intro ts
  unfold Syntax.parameter
  refine stays_bind (stays_expectName ts) ?_
  rintro ⟨name, r⟩ -
  dsimp only
  split
  · rename_i r' hassign
    refine stays_bind ((h.expr scope r').of_leaves (takes_eatPunct? hassign).leaves) ?_
    rintro ⟨e, r''⟩ -
    exact stays_pure (.refl r'')
  · exact stays_pure (.refl r)

lemma parameters (h : ctx.Fair) (scope : Scope) : Reader.Stays false (parameters ctx scope) := by
  intro ts
  unfold Syntax.parameters
  refine stays_bind (stays_expectPunct (by simp)) fun r _ => ?_
  dsimp only
  split
  · rename_i r' hclose
    exact stays_pure (takes_eatPunct? hclose).leaves
  · refine stays_bind (stays_commaList (h.parameter scope) r) ?_
    rintro ⟨params, r'⟩ -
    refine stays_bind (stays_expectPunct (by simp)) fun r'' _ => ?_
    exact stays_pure (.refl r'')

lemma includeClauses (h : ctx.Fair) (scope : Scope) (clauses : Clauses) :
    Reader.Stays false (includeClauses ctx scope clauses) := by
  refine loop_induct (clauseRound ctx scope) (motive := fun _ ts x => Stays false ts x Prod.snd)
    (fun _ _ => stays_stop) ?_ clauses
  rintro next hnext ⟨passed, options⟩ ts
  unfold clauseRound
  dsimp only
  split
  · -- `ignore missing`
    rename_i hignore
    refine Stays.of_leaves ?_ (takes_eatName? hignore).leaves
    split
    · rename_i r' hmissing
      exact (hnext _ r').of_leaves (takes_eatName? hmissing).leaves
    · exact stays_failAt (by rintro ⟨⟩) rfl
  · rename_i hwith
    refine Stays.of_leaves ?_ (takes_eatName? hwith).leaves
    split
    · rename_i r' hcontext
      exact (hnext _ r').of_leaves (takes_eatName? hcontext).leaves
    · -- `with` and a value
      refine stays_bind (h.expr scope _) ?_
      rintro ⟨e, r'⟩ -
      exact hnext _ r'
  · rename_i hwithout
    refine Stays.of_leaves ?_ (takes_eatName? hwithout).leaves
    exact (hnext _ _).of_leaves (leaves_skipName _ _)
  · rename_i honly
    exact (hnext _ _).of_leaves (takes_eatName? honly).leaves
  · exact stays_ok (.refl ts)

lemma includeHead (h : ctx.Fair) (scope : Scope) : Reader.Stays false (includeHead ctx scope) := by
  intro ts
  unfold Syntax.includeHead
  refine stays_bind (h.expr scope ts) ?_
  rintro ⟨target, r⟩ -
  refine stays_bind (h.includeClauses scope _ r) ?_
  rintro ⟨⟨passed, options⟩, r'⟩ -
  refine stays_bind (stays_expectTagEnd r') fun r'' _ => ?_
  exact stays_pure (.refl r'')

/-- A node of a body takes a token, and leaves an end of those behind it. -/
lemma leaves_item (h : ctx.Fair) {ends : List String} {scope scope' : Scope} {n : Node}
    (hitem : ItemRead ctx ends scope ts (.node n) scope' r) :
    ∃ t rest, ts = t :: rest ∧ t.token ≠ .eof ∧ Leaves rest r := by
  cases hitem with
  | text ht => exact ⟨_, _, rfl, by rw [ht]; rintro ⟨⟩, .refl _⟩
  | output ht he hend =>
    refine ⟨_, _, rfl, by rw [ht]; rintro ⟨⟩, ((h.expr scope _).ok _ he).trans ?_⟩
    exact leaves_tail (by rw [hend]; rintro ⟨⟩)
  | tag ht hname hnode =>
    refine ⟨_, _, rfl, by rw [ht]; rintro ⟨⟩, (takes_expectName _ _ hname).leaves.trans ?_⟩
    exact (h.tag _ scope _).ok _ hnode

lemma endsBody_item {ends : List String} {scope scope' : Scope} {tag : String}
    (hitem : ItemRead ctx ends scope ts (.ending tag) scope' r) : EndsBody ends ts tag r := by
  cases hitem with
  | template ht hends => exact .template hends ht (.refl _)
  | ending ht hname hends =>
    exact .tag hends (.cons (by rw [ht]; rintro ⟨⟩) (takes_expectName _ _ hname).leaves)

lemma endsBody (h : ctx.Fair) {ends : List String} {scope scope' : Scope} {body : List Node}
    {tag : String} (hbody : BodyRead ctx ends scope ts body tag scope' r) :
    EndsBody ends ts tag r := by
  induction hbody with
  | ending hitem => exact endsBody_item hitem
  | node hitem _ ih =>
    obtain ⟨t, rest, rfl, ht, hr⟩ := h.leaves_item hitem
    exact ih.of_leaves (.cons ht hr)

lemma fails_bodyItem (h : ctx.Fair) (ends : List String) (scope : Scope) (ts : Tokens) :
    Fails (bodyItem ctx ends scope ts) (Syntax.Fair false ts) := by
  cases ts with
  | nil => exact fails_error (fair_nil (by rintro ⟨⟩))
  | cons t r =>
    have hline : t.line ∈ 1 :: (t :: r).map Located.line :=
      List.mem_cons_of_mem _ List.mem_cons_self
    rw [bodyItem]
    split
    · rename_i ht
      split
      · exact fails_ok _
      · -- the template ends before the tag that should end the body
        exact fails_error (fair_found hline (by rintro ⟨⟩) (fun _ => ht) fun _ => rfl)
    · exact fails_ok _
    · rename_i ht
      have hstart : t.token ≠ .eof := by rw [ht]; rintro ⟨⟩
      refine fails_bind ((h.expr scope r).of_leaves (.cons hstart (.refl r))).error ?_
      rintro ⟨e, r'⟩ -
      dsimp only
      split
      · exact fails_ok _
      · exact fails_error (fair_error hline (by rintro ⟨⟩) rfl)
    · rename_i ht
      have hstart : t.token ≠ .eof := by rw [ht]; rintro ⟨⟩
      refine fails_bind ((stays_expectName r).of_leaves (.cons hstart (.refl r))).error ?_
      rintro ⟨name, r'⟩ hname
      have hr' : Leaves r r' := (takes_expectName r _ hname).leaves
      dsimp only
      split
      · exact fails_ok _
      · split
        · -- a tag that ends or divides some other body
          exact fails_error (fair_error hline (by rintro ⟨⟩) rfl)
        · have htag := (h.tag name scope r').of_leaves (.cons hstart hr')
          exact fails_bind htag.error fun _ _ => fails_ok _
    · exact fails_error (fair_found hline (by rintro ⟨⟩) of_decide_eq_true fun _ => rfl)

/-- A body fails at one of its tokens; if it is not ended, that is the end of the template. -/
lemma fails_readBody (h : ctx.Fair) (ends : List String) (scope : Scope) (ts : Tokens) :
    Fails (Syntax.readBody ctx ends scope ts) (Syntax.Fair false ts) := by
  refine loop_induct (bodyRound ctx ends) (motive := fun _ ts x => Fails x (Syntax.Fair false ts))
    (fun _ _ => fails_error (fair_error List.mem_cons_self (by rintro ⟨⟩) rfl)) ?_ scope ts
  intro next hnext scope ts
  refine fails_bind (h.fails_bodyItem ends scope ts) ?_
  rintro ⟨item, scope', r⟩ hitem
  cases item with
  | ending tag => exact fails_ok _
  | node n =>
    obtain ⟨t, rest, rfl, ht, hr⟩ := h.leaves_item (gives_bodyItem scope ts _ hitem)
    exact fails_bind ((hnext scope' r).mono fun _ he => he.of_leaves (.cons ht hr))
      fun _ _ => fails_ok _

/-- A body that a tag ends leaves what is behind the name of that tag. -/
lemma readBody (h : ctx.Fair) {ends : List String} (hends : ends ≠ []) :
    ScopedReader.Stays (readBody ctx ends) := by
  intro scope ts
  refine ⟨?_, h.fails_readBody ends scope ts⟩
  rintro ⟨⟨body, tag⟩, scope', r⟩ hbody
  obtain ⟨hnone, -, -⟩ | ⟨-, hr⟩ := h.endsBody (gives_readBody scope ts _ hbody)
  · exact absurd hnone hends
  · exact hr

lemma closedBody (h : ctx.Fair) (endTag : String) (mayRepeat : Bool) :
    ScopedReader.Stays (closedBody ctx endTag mayRepeat) := by
  intro scope ts
  unfold Syntax.closedBody
  refine stays_bind (h.readBody (List.cons_ne_nil endTag []) scope ts) ?_
  rintro ⟨⟨body, tag⟩, scope', r⟩ -
  have hr : Leaves r (if mayRepeat then skipAnyName r else r) := by
    split
    · exact leaves_skipAnyName r
    · exact .refl r
  refine stays_bind ((stays_expectTagEnd _).of_leaves hr) fun r' _ => ?_
  exact stays_pure (.refl r')

lemma readIf (h : ctx.Fair) : ScopedReader.Stays (readIf ctx) := by
  intro scope ts
  unfold Syntax.readIf
  refine stays_bind (h.expr scope ts) ?_
  rintro ⟨test, r⟩ -
  refine stays_bind (stays_expectTagEnd r) fun r _ => ?_
  refine stays_bind (h.readBody (List.cons_ne_nil _ _) scope r) ?_
  rintro ⟨⟨body, tag⟩, scope', r⟩ -
  dsimp only
  split
  · refine stays_bind (h.branch scope' r) ?_
    rintro ⟨next, scope'', r⟩ -
    exact stays_pure (.refl r)
  · split
    · refine stays_bind (stays_expectTagEnd r) fun r _ => stays_bind (h.closedBody _ _ scope' r) ?_
      rintro ⟨orElse, scope'', r⟩ -
      exact stays_pure (.refl r)
    · refine stays_bind (stays_expectTagEnd r) fun r _ => ?_
      exact stays_pure (.refl r)

lemma readFor (h : ctx.Fair) : ScopedReader.Stays (readFor ctx) := by
  intro scope ts
  unfold Syntax.readFor
  refine stays_bind (stays_commaList stays_expectName ts) ?_
  rintro ⟨targets, r⟩ -
  dsimp only
  split
  · rename_i r' hin
    refine stays_bind (((h.inner scope).expr false r').of_leaves (takes_eatName? hin).leaves) ?_
    rintro ⟨iter, r⟩ -
    refine stays_bind (stays_loopCondition (h.expr scope) r) ?_
    rintro ⟨condition, r⟩ -
    refine stays_bind ((stays_expectTagEnd _).of_leaves (leaves_skipName _ r)) fun r _ => ?_
    refine stays_bind (h.readBody (List.cons_ne_nil _ _) scope r) ?_
    rintro ⟨⟨body, tag⟩, scope', r⟩ -
    dsimp only
    split
    · refine stays_bind (stays_expectTagEnd r) fun r _ => stays_bind (h.closedBody _ _ scope' r) ?_
      rintro ⟨orElse, scope'', r⟩ -
      exact stays_pure (.refl r)
    · refine stays_bind (stays_expectTagEnd r) fun r _ => ?_
      exact stays_pure (.refl r)
  · exact stays_failAt (by rintro ⟨⟩) rfl

lemma readBlock (h : ctx.Fair) : ScopedReader.Stays (readBlock ctx) := by
  intro scope ts
  unfold Syntax.readBlock
  refine stays_bind (stays_expectName ts) ?_
  rintro ⟨name, r⟩ -
  refine Stays.of_leaves ?_ (leaves_skipBlockMarks r)
  dsimp only
  split
  · rename_i hend
    refine Stays.of_leaves (stays_bind (h.closedBody _ _ scope _) ?_)
      (leaves_tail (by rw [hend]; rintro ⟨⟩))
    rintro ⟨body, scope', r⟩ -
    exact stays_pure (.refl r)
  · refine stays_bind (h.expr scope _) ?_
    rintro ⟨e, r⟩ -
    refine stays_bind (stays_expectTagEnd r) fun r _ => ?_
    exact stays_pure (.refl r)

lemma readMacro (h : ctx.Fair) : ScopedReader.Stays (readMacro ctx) := by
  intro scope ts
  unfold Syntax.readMacro
  refine stays_bind (stays_expectName ts) ?_
  rintro ⟨name, r⟩ -
  refine stays_bind (h.parameters scope r) ?_
  rintro ⟨params, r⟩ -
  refine stays_bind (stays_expectTagEnd r) fun r _ => stays_bind (h.closedBody _ _ scope r) ?_
  rintro ⟨body, scope', r⟩ -
  exact stays_pure (.refl r)

lemma readSet (h : ctx.Fair) : ScopedReader.Stays (readSet ctx) := by
  intro scope ts
  unfold Syntax.readSet
  refine stays_bind (stays_commaList stays_expectName ts) ?_
  rintro ⟨targets, r⟩ -
  dsimp only
  split
  · rename_i r' hassign
    have hvalues := stays_commaList (h.expr scope) r'
    refine stays_bind (hvalues.of_leaves (takes_eatPunct? hassign).leaves) ?_
    rintro ⟨values, r⟩ -
    refine stays_bind (stays_expectTagEnd r) fun r _ => ?_
    exact stays_pure (.refl r)
  · refine stays_bind (stays_expectTagEnd r) fun r _ => stays_bind (h.closedBody _ _ scope r) ?_
    rintro ⟨body, scope', r⟩ -
    exact stays_pure (.refl r)

lemma readInclude (h : ctx.Fair) : ScopedReader.Stays (readInclude ctx) := by
  intro scope ts
  unfold Syntax.readInclude
  refine stays_bind (h.includeHead scope ts) ?_
  rintro ⟨⟨target, passed, options⟩, r⟩ -
  exact stays_pure (.refl r)

lemma readEmbed (h : ctx.Fair) : ScopedReader.Stays (readEmbed ctx) := by
  intro scope ts
  unfold Syntax.readEmbed
  refine stays_bind (h.includeHead scope ts) ?_
  rintro ⟨⟨target, passed, options⟩, r⟩ -
  refine stays_bind (h.closedBody _ _ scope r) ?_
  rintro ⟨body, scope', r⟩ -
  exact stays_pure (.refl r)

lemma readExtends (h : ctx.Fair) : ScopedReader.Stays (readExtends ctx) := by
  intro scope ts
  unfold Syntax.readExtends
  refine stays_bind (h.expr scope ts) ?_
  rintro ⟨target, r⟩ -
  refine stays_bind (stays_expectTagEnd r) fun r _ => ?_
  exact stays_pure (.refl r)

lemma readImport (h : ctx.Fair) : ScopedReader.Stays (readImport ctx) := by
  intro scope ts
  unfold Syntax.readImport
  refine stays_bind (h.expr scope ts) ?_
  rintro ⟨target, r⟩ -
  dsimp only
  split
  · rename_i r' has
    refine stays_bind ((stays_expectName r').of_leaves (takes_eatName? has).leaves) ?_
    rintro ⟨localName, r⟩ -
    refine stays_bind ((stays_expectTagEnd _).of_leaves (leaves_skipContextClause r)) fun r _ => ?_
    exact stays_pure (.refl r)
  · exact stays_failAt (by rintro ⟨⟩) rfl

lemma readFrom (h : ctx.Fair) : ScopedReader.Stays (readFrom ctx) := by
  intro scope ts
  unfold Syntax.readFrom
  refine stays_bind (h.expr scope ts) ?_
  rintro ⟨target, r⟩ -
  dsimp only
  split
  · rename_i r' himport
    have hnames := stays_commaList stays_importedName r'
    refine stays_bind (hnames.of_leaves (takes_eatName? himport).leaves) ?_
    rintro ⟨names, r⟩ -
    refine stays_bind ((stays_expectTagEnd _).of_leaves (leaves_skipContextClause r)) fun r _ => ?_
    exact stays_pure (.refl r)
  · exact stays_failAt (by rintro ⟨⟩) rfl

lemma readContainer (h : ctx.Fair) (tag : String) : ScopedReader.Stays (readContainer ctx tag) := by
  intro scope ts
  unfold Syntax.readContainer
  refine stays_bind (stays_leadingFilters (h.inner scope) tag ts).of_true ?_
  rintro ⟨filters, r⟩ -
  refine stays_bind (stays_tagArgs (h.expr scope) r) ?_
  rintro ⟨args, r⟩ -
  refine stays_bind (stays_expectTagEnd r) fun r _ => ?_
  dsimp only
  split
  · refine stays_bind (h.closedBody _ _ scope r) ?_
    rintro ⟨body, scope', r⟩ -
    exact stays_pure (.refl r)
  · exact stays_pure (.refl r)

lemma readTag (h : ctx.Fair) (name : String) : ScopedReader.Stays (readTag ctx name) := by
  unfold Syntax.readTag
  split
  · exact h.readIf
  · exact h.readFor
  · exact h.readBlock
  · exact h.readMacro
  · exact h.readSet
  · exact h.readInclude
  · exact h.readEmbed
  · exact h.readExtends
  · exact h.readImport
  · exact h.readFrom
  · exact h.readContainer _

end Context.Fair

/-- With so much nesting left, every reader of tags stays within its tokens. -/
lemma fair_context (room : Nat) : (context room).Fair := by
  induction room with
  | zero =>
    refine ⟨fun scope => fair_level scope 0, fun _ _ _ => ?_, fun _ _ => ?_⟩
    · exact stays_failAt (by rintro ⟨⟩) rfl
    · exact stays_failAt (by rintro ⟨⟩) rfl
  | succ room ih =>
    exact ⟨fun scope => fair_level scope (room + 1), ih.readTag, ih.readIf⟩

end TemplateMetrics.Syntax
