import TemplateMetrics.Proofs.TokenStream
import TemplateMetrics.Proofs.Walk

/-!
What the readers of expressions give.

Each of them takes at least one token and no token but those that stand within a construct
(`Takes`), and each builds a node of which every part is called as the names in scope say it is
(`Built`). Readers that go on behind an operand may take no token at all (`Skips`). One pass over
the readers shows both, by induction on the nesting that is left (`sound_level`).
-/

namespace TemplateMetrics.Syntax

/-! ### Tokens taken -/

/-- Between the one place and the other stand tokens of expressions only. -/
inductive Skips : Tokens → Tokens → Prop
  | refl (ts : Tokens) : Skips ts ts
  | cons {t : Located} {r rest : Tokens} (ht : t.token.isInner = true) (h : Skips r rest) :
      Skips (t :: r) rest

/-- Some tokens of expressions stand between the two places, and nothing else. -/
inductive Takes : Tokens → Tokens → Prop
  | cons {t : Located} {r rest : Tokens} (ht : t.token.isInner = true) (h : Skips r rest) :
      Takes (t :: r) rest

variable {ts r r' rest : Tokens}

lemma Skips.trans (h : Skips ts r) (h' : Skips r rest) : Skips ts rest := by
  induction h with
  | refl => exact h'
  | cons ht _ ih => exact .cons ht (ih h')

lemma Takes.skips (h : Takes ts r) : Skips ts r := by
  obtain ⟨ht, h⟩ := h
  exact .cons ht h

lemma Takes.trans (h : Takes ts r) (h' : Skips r rest) : Takes ts rest := by
  obtain ⟨ht, h⟩ := h
  exact .cons ht (h.trans h')

lemma Skips.takes (h : Skips ts r) (h' : Takes r rest) : Takes ts rest := by
  cases h with
  | refl => exact h'
  | cons ht h => exact .cons ht (h.trans h'.skips)

/-- A reader that gives back what it was given takes no token. -/
lemma skips_of_continued {α : Type} {a : α} {r : α × Tokens} (h : r = (a, ts) ∨ Takes ts r.2) :
    Skips ts r.2 := by
  rcases h with rfl | h
  · exact .refl ts
  · exact h.skips

lemma Skips.length_le (h : Skips ts r) : r.length ≤ ts.length := by
  induction h with
  | refl => exact Nat.le_refl _
  | cons _ _ ih => exact Nat.le_succ_of_le ih

lemma Takes.length_lt (h : Takes ts r) : r.length < ts.length := by
  obtain ⟨-, h⟩ := h
  exact Nat.lt_succ_of_le h.length_le

lemma takes_tail (h : (peek ts).isInner = true) : Takes ts ts.tail := by
  cases ts with
  | nil => cases h
  | cons t r => exact .cons h (.refl r)

lemma takes_isPunct {p : Punct} (h : isPunct p ts = true) : Takes ts ts.tail :=
  takes_tail (by rw [of_decide_eq_true h]; rfl)

lemma takes_isName {s : String} (h : isName s ts = true) : Takes ts ts.tail :=
  takes_tail (by rw [of_decide_eq_true h]; rfl)

lemma takes_postfixMark (h : isPostfixMark (peek ts) = true) : Takes ts ts.tail := by
  refine takes_tail ?_
  revert h
  cases peek ts <;> simp [isPostfixMark, Token.isInner]

lemma takes_eatPunct? {p : Punct} (h : eatPunct? p ts = some r) : Takes ts r := by
  unfold eatPunct? at h
  split at h
  · rename_i hpeek
    obtain rfl := Option.some.inj h
    exact takes_isPunct hpeek
  · cases h

lemma takes_eatName? {s : String} (h : eatName? s ts = some r) : Takes ts r := by
  unfold eatName? at h
  split at h
  · rename_i hpeek
    obtain rfl := Option.some.inj h
    exact takes_isName hpeek
  · cases h

lemma takes_expectPunct (p : Punct) (ts : Tokens) : Gives (expectPunct p ts) (Takes ts) := by
  unfold expectPunct
  split
  · rename_i r hr
    exact gives_ok (takes_eatPunct? hr)
  · exact gives_failAt _ _

lemma takes_expectName (ts : Tokens) : Gives (expectName ts) fun r => Takes ts r.2 := by
  unfold expectName
  split
  · exact gives_ok (.cons rfl (.refl _))
  · exact gives_failAt _ _

lemma skips_argumentStart (ts : Tokens) : Skips ts (argumentStart ts) := by
  unfold argumentStart
  split
  · split
    · rename_i hmark
      refine .cons rfl (.cons ?_ (.refl _))
      rcases hmark with hmark | hmark <;> rw [hmark] <;> rfl
    · exact .refl _
  · exact .refl ts

lemma skips_testSign (ts : Tokens) : Skips ts (testSign ts).2 := by
  unfold testSign
  split
  · exact (takes_eatName? (by assumption)).skips
  · exact .refl ts

lemma skips_testName (word : String) (ts : Tokens) : Skips ts (testName word ts).2 := by
  unfold testName
  split
  · rename_i hby
    exact (takes_isName hby.2).skips
  · split
    · rename_i has
      exact (takes_isName has.2).skips
    · exact .refl ts

/-! ### Nodes built -/

/-- Names in scope behind a node: those that it imports or defines come to the others. -/
def Scope.leave (scope : Scope) : Node → Scope
  | .importTag _ localName names =>
    ⟨localName.toList.foldl NameSet.add scope.spaces,
      names.foldl (fun known n => known.add (n.2.getD n.1)) scope.macros⟩
  | .macroTag name _ _ _ => { scope with macros := scope.macros.add name }
  | _ => scope

/-- A call is one of a macro, of a function or of a member as the names in scope say. -/
def Node.Called (scope : Scope) : Node → Prop
  | .macroCall (some space) _ _ => scope.spaces.contains space = true
  | .macroCall none name _ => scope.macros.contains name = true
  | .functionCall name _ => scope.macros.contains name = false
  | .member (.nameRef space) _ (some _) => scope.spaces.contains space = false
  | _ => True

/-- Every node of an expression is called as the names in scope say and adds none to them. -/
def Built (scope : Scope) (e : Node) : Prop :=
  ∀ n ∈ e.nodes, n.Called scope ∧ scope.leave n = scope

variable {scope : Scope} {e : Node}

lemma built_of_children (hcalled : e.Called scope) (hleave : scope.leave e = scope)
    (h : ∀ c ∈ e.children, Built scope c) : Built scope e := by
  intro n hn
  rw [Node.nodes_eq] at hn
  rcases List.mem_cons.1 hn with rfl | hn
  · exact ⟨hcalled, hleave⟩
  · obtain ⟨c, hc, hn⟩ := List.mem_flatMap.1 hn
    exact h c hc n hn

lemma built_leaf (hcalled : e.Called scope) (hleave : scope.leave e = scope)
    (h : e.children = []) : Built scope e :=
  built_of_children hcalled hleave (by simp [h])

lemma built_pair {left right : Node} (hcalled : e.Called scope) (hleave : scope.leave e = scope)
    (hchildren : e.children = [left, right]) (hleft : Built scope left)
    (hright : Built scope right) : Built scope e := by
  refine built_of_children hcalled hleave ?_
  rw [hchildren]
  exact List.forall_mem_cons.2 ⟨hleft, List.forall_mem_singleton.2 hright⟩

lemma built_conditional {test : Node} {thenNode orElse : Option Node} (htest : Built scope test)
    (hthen : ∀ n ∈ thenNode, Built scope n) (horElse : ∀ n ∈ orElse, Built scope n) :
    Built scope (.conditional test thenNode orElse) := by
  refine built_of_children trivial rfl (List.forall_mem_cons.2 ⟨htest, ?_⟩)
  refine List.forall_mem_append.2 ⟨fun n hn => ?_, fun n hn => ?_⟩
  · exact hthen n (Option.mem_toList.1 hn)
  · exact horElse n (Option.mem_toList.1 hn)

/-! ### Readers -/

/-- What a reader of expressions gives: it builds a node and takes tokens of expressions. -/
def Sound (scope : Scope) (reader : Reader Node) : Prop :=
  ∀ ts, Gives (reader ts) fun r => Built scope r.1 ∧ Takes ts r.2

/-- What a reader gives that goes on behind an operand: it takes tokens, or it gives the operand
back. -/
def Continues (scope : Scope) (reader : Node → Reader Node) : Prop :=
  ∀ left ts, Built scope left → Gives (reader left ts) fun r =>
    Built scope r.1 ∧ (r = (left, ts) ∨ Takes ts r.2)

/-- The readers one level of nesting further in are sound. -/
structure Inner.Sound (inner : Inner) (scope : Scope) : Prop where
  expr : ∀ inlineIf, Syntax.Sound scope (inner.expr inlineIf)
  negation : ∀ inlineIf, Syntax.Sound scope (inner.negation inlineIf)
  signed : ∀ inlineIf, Syntax.Sound scope (inner.signed inlineIf)

lemma takes_closedList {α : Type} {P : α → Prop} {item : Reader α}
    (h : ∀ ts, Gives (item ts) fun r => P r.1 ∧ Takes ts r.2) (close : Punct) (ts : Tokens) :
    Gives (closedList close item ts) fun r => (∀ x ∈ r.1, P x) ∧ Takes ts r.2 := by
  refine loop_induct (closedRound close item)
    (motive := fun _ ts x => Gives x fun r => (∀ x ∈ r.1, P x) ∧ Takes ts r.2)
    (fun _ _ => gives_error _) ?_ () ts
  intro next hnext _ ts
  unfold closedRound
  split
  · -- the list is closed, with or without a comma before
    rename_i r hclose
    exact gives_ok ⟨by simp, takes_eatPunct? hclose⟩
  · refine gives_bind (h ts) ?_
    rintro ⟨x, r⟩ ⟨hx, hr⟩
    dsimp only
    split
    · -- a comma, and the list goes on
      rename_i r' hcomma
      refine gives_bind (hnext () r') ?_
      rintro ⟨xs, rest⟩ ⟨hxs, hrest⟩
      refine gives_pure ⟨List.forall_mem_cons.2 ⟨hx, hxs⟩, ?_⟩
      exact hr.trans ((takes_eatPunct? hcomma).skips.trans hrest.skips)
    · -- no comma, so this was the last item
      refine gives_bind (takes_expectPunct close r) fun rest hrest => ?_
      exact gives_pure ⟨List.forall_mem_singleton.2 hx, hr.trans hrest.skips⟩

namespace Inner.Sound

variable {inner : Inner}

/-! ### Calls and primaries -/

lemma argument (h : inner.Sound scope) : Syntax.Sound scope (argument inner) :=
  fun ts => (h.expr true (argumentStart ts)).mono fun _ ha =>
    ⟨ha.1, (skips_argumentStart ts).takes ha.2⟩

lemma callArgs (h : inner.Sound scope) (ts : Tokens) :
    Gives (callArgs inner ts) fun r => (∀ e ∈ r.1, Built scope e) ∧ Takes ts r.2 := by
  unfold Syntax.callArgs
  refine gives_bind (takes_expectPunct .openParen ts) fun r hr => ?_
  refine (takes_closedList h.argument .closeParen r).mono fun a ha => ?_
  exact ⟨ha.1, hr.trans ha.2.skips⟩

lemma optionalArgs (h : inner.Sound scope) (ts : Tokens) :
    Gives (optionalArgs inner ts) fun r =>
      (∀ e ∈ r.1.getD [], Built scope e) ∧ (r = (none, ts) ∨ Takes ts r.2) := by
  unfold Syntax.optionalArgs
  split
  · refine gives_bind (h.callArgs ts) ?_
    rintro ⟨args, r⟩ ⟨hargs, hr⟩
    exact gives_pure ⟨hargs, .inr hr⟩
  · exact gives_ok ⟨by simp, .inl rfl⟩

lemma hashKey (h : inner.Sound scope) (inlineIf : Bool) (ts : Tokens) :
    Gives (hashKey inner inlineIf ts) fun r => Built scope r.1.1 ∧ Takes ts r.2 := by
  unfold Syntax.hashKey
  split
  · exact gives_failAt _ _
  · rename_i t r
    split
    · -- a name, a text or a number stands for itself
      rename_i s ht
      exact gives_ok ⟨built_leaf trivial rfl rfl, .cons (by rw [ht]; rfl) (.refl r)⟩
    · rename_i s ht
      exact gives_ok ⟨built_leaf trivial rfl rfl, .cons (by rw [ht]; rfl) (.refl r)⟩
    · rename_i n ht
      exact gives_ok ⟨built_leaf trivial rfl rfl, .cons (by rw [ht]; rfl) (.refl r)⟩
    · -- a parenthesised key is an expression
      rename_i ht
      refine gives_bind (h.expr inlineIf r) ?_
      rintro ⟨key, r'⟩ ⟨hkey, hr'⟩
      refine gives_bind (takes_expectPunct .closeParen r') fun rest hrest => ?_
      exact gives_pure ⟨hkey, .cons (by rw [ht]; rfl) (hr'.skips.trans hrest.skips)⟩
    · exact gives_error _

lemma hashPair (h : inner.Sound scope) (inlineIf : Bool) (ts : Tokens) :
    Gives (hashPair inner inlineIf ts) fun r =>
      (Built scope r.1.1 ∧ Built scope r.1.2) ∧ Takes ts r.2 := by
  unfold Syntax.hashPair
  refine gives_bind (h.hashKey inlineIf ts) ?_
  rintro ⟨⟨key, shorthand⟩, r⟩ ⟨hkey, hr⟩
  dsimp only
  split
  · rename_i r' hcolon
    refine gives_bind (h.expr true r') ?_
    rintro ⟨value, rest⟩ ⟨hvalue, hrest⟩
    exact gives_pure ⟨⟨hkey, hvalue⟩, hr.trans ((takes_eatPunct? hcolon).skips.trans hrest.skips)⟩
  · split
    · exact gives_ok ⟨⟨hkey, built_leaf trivial rfl rfl⟩, hr⟩
    · exact gives_failAt _ _

/-- A name that is no constant and has no arguments is a reference. -/
lemma named (h : inner.Sound scope) (s : String) (ts : Tokens) :
    Gives (named scope inner s ts) fun r => (Built scope r.1 ∧ Skips ts r.2) ∧
      (constant? s = none → r = (.nameRef s, ts) ∨ Takes ts r.2) := by
  unfold Syntax.named
  split
  · -- a constant takes no arguments
    rename_i c hconstant
    exact gives_ok ⟨⟨built_leaf trivial rfl rfl, .refl ts⟩, by simp [hconstant]⟩
  · refine gives_bind (h.optionalArgs ts) ?_
    rintro ⟨args, r⟩ ⟨hargs, hr⟩
    have hskips := skips_of_continued hr
    rcases hr with hr | hr
    · -- no arguments follow
      obtain ⟨rfl, rfl⟩ := Prod.mk.inj hr
      exact gives_ok ⟨⟨built_leaf trivial rfl rfl, hskips⟩, fun _ => .inl rfl⟩
    · cases args with
      | none => exact gives_ok ⟨⟨built_leaf trivial rfl rfl, hskips⟩, fun _ => .inr hr⟩
      | some args =>
        dsimp only
        split
        · -- the name is that of a macro
          rename_i hmacro
          exact gives_ok ⟨⟨built_of_children hmacro rfl hargs, hskips⟩, fun _ => .inr hr⟩
        · -- any other name is called as a function
          rename_i hmacro
          have hcalled := Bool.eq_false_iff.2 hmacro
          exact gives_ok ⟨⟨built_of_children hcalled rfl hargs, hskips⟩, fun _ => .inr hr⟩

lemma primary (h : inner.Sound scope) (inlineIf : Bool) :
    Syntax.Sound scope (primary scope inner inlineIf) := by
  intro ts
  unfold Syntax.primary
  split
  · exact gives_failAt _ _
  · rename_i t r
    split
    · rename_i n ht
      exact gives_ok ⟨built_leaf trivial rfl rfl, .cons (by rw [ht]; rfl) (.refl r)⟩
    · rename_i s ht
      exact gives_ok ⟨built_leaf trivial rfl rfl, .cons (by rw [ht]; rfl) (.refl r)⟩
    · rename_i s ht
      exact (h.named s r).mono fun a ha => ⟨ha.1.1, .cons (by rw [ht]; rfl) ha.1.2⟩
    · -- a parenthesised expression
      rename_i ht
      refine gives_bind (h.expr true r) ?_
      rintro ⟨e, r'⟩ ⟨he, hr'⟩
      refine gives_bind (takes_expectPunct .closeParen r') fun rest hrest => ?_
      exact gives_pure ⟨he, .cons (by rw [ht]; rfl) (hr'.skips.trans hrest.skips)⟩
    · -- a list
      rename_i ht
      refine gives_bind (takes_closedList (h.expr true) .closeBracket r) ?_
      rintro ⟨items, rest⟩ ⟨hitems, hrest⟩
      exact gives_pure ⟨built_of_children trivial rfl hitems, .cons (by rw [ht]; rfl) hrest.skips⟩
    · -- a hash, whose children are its keys and values
      rename_i ht
      refine gives_bind (takes_closedList (P := fun p => Built scope p.1 ∧ Built scope p.2)
        (h.hashPair inlineIf) .closeBrace r) ?_
      rintro ⟨pairs, rest⟩ ⟨hpairs, hrest⟩
      refine gives_pure ⟨built_of_children trivial rfl fun c hc => ?_,
        .cons (by rw [ht]; rfl) hrest.skips⟩
      obtain ⟨p, hp, hc⟩ := List.mem_flatMap.1 hc
      rcases List.mem_pair.1 hc with rfl | rfl
      · exact (hpairs p hp).1
      · exact (hpairs p hp).2
    · exact gives_error _

/-! ### Members, subscripts and filters -/

lemma built_memberOf {object : Node} {name : String} {args : Option (List Node)}
    (hobject : Built scope object) (hargs : ∀ e ∈ args.getD [], Built scope e) :
    Built scope (memberOf scope object name args) := by
  unfold memberOf
  split
  · -- a call under a name: of a macro if the scope says so
    rename_i space args
    split
    · rename_i hspace
      exact built_of_children hspace rfl hargs
    · rename_i hspace
      exact built_of_children (Bool.eq_false_iff.2 hspace) rfl
        (List.forall_mem_cons.2 ⟨hobject, hargs⟩)
  · rename_i hother
    -- without a call, or under no name, there is nothing that the scope decides
    refine built_of_children ?_ rfl (List.forall_mem_cons.2 ⟨hobject, hargs⟩)
    unfold Node.Called
    split
    · rename_i he
      cases he
    · rename_i he
      cases he
    · rename_i he
      cases he
    · rename_i he
      cases he
      exact absurd rfl (hother _ _ rfl)
    · trivial

lemma memberName (ts : Tokens) : Gives (memberName ts) fun r => Takes ts r.2 := by
  unfold Syntax.memberName
  split
  · exact gives_failAt _ _
  · rename_i t r
    split
    · rename_i s ht
      exact gives_ok (.cons (by rw [ht]; rfl) (.refl r))
    · rename_i n ht
      exact gives_ok (.cons (by rw [ht]; rfl) (.refl r))
    · exact gives_error _

lemma sliceEnd (h : inner.Sound scope) (absent : Bool) (ts : Tokens) :
    Gives (sliceEnd inner absent ts) fun r => Built scope r.1 ∧ Skips ts r.2 := by
  unfold Syntax.sliceEnd
  split
  · exact gives_ok ⟨built_leaf trivial rfl rfl, .refl ts⟩
  · exact (h.expr true ts).mono fun a ha => ⟨ha.1, ha.2.skips⟩

lemma sliceOrIndex (h : inner.Sound scope) (ts : Tokens) :
    Gives (sliceOrIndex inner ts) fun r => Built scope r.1 ∧ Skips ts r.2 := by
  unfold Syntax.sliceOrIndex
  refine gives_bind (h.sliceEnd _ ts) ?_
  rintro ⟨low, r⟩ ⟨hlow, hr⟩
  dsimp only
  split
  · exact gives_ok ⟨hlow, hr⟩
  · rename_i r' hcolon
    refine gives_bind (h.sliceEnd _ r') ?_
    rintro ⟨high, rest⟩ ⟨hhigh, hrest⟩
    refine gives_pure ⟨built_pair trivial rfl rfl hlow hhigh, ?_⟩
    exact hr.trans ((takes_eatPunct? hcolon).skips.trans hrest)

lemma filterSegment (h : inner.Sound scope) {target : Option Node}
    (htarget : ∀ n ∈ target, Built scope n) :
    Syntax.Sound scope (filterSegment inner target) := by
  intro ts
  unfold Syntax.filterSegment
  refine gives_bind (takes_expectName ts) ?_
  rintro ⟨name, r⟩ hr
  refine gives_bind (h.optionalArgs r) ?_
  rintro ⟨args, rest⟩ ⟨hargs, hrest⟩
  have hskips := skips_of_continued hrest
  refine gives_pure ⟨built_of_children trivial rfl ?_, hr.trans hskips⟩
  refine List.forall_mem_append.2 ⟨fun n hn => ?_, hargs⟩
  exact htarget n (Option.mem_toList.1 hn)

lemma postfixPart (h : inner.Sound scope) {node : Node} (hnode : Built scope node) {ts : Tokens}
    (hmark : isPostfixMark (peek ts) = true) :
    Gives (postfixPart scope inner node ts) fun r => Built scope r.1 ∧ Takes ts r.2 := by
  have htail := takes_postfixMark hmark
  unfold Syntax.postfixPart
  split
  · -- a member, called or not
    refine gives_bind (memberName ts.tail) ?_
    rintro ⟨name, r⟩ hr
    refine gives_bind (h.optionalArgs r) ?_
    rintro ⟨args, rest⟩ ⟨hargs, hrest⟩
    have hskips := skips_of_continued hrest
    exact gives_pure ⟨built_memberOf hnode hargs, htail.trans (hr.skips.trans hskips)⟩
  · -- an index or a slice
    refine gives_bind (h.sliceOrIndex ts.tail) ?_
    rintro ⟨index, r⟩ ⟨hindex, hr⟩
    refine gives_bind (takes_expectPunct .closeBracket r) fun rest hrest => ?_
    exact gives_pure ⟨built_pair trivial rfl rfl hnode hindex, htail.trans (hr.trans hrest.skips)⟩
  · -- a filter
    refine (h.filterSegment (by simpa using hnode) ts.tail).mono fun a ha => ?_
    exact ⟨ha.1, htail.trans ha.2.skips⟩

lemma postfixChain (h : inner.Sound scope) (links : Nat) :
    Continues scope (postfixChain scope inner links) := by
  induction links with
  | zero =>
    intro node ts hnode
    unfold Syntax.postfixChain
    split
    · -- no room for another link
      exact gives_failAt _ _
    · exact gives_ok ⟨hnode, .inl rfl⟩
  | succ links ih =>
    intro node ts hnode
    unfold Syntax.postfixChain
    split
    · rename_i hmark
      refine gives_bind (h.postfixPart hnode hmark) ?_
      rintro ⟨next, r⟩ ⟨hnext, hr⟩
      refine (ih next r hnext).mono fun a ha => ⟨ha.1, .inr ?_⟩
      exact hr.trans (skips_of_continued ha.2)
    · exact gives_ok ⟨hnode, .inl rfl⟩

end Inner.Sound

/-- A reader and one that goes on behind it. -/
lemma Sound.continued {reader : Reader Node} {next : Node → Reader Node}
    (h : Sound scope reader) (hnext : Continues scope next) :
    Sound scope fun ts => reader ts >>= fun r => next r.1 r.2 := by
  intro ts
  refine gives_bind (h ts) fun a ha => ?_
  exact (hnext a.1 a.2 ha.1).mono fun b hb => ⟨hb.1, ha.2.trans (skips_of_continued hb.2)⟩

/-! ### Operators -/

/-- What an operator gives: it takes tokens, and it joins what is built. -/
def Operator.Sound (scope : Scope) (operator : Operator) : Prop :=
  ∀ ts build r, operator ts = some (build, r) → Takes ts r ∧
    ∀ left right, Built scope left → Built scope right → Built scope (build left right)

lemma sound_punctOperator (table : Punct → Option BinaryOp) :
    Operator.Sound scope (punctOperator table) := by
  intro ts build r h
  unfold punctOperator at h
  split at h
  · obtain ⟨op, -, hop⟩ := Option.map_eq_some_iff.1 h
    obtain ⟨rfl, rfl⟩ := Prod.mk.inj hop
    exact ⟨.cons rfl (.refl _), fun left right => built_pair trivial rfl rfl⟩
  · cases h

lemma sound_logicalOperator (op : LogicalOp) : Operator.Sound scope (logicalOperator op) := by
  intro ts build r h
  unfold logicalOperator at h
  obtain ⟨r, hr, hop⟩ := Option.map_eq_some_iff.1 h
  obtain ⟨rfl, rfl⟩ := Prod.mk.inj hop
  exact ⟨takes_eatName? hr, fun left right => built_pair trivial rfl rfl⟩

lemma takes_comparison? {op : BinaryOp} (h : comparison? ts = some (op, r)) : Takes ts r := by
  unfold comparison? at h
  split at h
  · obtain ⟨op, -, hop⟩ := Option.map_eq_some_iff.1 h
    obtain ⟨rfl, rfl⟩ := Prod.mk.inj hop
    exact .cons rfl (.refl _)
  · obtain ⟨rfl, rfl⟩ := Prod.mk.inj (Option.some.inj h)
    exact .cons rfl (.cons rfl (.refl _))
  · obtain ⟨rfl, rfl⟩ := Prod.mk.inj (Option.some.inj h)
    exact .cons rfl (.cons rfl (.refl _))
  · obtain ⟨rfl, rfl⟩ := Prod.mk.inj (Option.some.inj h)
    exact .cons rfl (.cons rfl (.refl _))
  · obtain ⟨rfl, rfl⟩ := Prod.mk.inj (Option.some.inj h)
    exact .cons rfl (.refl _)
  · obtain ⟨rfl, rfl⟩ := Prod.mk.inj (Option.some.inj h)
    exact .cons rfl (.refl _)
  · cases h

lemma takes_conditionalMark? {inlineIf : Bool} {mark : ConditionalMark}
    (h : conditionalMark? inlineIf ts = some mark) : Takes ts ts.tail := by
  unfold conditionalMark? at h
  split at h
  · rename_i helvis
    exact takes_isPunct helvis
  · split at h
    · rename_i hquestion
      exact takes_isPunct hquestion
    · split at h
      · rename_i hif
        exact takes_isName (Bool.and_eq_true_iff.1 hif).2
      · cases h

section Chains

variable {operand : Reader Node} {operator : Operator}

lemma continues_chain (hoperand : Sound scope operand) (hoperator : Operator.Sound scope operator)
    (links : Nat) : Continues scope (chain operand operator links) := by
  induction links with
  | zero =>
    intro left ts hleft
    unfold chain
    split
    · exact gives_failAt _ _
    · exact gives_ok ⟨hleft, .inl rfl⟩
  | succ links ih =>
    intro left ts hleft
    unfold chain
    split
    · rename_i build r hop
      obtain ⟨hr, hbuild⟩ := hoperator ts build r hop
      refine gives_bind (hoperand r) ?_
      rintro ⟨right, rest⟩ ⟨hright, hrest⟩
      refine (ih _ rest (hbuild left right hleft hright)).mono fun a ha => ⟨ha.1, .inr ?_⟩
      exact hr.trans (hrest.skips.trans (skips_of_continued ha.2))
    · exact gives_ok ⟨hleft, .inl rfl⟩

lemma sound_chained (hoperand : Sound scope operand) (hoperator : Operator.Sound scope operator) :
    Sound scope (chained operand operator) :=
  hoperand.continued (continues_chain hoperand hoperator maxHeight)

lemma sound_concatenation (h : Sound scope operand) : Sound scope (concatenation operand) :=
  sound_chained (sound_chained (sound_chained (sound_chained h (sound_punctOperator _))
    (sound_punctOperator _)) (sound_punctOperator _)) (sound_punctOperator _)

/-- A left operand and perhaps the other end of a range. -/
lemma continues_range (h : Sound scope operand) : Continues scope fun left ts =>
    match eatPunct? .range ts with
    | some r => do
      let (right, r) ← concatenation operand r
      return (.binary .range left right, r)
    | none => .ok (left, ts) := by
  intro left ts hleft
  dsimp only
  split
  · rename_i r hrange
    refine gives_bind (sound_concatenation h r) ?_
    rintro ⟨right, rest⟩ ⟨hright, hrest⟩
    refine gives_pure ⟨built_pair trivial rfl rfl hleft hright, .inr ?_⟩
    exact (takes_eatPunct? hrange).trans hrest.skips
  · exact gives_ok ⟨hleft, .inl rfl⟩

lemma sound_range (h : Sound scope operand) : Sound scope (range operand) :=
  (sound_concatenation h).continued (continues_range h)

end Chains

namespace Inner.Sound

variable {inner : Inner}

lemma testOf (h : inner.Sound scope) {target : Node} (htarget : Built scope target) :
    Syntax.Sound scope (testOf inner target) := by
  intro ts
  have hsign := skips_testSign ts
  unfold Syntax.testOf
  refine gives_bind (takes_expectName (testSign ts).2) ?_
  rintro ⟨word, r⟩ hword
  refine gives_bind (h.optionalArgs (testName word r).2) ?_
  rintro ⟨args, rest⟩ ⟨hargs, hrest⟩
  have hskips := (skips_testName word r).trans (skips_of_continued hrest)
  refine gives_pure ⟨built_of_children trivial rfl ?_, hsign.takes (hword.trans hskips)⟩
  exact List.forall_mem_cons.2 ⟨htarget, hargs⟩

lemma compareChain (h : inner.Sound scope) {operand : Reader Node}
    (hoperand : Syntax.Sound scope operand) (links : Nat) :
    Continues scope (compareChain inner operand links) := by
  induction links with
  | zero =>
    intro left ts hleft
    unfold Syntax.compareChain
    split
    · exact gives_failAt _ _
    · split
      · exact gives_failAt _ _
      · exact gives_ok ⟨hleft, .inl rfl⟩
  | succ links ih =>
    intro left ts hleft
    unfold Syntax.compareChain
    split
    · -- a test
      rename_i r his
      refine gives_bind (h.testOf hleft r) ?_
      rintro ⟨next, r'⟩ ⟨hnext, hr'⟩
      refine (ih next r' hnext).mono fun a ha => ⟨ha.1, .inr ?_⟩
      exact (takes_eatName? his).trans (hr'.skips.trans (skips_of_continued ha.2))
    · split
      · -- a comparison
        rename_i op r hop
        refine gives_bind (hoperand r) ?_
        rintro ⟨right, r'⟩ ⟨hright, hr'⟩
        have hnode : Built scope (.binary op left right) :=
          built_pair trivial rfl rfl hleft hright
        refine (ih _ r' hnode).mono fun a ha => ⟨ha.1, .inr ?_⟩
        exact (takes_comparison? hop).trans (hr'.skips.trans (skips_of_continued ha.2))
      · exact gives_ok ⟨hleft, .inl rfl⟩

/-! ### Rungs -/

lemma signed_succ (h : inner.Sound scope) (inlineIf : Bool) :
    Syntax.Sound scope (Syntax.signed scope inner inlineIf) := by
  -- both signs are read alike
  have hsign : ∀ op ts, (peek ts).isInner = true →
      Gives (inner.signed inlineIf ts.tail >>= fun r => pure (.unary op r.1, r.2) :
        Parsed (Node × Tokens)) fun r => Built scope r.1 ∧ Takes ts r.2 := by
    intro op ts hts
    refine gives_bind (h.signed inlineIf ts.tail) ?_
    rintro ⟨operand, r⟩ ⟨hoperand, hr⟩
    refine gives_pure ⟨built_of_children trivial rfl ?_, (takes_tail hts).trans hr.skips⟩
    exact List.forall_mem_singleton.2 hoperand
  intro ts
  unfold Syntax.signed
  split
  · rename_i hminus
    exact hsign .minus ts (by rw [hminus]; rfl)
  · rename_i hplus
    exact hsign .plus ts (by rw [hplus]; rfl)
  · exact (h.primary inlineIf).continued (h.postfixChain maxHeight) ts

lemma negation_succ (h : inner.Sound scope) (inlineIf : Bool) :
    Syntax.Sound scope (Syntax.negation scope inner inlineIf) := by
  have hrange := sound_range (h.signed_succ inlineIf)
  intro ts
  unfold Syntax.negation
  split
  · rename_i r hnot
    refine gives_bind (h.negation inlineIf r) ?_
    rintro ⟨operand, r'⟩ ⟨hoperand, hr'⟩
    refine gives_pure ⟨built_of_children trivial rfl ?_, (takes_eatName? hnot).trans hr'.skips⟩
    exact List.forall_mem_singleton.2 hoperand
  · exact hrange.continued (h.compareChain hrange maxHeight) ts

lemma coalesced (h : inner.Sound scope) (inlineIf : Bool) :
    Syntax.Sound scope (coalesced scope inner inlineIf) :=
  sound_chained (sound_chained (sound_chained (h.negation_succ inlineIf)
    (sound_logicalOperator .and)) (sound_logicalOperator .or)) (sound_punctOperator _)

lemma conditionalRest (h : inner.Sound scope) (inlineIf : Bool) (he : Built scope e)
    (ts : Tokens) (mark : ConditionalMark) :
    Gives (conditionalRest scope inner inlineIf e ts mark) fun r =>
      Built scope r.1 ∧ Takes ts r.2 := by
  have hnone : ∀ n ∈ (none : Option Node), Built scope n := by simp
  have hsome : ∀ {m : Node}, Built scope m → ∀ n ∈ some m, Built scope n := by
    rintro m hm n ⟨⟩
    exact hm
  cases mark with
  | elvis =>
    refine gives_bind (h.expr inlineIf ts) ?_
    rintro ⟨orElse, r⟩ ⟨horElse, hr⟩
    exact gives_pure ⟨built_conditional he hnone (hsome horElse), hr⟩
  | question =>
    unfold Syntax.conditionalRest
    refine gives_bind (h.expr inlineIf ts) ?_
    rintro ⟨thenNode, r⟩ ⟨hthen, hr⟩
    dsimp only
    split
    · rename_i r' hcolon
      -- with both branches
      refine gives_bind (h.expr inlineIf r') ?_
      rintro ⟨orElse, rest⟩ ⟨horElse, hrest⟩
      refine gives_pure ⟨built_conditional he (hsome hthen) (hsome horElse), ?_⟩
      exact hr.trans ((takes_eatPunct? hcolon).skips.trans hrest.skips)
    · exact gives_pure ⟨built_conditional he (hsome hthen) hnone, hr⟩
  | inlineIf =>
    unfold Syntax.conditionalRest
    refine gives_bind (h.coalesced inlineIf ts) ?_
    rintro ⟨test, r⟩ ⟨htest, hr⟩
    dsimp only
    split
    · rename_i r' helse
      -- with both branches
      refine gives_bind (h.expr inlineIf r') ?_
      rintro ⟨orElse, rest⟩ ⟨horElse, hrest⟩
      refine gives_pure ⟨built_conditional htest (hsome he) (hsome horElse), ?_⟩
      exact hr.trans ((takes_eatName? helse).skips.trans hrest.skips)
    · exact gives_pure ⟨built_conditional htest (hsome he) hnone, hr⟩

lemma conditionalChain (h : inner.Sound scope) (inlineIf : Bool) (links : Nat) :
    Continues scope (conditionalChain scope inner inlineIf links) := by
  induction links with
  | zero =>
    intro left ts hleft
    unfold Syntax.conditionalChain
    split
    · exact gives_failAt _ _
    · exact gives_ok ⟨hleft, .inl rfl⟩
  | succ links ih =>
    intro left ts hleft
    unfold Syntax.conditionalChain
    split
    · rename_i mark hmark
      refine gives_bind (h.conditionalRest inlineIf hleft ts.tail mark) ?_
      rintro ⟨next, r⟩ ⟨hnext, hr⟩
      refine (ih next r hnext).mono fun a ha => ⟨ha.1, .inr ?_⟩
      exact (takes_conditionalMark? hmark).trans (hr.skips.trans (skips_of_continued ha.2))
    · exact gives_ok ⟨hleft, .inl rfl⟩

lemma bounded (h : inner.Sound scope) (inlineIf : Bool) :
    Syntax.Sound scope (bounded scope inner inlineIf) := by
  intro ts
  unfold Syntax.bounded
  refine gives_bind
    ((h.coalesced inlineIf).continued (h.conditionalChain inlineIf maxHeight) ts) ?_
  rintro ⟨e, r⟩ he
  dsimp only
  split
  · exact gives_failAt _ _
  · exact gives_ok he

end Inner.Sound

/-- With so much nesting left, every reader of expressions is sound. -/
lemma sound_level (scope : Scope) (room : Nat) : (level scope room).Sound scope := by
  induction room with
  | zero =>
    exact ⟨fun _ _ => gives_failAt _ _, fun _ _ => gives_failAt _ _, fun _ _ => gives_failAt _ _⟩
  | succ room ih => exact ⟨ih.bounded, ih.negation_succ, ih.signed_succ⟩

end TemplateMetrics.Syntax
