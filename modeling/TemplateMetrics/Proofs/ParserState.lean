import Mathlib.Tactic.Common
import TemplateMetrics.Syntax.Expression

/-!
Reading expressions with the depth of nesting and the permission of an inline `if` kept in a state.

The readers of expressions are given the nesting that is left and the permission as arguments. Here
both are fields of a state that every action may change: `nested` counts the depth up and down
again, and `withInlineIf` sets the permission and puts the old one back. Every action that ends
leaves both as they were, and gives what the reader gives that has them as arguments (`Restores`).
One pass over the actions shows it, by induction on the levels that are left
(`matches_calls`).
-/

namespace TemplateMetrics.Syntax.Machine

variable {α β : Type}

/-- Where reading stands: the tokens left, the levels entered and not left, and whether an inline
`if` may follow an expression. -/
structure State where
  tokens : Tokens
  depth : Nat
  inlineIf : Bool

abbrev Action (α : Type) := State → Parsed (α × State)

def State.behind (st : State) (r : Tokens) : State := { st with tokens := r }

/-- A reader of tokens alone. -/
def reading (reader : Reader α) : Action α := fun st => do
  let (a, r) ← reader st.tokens
  return (a, st.behind r)

def expect (p : Punct) (st : State) : Parsed State := do
  let r ← expectPunct p st.tokens
  return st.behind r

/-- An action one level further in, unless there are too many levels. -/
def nested (action : Action α) : Action α := fun st =>
  if maxNesting ≤ st.depth then failAt st.tokens .nestingTooDeep
  else do
    let (a, st) ← action { st with depth := st.depth + 1 }
    return (a, { st with depth := st.depth - 1 })

/-- An action with another permission, and the old one behind it. -/
def withInlineIf (allowed : Bool) (action : Action α) : Action α := fun st => do
  let (a, after) ← action { st with inlineIf := allowed }
  return (a, { after with inlineIf := st.inlineIf })

/-- The actions that others come back to: an expression, and the operands of `not` and of a sign,
without the level that these are nested in. -/
structure Calls where
  expr : Action Node
  negation : Action Node
  signed : Action Node

/-! ### Calls and primaries -/

def closedItems (close : Punct) (item : Action α) : Nat → Action (List α)
  | 0, _ => .error ⟨1, .chainTooLong⟩
  | steps + 1, st =>
    match eatPunct? close st.tokens with
    | some r => .ok ([], st.behind r)
    | none => do
      let (x, st) ← item st
      match eatPunct? .comma st.tokens with
      | some r => do
        let (xs, st) ← closedItems close item steps (st.behind r)
        return (x :: xs, st)
      | none => do
        let st ← expect close st
        return ([x], st)

def closedList (close : Punct) (item : Action α) : Action (List α) := fun st =>
  closedItems close item (st.tokens.length + 1) st

def argument (calls : Calls) : Action Node := fun st =>
  calls.expr (st.behind (argumentStart st.tokens))

def callArgs (calls : Calls) : Action (List Node) := fun st => do
  let st ← expect .openParen st
  withInlineIf true (closedList .closeParen (argument calls)) st

def optionalArgs (calls : Calls) : Action (Option (List Node)) := fun st =>
  if isPunct .openParen st.tokens then do
    let (args, st) ← callArgs calls st
    return (some args, st)
  else .ok (none, st)

def hashKey (calls : Calls) : Action (Node × Option String) := fun st =>
  match st.tokens with
  | [] => failAt [] (.unexpectedHashKey .eof)
  | t :: r =>
    match t.token with
    | .name s => .ok ((.literal (.str s), some s), st.behind r)
    | .str s => .ok ((.literal (.str s), none), st.behind r)
    | .number n => .ok ((.literal (.number n), none), st.behind r)
    | .punct .openParen => do
      let (key, st) ← calls.expr (st.behind r)
      let st ← expect .closeParen st
      return ((key, none), st)
    | other => .error ⟨lineAfter t r, .unexpectedHashKey other⟩

def hashPair (calls : Calls) : Action (Node × Node) := fun st => do
  let ((key, shorthand), st) ← hashKey calls st
  match eatPunct? .colon st.tokens with
  | some r => do
    let (value, st) ← withInlineIf true calls.expr (st.behind r)
    return ((key, value), st)
  | none =>
    match shorthand with
    | some s => .ok ((key, .nameRef s), st)
    | none => failAt st.tokens .expectedColon

def named (scope : Scope) (calls : Calls) (s : String) : Action Node := fun st =>
  match constant? s with
  | some c => .ok (.literal c, st)
  | none => do
    match ← optionalArgs calls st with
    | (none, st) => .ok (.nameRef s, st)
    | (some args, st) =>
      if scope.macros.contains s then .ok (.macroCall none s args, st)
      else .ok (.functionCall s args, st)

def primary (scope : Scope) (calls : Calls) : Action Node := fun st =>
  match st.tokens with
  | [] => failAt [] (.unexpectedInExpression .eof)
  | t :: r =>
    match t.token with
    | .number n => .ok (.literal (.number n), st.behind r)
    | .str s => .ok (.literal (.str s), st.behind r)
    | .name s => named scope calls s (st.behind r)
    | .punct .openParen => do
      let (e, st) ← withInlineIf true calls.expr (st.behind r)
      let st ← expect .closeParen st
      return (e, st)
    | .punct .openBracket => do
      let (items, st) ← closedList .closeBracket (withInlineIf true calls.expr) (st.behind r)
      return (.list items, st)
    | .punct .openBrace => do
      let (pairs, st) ← closedList .closeBrace (hashPair calls) (st.behind r)
      return (.hash pairs, st)
    | other => .error ⟨t.line, .unexpectedInExpression other⟩

/-! ### Members, subscripts and filters -/

def sliceEnd (calls : Calls) (absent : Bool) : Action Node := fun st =>
  if absent then .ok (.literal .null, st) else calls.expr st

def sliceOrIndex (calls : Calls) : Action Node := fun st => do
  let (low, st) ← sliceEnd calls (isPunct .colon st.tokens) st
  match eatPunct? .colon st.tokens with
  | none => .ok (low, st)
  | some r => do
    let (high, st) ← sliceEnd calls (isPunct .closeBracket r) (st.behind r)
    return (.binary .slice low high, st)

def filterSegment (calls : Calls) (target : Option Node) : Action Node := fun st => do
  let (name, st) ← reading expectName st
  let (args, st) ← optionalArgs calls st
  return (.filterCall name target (args.getD []), st)

def postfixPart (scope : Scope) (calls : Calls) (node : Node) : Action Node := fun st =>
  match peek st.tokens with
  | .punct .dot => do
    let (name, st) ← reading memberName (st.behind st.tokens.tail)
    let (args, st) ← optionalArgs calls st
    return (memberOf scope node name args, st)
  | .punct .openBracket => do
    let (index, st) ← withInlineIf true (sliceOrIndex calls) (st.behind st.tokens.tail)
    let st ← expect .closeBracket st
    return (.subscript node index, st)
  | _ => filterSegment calls (some node) (st.behind st.tokens.tail)

def postfixChain (scope : Scope) (calls : Calls) : Nat → Node → Action Node
  | 0, node, st =>
    if isPostfixMark (peek st.tokens) then failAt st.tokens .chainTooLong else .ok (node, st)
  | links + 1, node, st =>
    if isPostfixMark (peek st.tokens) then do
      let (node, st) ← postfixPart scope calls node st
      postfixChain scope calls links node st
    else .ok (node, st)

def signed (scope : Scope) (calls : Calls) : Action Node := fun st =>
  match peek st.tokens with
  | .punct .minus => do
    let (operand, st) ← nested calls.signed (st.behind st.tokens.tail)
    return (.unary .minus operand, st)
  | .punct .plus => do
    let (operand, st) ← nested calls.signed (st.behind st.tokens.tail)
    return (.unary .plus operand, st)
  | _ => do
    let (node, st) ← primary scope calls st
    postfixChain scope calls maxHeight node st

/-! ### Operators -/

def chain (operand : Action Node) (operator : Operator) : Nat → Node → Action Node
  | 0, left, st =>
    match operator st.tokens with
    | some (_, r) => failAt r .chainTooLong
    | none => .ok (left, st)
  | links + 1, left, st =>
    match operator st.tokens with
    | some (build, r) => do
      let (right, st) ← operand (st.behind r)
      chain operand operator links (build left right) st
    | none => .ok (left, st)

def chained (operand : Action Node) (operator : Operator) : Action Node := fun st => do
  let (left, st) ← operand st
  chain operand operator maxHeight left st

def concatenation (operand : Action Node) : Action Node :=
  chained (chained (chained (chained operand (punctOperator powerOp)) (punctOperator productOp))
    (punctOperator sumOp)) (punctOperator concatOp)

def range (operand : Action Node) : Action Node := fun st => do
  let (left, st) ← concatenation operand st
  match eatPunct? .range st.tokens with
  | some r => do
    let (right, st) ← concatenation operand (st.behind r)
    return (.binary .range left right, st)
  | none => .ok (left, st)

def testOf (calls : Calls) (target : Node) : Action Node := fun st => do
  let (negated, r) := testSign st.tokens
  let (word, st) ← reading expectName (st.behind r)
  let (name, r) := testName word st.tokens
  let (args, st) ← optionalArgs calls (st.behind r)
  return (.testExpr name target (args.getD []) negated, st)

def compareChain (calls : Calls) (operand : Action Node) : Nat → Node → Action Node
  | 0, left, st =>
    match eatName? "is" st.tokens with
    | some r => failAt r .chainTooLong
    | none =>
      match comparison? st.tokens with
      | some (_, r) => failAt r .chainTooLong
      | none => .ok (left, st)
  | links + 1, left, st =>
    match eatName? "is" st.tokens with
    | some r => do
      let (left, st) ← testOf calls left (st.behind r)
      compareChain calls operand links left st
    | none =>
      match comparison? st.tokens with
      | some (op, r) => do
        let (right, st) ← operand (st.behind r)
        compareChain calls operand links (.binary op left right) st
      | none => .ok (left, st)

def negation (scope : Scope) (calls : Calls) : Action Node := fun st =>
  match eatName? "not" st.tokens with
  | some r => do
    let (operand, st) ← nested calls.negation (st.behind r)
    return (.unary .not operand, st)
  | none => do
    let (left, st) ← range (signed scope calls) st
    compareChain calls (range (signed scope calls)) maxHeight left st

def coalesced (scope : Scope) (calls : Calls) : Action Node :=
  chained (chained (chained (negation scope calls) (logicalOperator .and)) (logicalOperator .or))
    (punctOperator coalesceOp)

/-! ### Conditionals -/

def conditionalRest (scope : Scope) (calls : Calls) (e : Node) (st : State) :
    ConditionalMark → Parsed (Node × State)
  | .elvis => do
    let (orElse, st) ← calls.expr st
    return (.conditional e none (some orElse), st)
  | .question => do
    let (thenNode, st) ← calls.expr st
    match eatPunct? .colon st.tokens with
    | some r => do
      let (orElse, st) ← calls.expr (st.behind r)
      return (.conditional e (some thenNode) (some orElse), st)
    | none => return (.conditional e (some thenNode) none, st)
  | .inlineIf => do
    let (test, st) ← coalesced scope calls st
    match eatName? "else" st.tokens with
    | some r => do
      let (orElse, st) ← calls.expr (st.behind r)
      return (.conditional test (some e) (some orElse), st)
    | none => return (.conditional test (some e) none, st)

def conditionalChain (scope : Scope) (calls : Calls) : Nat → Node → Action Node
  | 0, e, st =>
    match conditionalMark? st.inlineIf st.tokens with
    | some _ => failAt st.tokens.tail .chainTooLong
    | none => .ok (e, st)
  | links + 1, e, st =>
    match conditionalMark? st.inlineIf st.tokens with
    | some mark => do
      let (e, st) ← conditionalRest scope calls e (st.behind st.tokens.tail) mark
      conditionalChain scope calls links e st
    | none => .ok (e, st)

def conditional (scope : Scope) (calls : Calls) : Action Node := fun st => do
  let (e, st) ← coalesced scope calls st
  conditionalChain scope calls maxHeight e st

def bounded (scope : Scope) (calls : Calls) : Action Node := fun st => do
  let (e, after) ← nested (conditional scope calls) st
  if maxHeight < e.height then failAt st.tokens .tooTall else .ok (e, after)

/-- The actions with so many levels left; there are none below the last one. -/
def calls (scope : Scope) : Nat → Calls
  | 0 =>
    let tooDeep := fun st => failAt st.tokens .nestingTooDeep
    ⟨tooDeep, tooDeep, tooDeep⟩
  | levels + 1 =>
    let inner := calls scope levels
    ⟨bounded scope inner, negation scope inner, signed scope inner⟩

/-- An expression, at whatever depth. -/
def expr (scope : Scope) : Action Node := (calls scope maxNesting).expr

/-! ### What an action restores -/

/-- The same failure, or the same value and tokens with the depth and the permission given. -/
def Restores (depth : Nat) (inlineIf : Bool) (x : Parsed (α × State)) (y : Parsed (α × Tokens)) :
    Prop :=
  x = y.map fun a => (a.1, ⟨a.2, depth, inlineIf⟩)

variable {depth : Nat} {inlineIf : Bool}

section Restores

variable {x : Parsed (α × State)} {y : Parsed (α × Tokens)}

lemma restores_ok (a : α) (r : Tokens) :
    Restores depth inlineIf (.ok (a, ⟨r, depth, inlineIf⟩)) (.ok (a, r)) := rfl

lemma restores_error (e : SyntaxError) :
    Restores depth inlineIf (.error e : Parsed (α × State)) (.error e) := rfl

lemma Restores.bind (h : Restores depth inlineIf x y) {f : α × State → Parsed (β × State)}
    {g : α × Tokens → Parsed (β × Tokens)}
    (hf : ∀ a r, Restores depth inlineIf (f (a, ⟨r, depth, inlineIf⟩)) (g (a, r))) :
    Restores depth inlineIf (x >>= f) (y >>= g) := by
  unfold Restores at h
  subst h
  cases y with
  | error e => rfl
  | ok a => exact hf a.1 a.2

lemma restores_reading (reader : Reader α) (ts : Tokens) :
    Restores depth inlineIf (reading reader ⟨ts, depth, inlineIf⟩) (reader ts) := by
  unfold Restores reading
  dsimp only
  cases reader ts <;> rfl

/-- A mark that has to come next, and what comes behind it. -/
lemma restores_expect (p : Punct) {r : Tokens} {f : State → Parsed (β × State)}
    {g : Tokens → Parsed (β × Tokens)}
    (hf : ∀ r, Restores depth inlineIf (f ⟨r, depth, inlineIf⟩) (g r)) :
    Restores depth inlineIf (expect p ⟨r, depth, inlineIf⟩ >>= f) (expectPunct p r >>= g) := by
  unfold expect
  dsimp only
  cases expectPunct p r with
  | error e => rfl
  | ok r' => exact hf r'

/-- The permission is put back, whatever it was set to. -/
lemma restores_withInlineIf {allowed : Bool} {action : Action α} {ts : Tokens}
    (h : Restores depth allowed (action ⟨ts, depth, allowed⟩) y) :
    Restores depth inlineIf (withInlineIf allowed action ⟨ts, depth, inlineIf⟩) y := by
  unfold Restores withInlineIf at *
  dsimp only
  rw [h]
  cases y <;> rfl

/-- What is counted up is counted down again. -/
lemma restores_nested {action : Action α} {ts : Tokens} (hdepth : depth < maxNesting)
    (h : Restores (depth + 1) inlineIf (action ⟨ts, depth + 1, inlineIf⟩) y) :
    Restores depth inlineIf (nested action ⟨ts, depth, inlineIf⟩) y := by
  unfold Restores nested at *
  rw [if_neg (Nat.not_le.2 hdepth)]
  dsimp only
  rw [h]
  cases y <;> rfl

end Restores

/-- The actions do at some depth what readers do that have the nesting left as an argument. -/
structure Calls.Matches (calls : Calls) (inner : Inner) (depth : Nat) : Prop where
  expr : ∀ inlineIf ts,
    Restores depth inlineIf (calls.expr ⟨ts, depth, inlineIf⟩) (inner.expr inlineIf ts)
  negation : ∀ inlineIf ts,
    Restores depth inlineIf (nested calls.negation ⟨ts, depth, inlineIf⟩)
      (inner.negation inlineIf ts)
  signed : ∀ inlineIf ts,
    Restores depth inlineIf (nested calls.signed ⟨ts, depth, inlineIf⟩) (inner.signed inlineIf ts)

/-- An action restores what it finds and gives what a reader gives. -/
abbrev Follows (depth : Nat) (inlineIf : Bool) (action : Action α) (reader : Reader α) : Prop :=
  ∀ ts, Restores depth inlineIf (action ⟨ts, depth, inlineIf⟩) (reader ts)

lemma follows_closedList {item : Action α} {reader : Reader α}
    (h : Follows depth inlineIf item reader) (close : Punct) :
    Follows depth inlineIf (closedList close item) (Syntax.closedList close reader) := by
  -- both loops count the same steps
  have hitems : ∀ steps ts, Restores depth inlineIf
      (closedItems close item steps ⟨ts, depth, inlineIf⟩)
      (rounds (closedRound close reader) steps () ts) := by
    intro steps
    induction steps with
    | zero => exact fun ts => restores_error _
    | succ steps ih =>
      intro ts
      rw [rounds]
      generalize rounds (closedRound close reader) steps = next at ih
      unfold closedItems closedRound
      dsimp only [State.behind]
      cases eatPunct? close ts with
      | some r => exact restores_ok _ r
      | none =>
        refine (h ts).bind fun x r => ?_
        dsimp only
        cases eatPunct? .comma r with
        | some r' => exact (ih r').bind fun xs r => restores_ok _ r
        | none => exact restores_expect close fun r => restores_ok _ r
  exact fun ts => hitems _ ts

/-! ### The actions one by one -/

namespace Calls.Matches

variable {calls : Calls} {inner : Inner} {scope : Scope}

lemma exprAllowed (h : calls.Matches inner depth) :
    Follows depth inlineIf (withInlineIf true calls.expr) (inner.expr true) :=
  fun ts => restores_withInlineIf (h.expr true ts)

lemma callArgs (h : calls.Matches inner depth) :
    Follows depth inlineIf (callArgs calls) (Syntax.callArgs inner) := by
  have hargument : Follows depth true (argument calls) (Syntax.argument inner) :=
    fun ts => h.expr true (argumentStart ts)
  intro ts
  refine restores_expect .openParen fun r => ?_
  exact restores_withInlineIf (follows_closedList hargument .closeParen r)

lemma optionalArgs (h : calls.Matches inner depth) :
    Follows depth inlineIf (optionalArgs calls) (Syntax.optionalArgs inner) := by
  intro ts
  unfold Machine.optionalArgs Syntax.optionalArgs
  dsimp only
  cases isPunct .openParen ts with
  | true => exact (h.callArgs ts).bind fun args r => restores_ok _ r
  | false => exact restores_ok _ ts

lemma hashKey (h : calls.Matches inner depth) :
    Follows depth inlineIf (hashKey calls) (Syntax.hashKey inner inlineIf) := by
  intro ts
  cases ts with
  | nil => exact restores_error _
  | cons t r =>
    unfold Machine.hashKey Syntax.hashKey
    dsimp only [State.behind]
    cases t.token with
    | name s => exact restores_ok _ r
    | str s => exact restores_ok _ r
    | number n => exact restores_ok _ r
    | punct p =>
      cases p with
      | openParen =>
        refine (h.expr inlineIf r).bind fun key r' => ?_
        exact restores_expect .closeParen fun r'' => restores_ok _ r''
      | _ => exact restores_error _
    | _ => exact restores_error _

lemma hashPair (h : calls.Matches inner depth) :
    Follows depth inlineIf (hashPair calls) (Syntax.hashPair inner inlineIf) := by
  intro ts
  refine (h.hashKey ts).bind fun key r => ?_
  obtain ⟨key, shorthand⟩ := key
  dsimp only [State.behind]
  cases eatPunct? .colon r with
  | some r' => exact (h.exprAllowed r').bind fun value r => restores_ok _ r
  | none =>
    cases shorthand with
    | some s => exact restores_ok _ r
    | none => exact restores_error _

lemma named (h : calls.Matches inner depth) (s : String) :
    Follows depth inlineIf (named scope calls s) (Syntax.named scope inner s) := by
  intro ts
  unfold Machine.named Syntax.named
  cases constant? s with
  | some c => exact restores_ok _ ts
  | none =>
    refine (h.optionalArgs ts).bind fun args r => ?_
    cases args with
    | none => exact restores_ok _ r
    | some args =>
      dsimp only
      split
      · exact restores_ok _ r
      · exact restores_ok _ r

lemma primary (h : calls.Matches inner depth) :
    Follows depth inlineIf (primary scope calls) (Syntax.primary scope inner inlineIf) := by
  intro ts
  cases ts with
  | nil => exact restores_error _
  | cons t r =>
    unfold Machine.primary Syntax.primary
    dsimp only [State.behind]
    cases t.token with
    | name s => exact h.named s r
    | str s => exact restores_ok _ r
    | number n => exact restores_ok _ r
    | punct p =>
      cases p with
      | openParen =>
        refine (h.exprAllowed r).bind fun e r' => ?_
        exact restores_expect .closeParen fun r'' => restores_ok _ r''
      | openBracket =>
        exact (follows_closedList h.exprAllowed .closeBracket r).bind fun items r' =>
          restores_ok _ r'
      | openBrace =>
        exact (follows_closedList h.hashPair .closeBrace r).bind fun pairs r' => restores_ok _ r'
      | _ => exact restores_error _
    | _ => exact restores_error _

/-! ### Members, subscripts and filters -/

lemma sliceEnd (h : calls.Matches inner depth) (absent : Bool) :
    Follows depth true (sliceEnd calls absent) (Syntax.sliceEnd inner absent) := by
  intro ts
  cases absent with
  | true => exact restores_ok _ ts
  | false => exact h.expr true ts

lemma sliceOrIndex (h : calls.Matches inner depth) :
    Follows depth true (sliceOrIndex calls) (Syntax.sliceOrIndex inner) := by
  intro ts
  refine (h.sliceEnd _ ts).bind fun low r => ?_
  dsimp only [State.behind]
  cases eatPunct? .colon r with
  | none => exact restores_ok _ r
  | some r' => exact (h.sliceEnd _ r').bind fun high r'' => restores_ok _ r''

lemma filterSegment (h : calls.Matches inner depth) (target : Option Node) :
    Follows depth inlineIf (filterSegment calls target) (Syntax.filterSegment inner target) := by
  intro ts
  refine (restores_reading expectName ts).bind fun name r => ?_
  exact (h.optionalArgs r).bind fun args r' => restores_ok _ r'

lemma postfixPart (h : calls.Matches inner depth) (node : Node) :
    Follows depth inlineIf (postfixPart scope calls node)
      (Syntax.postfixPart scope inner node) := by
  intro ts
  -- what is neither a member nor an index is a filter
  have hfilter : Restores depth inlineIf _ _ := h.filterSegment (some node) ts.tail
  unfold Machine.postfixPart Syntax.postfixPart
  dsimp only [State.behind]
  cases peek ts with
  | punct p =>
    cases p with
    | dot =>
      refine (restores_reading memberName ts.tail).bind fun name r => ?_
      exact (h.optionalArgs r).bind fun args r' => restores_ok _ r'
    | openBracket =>
      refine (restores_withInlineIf (h.sliceOrIndex ts.tail)).bind fun index r => ?_
      exact restores_expect .closeBracket fun r' => restores_ok _ r'
    | _ => exact hfilter
  | _ => exact hfilter

lemma postfixChain (h : calls.Matches inner depth) (links : Nat) (node : Node) :
    Follows depth inlineIf (postfixChain scope calls links node)
      (Syntax.postfixChain scope inner links node) := by
  induction links generalizing node with
  | zero =>
    intro ts
    unfold Machine.postfixChain Syntax.postfixChain
    dsimp only
    split
    · exact restores_error _
    · exact restores_ok _ ts
  | succ links ih =>
    intro ts
    unfold Machine.postfixChain Syntax.postfixChain
    dsimp only
    split
    · exact (h.postfixPart node ts).bind fun next r => ih next r
    · exact restores_ok _ ts

lemma signedRung (h : calls.Matches inner depth) :
    Follows depth inlineIf (Machine.signed scope calls) (Syntax.signed scope inner inlineIf) := by
  intro ts
  -- both signs are read alike, one level further in
  have hsign : ∀ op, Restores depth inlineIf
      (nested calls.signed ⟨ts.tail, depth, inlineIf⟩ >>= fun a => pure (Node.unary op a.1, a.2))
      (inner.signed inlineIf ts.tail >>= fun a => pure (Node.unary op a.1, a.2)) :=
    fun op => (h.signed inlineIf ts.tail).bind fun operand r => restores_ok _ r
  have hplain : Restores depth inlineIf
      (Machine.primary scope calls ⟨ts, depth, inlineIf⟩ >>= fun a =>
        Machine.postfixChain scope calls maxHeight a.1 a.2)
      (postfixed scope inner inlineIf ts) :=
    (h.primary ts).bind fun node r => h.postfixChain maxHeight node r
  unfold Machine.signed Syntax.signed
  dsimp only [State.behind]
  cases peek ts with
  | punct p =>
    cases p with
    | minus => exact hsign .minus
    | plus => exact hsign .plus
    | _ => exact hplain
  | _ => exact hplain

end Calls.Matches

/-! ### Operators -/

section Chains

variable {operand : Action Node} {reader : Reader Node}

lemma follows_chain (h : Follows depth inlineIf operand reader) (operator : Operator) (links : Nat)
    (left : Node) : Follows depth inlineIf (chain operand operator links left)
      (Syntax.chain reader operator links left) := by
  induction links generalizing left with
  | zero =>
    intro ts
    unfold Machine.chain Syntax.chain
    dsimp only
    cases operator ts with
    | some a => exact restores_error _
    | none => exact restores_ok _ ts
  | succ links ih =>
    intro ts
    unfold Machine.chain Syntax.chain
    dsimp only [State.behind]
    cases operator ts with
    | some a => exact (h a.2).bind fun right r => ih _ r
    | none => exact restores_ok _ ts

lemma follows_chained (h : Follows depth inlineIf operand reader) (operator : Operator) :
    Follows depth inlineIf (chained operand operator) (Syntax.chained reader operator) :=
  fun ts => (h ts).bind fun left r => follows_chain h operator maxHeight left r

lemma follows_concatenation (h : Follows depth inlineIf operand reader) :
    Follows depth inlineIf (concatenation operand) (Syntax.concatenation reader) :=
  follows_chained (follows_chained (follows_chained (follows_chained h _) _) _) _

lemma follows_range (h : Follows depth inlineIf operand reader) :
    Follows depth inlineIf (range operand) (Syntax.range reader) := by
  intro ts
  refine (follows_concatenation h ts).bind fun left r => ?_
  dsimp only [State.behind]
  cases eatPunct? .range r with
  | some r' => exact (follows_concatenation h r').bind fun right r'' => restores_ok _ r''
  | none => exact restores_ok _ r

end Chains

namespace Calls.Matches

variable {calls : Calls} {inner : Inner} {scope : Scope}

lemma testOf (h : calls.Matches inner depth) (target : Node) :
    Follows depth inlineIf (testOf calls target) (Syntax.testOf inner target) := by
  intro ts
  refine (restores_reading expectName (testSign ts).2).bind fun word r => ?_
  exact (h.optionalArgs (testName word r).2).bind fun args r' => restores_ok _ r'

lemma compareChain (h : calls.Matches inner depth) {operand : Action Node} {reader : Reader Node}
    (hoperand : Follows depth inlineIf operand reader) (links : Nat) (left : Node) :
    Follows depth inlineIf (compareChain calls operand links left)
      (Syntax.compareChain inner reader links left) := by
  induction links generalizing left with
  | zero =>
    intro ts
    unfold Machine.compareChain Syntax.compareChain
    dsimp only
    cases eatName? "is" ts with
    | some r => exact restores_error _
    | none =>
      cases comparison? ts with
      | some a => exact restores_error _
      | none => exact restores_ok _ ts
  | succ links ih =>
    intro ts
    unfold Machine.compareChain Syntax.compareChain
    dsimp only [State.behind]
    cases eatName? "is" ts with
    | some r => exact (h.testOf left r).bind fun next r' => ih next r'
    | none =>
      cases comparison? ts with
      | some a => exact (hoperand a.2).bind fun right r => ih _ r
      | none => exact restores_ok _ ts

lemma negationRung (h : calls.Matches inner depth) :
    Follows depth inlineIf (Machine.negation scope calls)
      (Syntax.negation scope inner inlineIf) := by
  have hrange : Follows depth inlineIf (range (Machine.signed scope calls))
      (Syntax.range (Syntax.signed scope inner inlineIf)) := follows_range h.signedRung
  intro ts
  unfold Machine.negation Syntax.negation
  dsimp only [State.behind]
  cases eatName? "not" ts with
  | some r => exact (h.negation inlineIf r).bind fun operand r' => restores_ok _ r'
  | none => exact (hrange ts).bind fun left r => h.compareChain hrange maxHeight left r

lemma coalesced (h : calls.Matches inner depth) :
    Follows depth inlineIf (coalesced scope calls) (Syntax.coalesced scope inner inlineIf) :=
  follows_chained (follows_chained (follows_chained h.negationRung _) _) _

/-! ### Conditionals -/

lemma conditionalRest (h : calls.Matches inner depth) (e : Node) (ts : Tokens)
    (mark : ConditionalMark) :
    Restores depth inlineIf (conditionalRest scope calls e ⟨ts, depth, inlineIf⟩ mark)
      (Syntax.conditionalRest scope inner inlineIf e ts mark) := by
  cases mark with
  | elvis => exact (h.expr inlineIf ts).bind fun orElse r => restores_ok _ r
  | question =>
    refine (h.expr inlineIf ts).bind fun thenNode r => ?_
    dsimp only [State.behind]
    cases eatPunct? .colon r with
    | some r' => exact (h.expr inlineIf r').bind fun orElse r'' => restores_ok _ r''
    | none => exact restores_ok _ r
  | inlineIf =>
    refine (h.coalesced ts).bind fun test r => ?_
    dsimp only [State.behind]
    cases eatName? "else" r with
    | some r' => exact (h.expr inlineIf r').bind fun orElse r'' => restores_ok _ r''
    | none => exact restores_ok _ r

lemma conditionalChain (h : calls.Matches inner depth) (links : Nat) (e : Node) :
    Follows depth inlineIf (conditionalChain scope calls links e)
      (Syntax.conditionalChain scope inner inlineIf links e) := by
  induction links generalizing e with
  | zero =>
    intro ts
    unfold Machine.conditionalChain Syntax.conditionalChain
    dsimp only
    cases conditionalMark? inlineIf ts with
    | some mark => exact restores_error _
    | none => exact restores_ok _ ts
  | succ links ih =>
    intro ts
    unfold Machine.conditionalChain Syntax.conditionalChain
    dsimp only [State.behind]
    cases conditionalMark? inlineIf ts with
    | some mark => exact (h.conditionalRest e ts.tail mark).bind fun next r => ih next r
    | none => exact restores_ok _ ts

lemma conditional (h : calls.Matches inner depth) :
    Follows depth inlineIf (conditional scope calls) (Syntax.conditional scope inner inlineIf) :=
  fun ts => (h.coalesced ts).bind fun e r => h.conditionalChain maxHeight e r

/-- An expression is read one level further in than it stands. -/
lemma bounded (h : calls.Matches inner (depth + 1)) (hdepth : depth < maxNesting) :
    Follows depth inlineIf (bounded scope calls) (Syntax.bounded scope inner inlineIf) := by
  intro ts
  refine (restores_nested hdepth (h.conditional ts)).bind fun e r => ?_
  dsimp only
  split
  · exact restores_error _
  · exact restores_ok _ r

end Calls.Matches

end TemplateMetrics.Syntax.Machine
