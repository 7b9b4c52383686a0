import TemplateMetrics.NameMap
import TemplateMetrics.Syntax.Cursor
import TemplateMetrics.Syntax.Tree

/-!
Reading expressions.

The grammar is a ladder of levels, from the conditional down to a primary. Every way back to the
top of the ladder counts as one level of nesting, and nesting is bounded. `Inner` holds the readers
one level further in; each rung is a plain function of it, and `level` ties the knot by recursion
on the nesting that is left.

Chains of operators at one rung are bounded too, so their loops recurse on the links that are left.
-/

namespace TemplateMetrics.Syntax

/-- Nesting accepted of tags and expressions together. -/
def maxNesting : Nat := 128

/-- Height accepted of an expression, and links accepted in one chain. -/
def maxHeight : Nat := 256

/-- Names that make a call the call of a macro. -/
structure Scope where
  /-- Names whose members are macros. -/
  spaces : NameSet
  /-- Names that are macros themselves. -/
  macros : NameSet
deriving DecidableEq

def Scope.start : Scope := ⟨NameSet.ofNames ["_self"], NameMap.empty⟩

/-- Readers of an expression, of the operand of `not`, and of the operand of a sign, one level of
nesting further in. The flag says whether an inline `if` may follow an expression. -/
structure Inner where
  expr : Bool → Reader Node
  negation : Bool → Reader Node
  signed : Bool → Reader Node

/-! ### Calls and primaries -/

/-- Behind the name of an argument, if it has one. -/
def argumentStart : Tokens → Tokens
  | ⟨.name s, p⟩ :: t :: r =>
    if t.token = .punct .assign ∨ t.token = .punct .colon then r else ⟨.name s, p⟩ :: t :: r
  | ts => ts

def argument (inner : Inner) : Reader Node := fun ts => inner.expr true (argumentStart ts)

def callArgs (inner : Inner) : Reader (List Node) := fun ts => do
  let r ← expectPunct .openParen ts
  closedList .closeParen (argument inner) r

def optionalArgs (inner : Inner) : Reader (Option (List Node)) := fun ts =>
  if isPunct .openParen ts then do
    let (args, r) ← callArgs inner ts
    return (some args, r)
  else .ok (none, ts)

def constant? : String → Option Literal
  | "true" | "True" => some (.bool true)
  | "false" | "False" => some (.bool false)
  | "null" | "none" | "None" => some .null
  | _ => none

/-- The key of a hash entry, and the name that may stand for its value. -/
def hashKey (inner : Inner) (inlineIf : Bool) : Reader (Node × Option String)
  | [] => failAt [] (.unexpectedHashKey .eof)
  | t :: r =>
    match t.token with
    | .name s => .ok ((.literal (.str s), some s), r)
    | .str s => .ok ((.literal (.str s), none), r)
    | .number n => .ok ((.literal (.number n), none), r)
    | .punct .openParen => do
      let (key, r) ← inner.expr inlineIf r
      let r ← expectPunct .closeParen r
      return ((key, none), r)
    | other => .error ⟨lineAfter t r, .unexpectedHashKey other⟩

def hashPair (inner : Inner) (inlineIf : Bool) : Reader (Node × Node) := fun ts => do
  let ((key, shorthand), r) ← hashKey inner inlineIf ts
  match eatPunct? .colon r with
  | some r => do
    let (value, r) ← inner.expr true r
    return ((key, value), r)
  | none =>
    match shorthand with
    | some s => .ok ((key, .nameRef s), r)
    | none => failAt r .expectedColon

def named (scope : Scope) (inner : Inner) (s : String) : Reader Node := fun ts =>
  match constant? s with
  | some c => .ok (.literal c, ts)
  | none => do
    match ← optionalArgs inner ts with
    | (none, r) => .ok (.nameRef s, r)
    | (some args, r) =>
      if scope.macros.contains s then .ok (.macroCall none s args, r)
      else .ok (.functionCall s args, r)

def primary (scope : Scope) (inner : Inner) (inlineIf : Bool) : Reader Node
  | [] => failAt [] (.unexpectedInExpression .eof)
  | t :: r =>
    match t.token with
    | .number n => .ok (.literal (.number n), r)
    | .str s => .ok (.literal (.str s), r)
    | .name s => named scope inner s r
    | .punct .openParen => do
      let (e, r) ← inner.expr true r
      let r ← expectPunct .closeParen r
      return (e, r)
    | .punct .openBracket => do
      let (items, r) ← closedList .closeBracket (inner.expr true) r
      return (.list items, r)
    | .punct .openBrace => do
      let (pairs, r) ← closedList .closeBrace (hashPair inner inlineIf) r
      return (.hash pairs, r)
    | other => .error ⟨t.line, .unexpectedInExpression other⟩

/-! ### Members, subscripts and filters -/

/-- A number used as a member name: a whole number up to the largest 64-bit integer without a
point, any other as it prints. -/
def memberNumber (n : Decimal.Numeral) : String :=
  let x := n.toFloat
  match Decimal.Reading.ofFloat x with
  | .finite _ b =>
    let (num, den) := Decimal.Binary.fraction (4 * b.significand) b.exponent
    if num % den = 0 then toString (min (num / den) (Nat.pow 2 63 - 1)) else Decimal.inText.write x
  | _ => Decimal.inText.write x

def memberName : Reader String
  | [] => failAt [] (.expectedMember .eof)
  | t :: r =>
    match t.token with
    | .name s => .ok (s, r)
    | .number n => .ok (memberNumber n, r)
    | other => .error ⟨lineAfter t r, .expectedMember other⟩

/-- A member with perhaps a call; a called member of a macro namespace is a macro. -/
def memberOf (scope : Scope) (object : Node) (name : String) (args : Option (List Node)) : Node :=
  match object, args with
  | .nameRef space, some args =>
    if scope.spaces.contains space then .macroCall (some space) name args
    else .member object name (some args)
  | _, _ => .member object name args

/-- An end of a slice, which may be left out. -/
def sliceEnd (inner : Inner) (absent : Bool) : Reader Node := fun ts =>
  if absent then .ok (.literal .null, ts) else inner.expr true ts

def sliceOrIndex (inner : Inner) : Reader Node := fun ts => do
  let (low, r) ← sliceEnd inner (isPunct .colon ts) ts
  match eatPunct? .colon r with
  | none => .ok (low, r)
  | some r => do
    let (high, r) ← sliceEnd inner (isPunct .closeBracket r) r
    return (.binary .slice low high, r)

def filterSegment (inner : Inner) (target : Option Node) : Reader Node := fun ts => do
  let (name, r) ← expectName ts
  let (args, r) ← optionalArgs inner r
  return (.filterCall name target (args.getD []), r)

def isPostfixMark : Token → Bool
  | .punct .dot | .punct .openBracket | .punct .pipe => true
  | _ => false

def postfixPart (scope : Scope) (inner : Inner) (node : Node) : Reader Node := fun ts =>
  match peek ts with
  | .punct .dot => do
    let (name, r) ← memberName ts.tail
    let (args, r) ← optionalArgs inner r
    return (memberOf scope node name args, r)
  | .punct .openBracket => do
    let (index, r) ← sliceOrIndex inner ts.tail
    let r ← expectPunct .closeBracket r
    return (.subscript node index, r)
  | _ => filterSegment inner (some node) ts.tail

def postfixChain (scope : Scope) (inner : Inner) : Nat → Node → Reader Node
  | 0, node, ts => if isPostfixMark (peek ts) then failAt ts .chainTooLong else .ok (node, ts)
  | links + 1, node, ts =>
    if isPostfixMark (peek ts) then do
      let (node, r) ← postfixPart scope inner node ts
      postfixChain scope inner links node r
    else .ok (node, ts)

def postfixed (scope : Scope) (inner : Inner) (inlineIf : Bool) : Reader Node := fun ts => do
  let (node, r) ← primary scope inner inlineIf ts
  postfixChain scope inner maxHeight node r

def signed (scope : Scope) (inner : Inner) (inlineIf : Bool) : Reader Node := fun ts =>
  match peek ts with
  | .punct .minus => do
    let (operand, r) ← inner.signed inlineIf ts.tail
    return (.unary .minus operand, r)
  | .punct .plus => do
    let (operand, r) ← inner.signed inlineIf ts.tail
    return (.unary .plus operand, r)
  | _ => postfixed scope inner inlineIf ts

/-! ### Operators -/

/-- An operator at the front, as the node it builds, and the tokens after it. -/
abbrev Operator := Tokens → Option ((Node → Node → Node) × Tokens)

def punctOperator (table : Punct → Option BinaryOp) : Operator
  | ⟨.punct p, _⟩ :: r => (table p).map fun op => (.binary op, r)
  | _ => none

/-- Operands joined by operators of one rung, leftmost first. -/
def chain (operand : Reader Node) (operator : Operator) :
    Nat → Node → Reader Node
  | 0, left, ts =>
    match operator ts with
    | some (_, r) => failAt r .chainTooLong
    | none => .ok (left, ts)
  | links + 1, left, ts =>
    match operator ts with
    | some (build, r) => do
      let (right, r) ← operand r
      chain operand operator links (build left right) r
    | none => .ok (left, ts)

def chained (operand : Reader Node) (operator : Operator) : Reader Node := fun ts => do
  let (left, r) ← operand ts
  chain operand operator maxHeight left r

def powerOp : Punct → Option BinaryOp
  | .power => some .power
  | _ => none

def productOp : Punct → Option BinaryOp
  | .times => some .multiply
  | .floorDivide => some .floorDivide
  | .divide => some .divide
  | .modulo => some .modulo
  | _ => none

def sumOp : Punct → Option BinaryOp
  | .plus => some .add
  | .minus => some .subtract
  | _ => none

def concatOp : Punct → Option BinaryOp
  | .tilde => some .concat
  | _ => none

def coalesceOp : Punct → Option BinaryOp
  | .coalesce => some .coalesce
  | _ => none

def compareOp : Punct → Option BinaryOp
  | .equal => some .equal
  | .notEqual => some .notEqual
  | .less => some .less
  | .greater => some .greater
  | .atMost => some .atMost
  | .atLeast => some .atLeast
  | _ => none

def logicalOperator (op : LogicalOp) (ts : Tokens) : Option ((Node → Node → Node) × Tokens) :=
  (eatName? op.text ts).map fun r => (.logical op, r)

def comparison? : Tokens → Option (BinaryOp × Tokens)
  | ⟨.punct p, _⟩ :: r => (compareOp p).map fun op => (op, r)
  | ⟨.name "not", _⟩ :: ⟨.name "in", _⟩ :: r => some (.notIn, r)
  | ⟨.name "starts", _⟩ :: ⟨.name "with", _⟩ :: r => some (.startsWith, r)
  | ⟨.name "ends", _⟩ :: ⟨.name "with", _⟩ :: r => some (.endsWith, r)
  | ⟨.name "in", _⟩ :: r => some (.isIn, r)
  | ⟨.name "matches", _⟩ :: r => some (.matching, r)
  | _ => none

def product (operand : Reader Node) : Reader Node :=
  chained (chained operand (punctOperator powerOp)) (punctOperator productOp)

def concatenation (operand : Reader Node) : Reader Node :=
  chained (chained (product operand) (punctOperator sumOp)) (punctOperator concatOp)

/-- Two operands at most: a range does not chain. -/
def range (operand : Reader Node) : Reader Node := fun ts => do
  let (left, r) ← concatenation operand ts
  match eatPunct? .range r with
  | some r => do
    let (right, r) ← concatenation operand r
    return (.binary .range left right, r)
  | none => .ok (left, r)

/-- Whether a test is negated, behind `is`. -/
def testSign (ts : Tokens) : Bool × Tokens :=
  match eatName? "not" ts with
  | some r => (true, r)
  | none => (false, ts)

/-- The name of a test, to which a second word may belong. -/
def testName (word : String) (ts : Tokens) : String × Tokens :=
  if word = "divisible" ∧ isName "by" ts then ("divisible by", ts.tail)
  else if word = "same" ∧ isName "as" ts then ("same as", ts.tail)
  else (word, ts)

def testOf (inner : Inner) (target : Node) : Reader Node := fun ts => do
  let (negated, r) := testSign ts
  let (word, r) ← expectName r
  let (name, r) := testName word r
  let (args, r) ← optionalArgs inner r
  return (.testExpr name target (args.getD []) negated, r)

/-- Tests and comparisons, leftmost first. -/
def compareChain (inner : Inner) (operand : Reader Node) :
    Nat → Node → Reader Node
  | 0, left, ts =>
    match eatName? "is" ts with
    | some r => failAt r .chainTooLong
    | none =>
      match comparison? ts with
      | some (_, r) => failAt r .chainTooLong
      | none => .ok (left, ts)
  | links + 1, left, ts =>
    match eatName? "is" ts with
    | some r => do
      let (left, r) ← testOf inner left r
      compareChain inner operand links left r
    | none =>
      match comparison? ts with
      | some (op, r) => do
        let (right, r) ← operand r
        compareChain inner operand links (.binary op left right) r
      | none => .ok (left, ts)

def comparisons (scope : Scope) (inner : Inner) (inlineIf : Bool) : Reader Node := fun ts => do
  let operand := range (signed scope inner inlineIf)
  let (left, r) ← operand ts
  compareChain inner operand maxHeight left r

def negation (scope : Scope) (inner : Inner) (inlineIf : Bool) : Reader Node := fun ts =>
  match eatName? "not" ts with
  | some r => do
    let (operand, r) ← inner.negation inlineIf r
    return (.unary .not operand, r)
  | none => comparisons scope inner inlineIf ts

/-- Everything but conditionals. -/
def coalesced (scope : Scope) (inner : Inner) (inlineIf : Bool) : Reader Node :=
  chained (chained (chained (negation scope inner inlineIf) (logicalOperator .and))
    (logicalOperator .or)) (punctOperator coalesceOp)

/-! ### Conditionals -/

inductive ConditionalMark where
  | elvis
  | question
  | inlineIf
deriving DecidableEq

def conditionalMark? (inlineIf : Bool) (ts : Tokens) : Option ConditionalMark :=
  if isPunct .elvis ts then some .elvis
  else if isPunct .question ts then some .question
  else if inlineIf && isName "if" ts then some .inlineIf
  else none

/-- The rest of a conditional whose mark has been read; `e` stands before the mark. -/
def conditionalRest (scope : Scope) (inner : Inner) (inlineIf : Bool) (e : Node) (ts : Tokens) :
    ConditionalMark → Parsed (Node × Tokens)
  | .elvis => do
    let (orElse, r) ← inner.expr inlineIf ts
    return (.conditional e none (some orElse), r)
  | .question => do
    let (thenNode, r) ← inner.expr inlineIf ts
    match eatPunct? .colon r with
    | some r => do
      let (orElse, r) ← inner.expr inlineIf r
      return (.conditional e (some thenNode) (some orElse), r)
    | none => return (.conditional e (some thenNode) none, r)
  | .inlineIf => do
    let (test, r) ← coalesced scope inner inlineIf ts
    match eatName? "else" r with
    | some r => do
      let (orElse, r) ← inner.expr inlineIf r
      return (.conditional test (some e) (some orElse), r)
    | none => return (.conditional test (some e) none, r)

def conditionalChain (scope : Scope) (inner : Inner) (inlineIf : Bool) :
    Nat → Node → Reader Node
  | 0, e, ts =>
    match conditionalMark? inlineIf ts with
    | some _ => failAt ts.tail .chainTooLong
    | none => .ok (e, ts)
  | links + 1, e, ts =>
    match conditionalMark? inlineIf ts with
    | some mark => do
      let (e, r) ← conditionalRest scope inner inlineIf e ts.tail mark
      conditionalChain scope inner inlineIf links e r
    | none => .ok (e, ts)

def conditional (scope : Scope) (inner : Inner) (inlineIf : Bool) : Reader Node := fun ts => do
  let (e, r) ← coalesced scope inner inlineIf ts
  conditionalChain scope inner inlineIf maxHeight e r

/-! ### The knot -/

def bounded (scope : Scope) (inner : Inner) (inlineIf : Bool) : Reader Node := fun ts => do
  let (e, r) ← conditional scope inner inlineIf ts
  if maxHeight < e.height then failAt ts .tooTall else .ok (e, r)

/-- The readers available with so much nesting left. -/
def level (scope : Scope) : Nat → Inner
  | 0 =>
    let tooDeep := fun _ ts => failAt ts .nestingTooDeep
    ⟨tooDeep, tooDeep, tooDeep⟩
  | room + 1 =>
    let inner := level scope room
    ⟨bounded scope inner, negation scope inner, signed scope inner⟩

end TemplateMetrics.Syntax
