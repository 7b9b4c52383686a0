import TemplateMetrics.Decimal.Numeral

/-!
Syntax trees of templates.

`Node` is a closed set of node kinds. Everything that walks a whole tree goes through `Node.fold`,
the one recursion over it; `Node.fold_eq` says what it does in terms of `Node.children`, and
`Node.induct` is the matching induction.
-/

namespace TemplateMetrics.Syntax

inductive Literal where
  | str (s : String)
  | number (n : Decimal.Numeral)
  | bool (b : Bool)
  | null
deriving Repr, DecidableEq

inductive LogicalOp where
  | and
  | or
deriving Repr, DecidableEq

inductive UnaryOp where
  | not
  | minus
  | plus
deriving Repr, DecidableEq

/-- Operators between two operands, the slice colon included. -/
inductive BinaryOp where
  | coalesce
  | equal | notEqual | less | greater | atMost | atLeast
  | notIn | startsWith | endsWith | isIn | matching
  | range | concat | add | subtract | multiply | floorDivide | divide | modulo | power
  | slice
deriving Repr, DecidableEq

def LogicalOp.text : LogicalOp → String
  | .and => "and"
  | .or => "or"

def UnaryOp.text : UnaryOp → String
  | .not => "not"
  | .minus => "-"
  | .plus => "+"

def BinaryOp.text : BinaryOp → String
  | .coalesce => "??" | .equal => "==" | .notEqual => "!=" | .less => "<" | .greater => ">"
  | .atMost => "<=" | .atLeast => ">=" | .notIn => "not in" | .startsWith => "starts with"
  | .endsWith => "ends with" | .isIn => "in" | .matching => "matches" | .range => ".."
  | .concat => "~" | .add => "+" | .subtract => "-" | .multiply => "*" | .floorDivide => "//"
  | .divide => "/" | .modulo => "%" | .power => "**" | .slice => ":"

/-- How an include or an embed passes variables on. -/
structure IncludeOptions where
  withContext : Bool
  ignoreMissing : Bool
deriving Repr, DecidableEq

inductive Node where
  /-- A whole template. -/
  | template (body : List Node)
  /-- Text between constructs. -/
  | text (s : String)
  | output (expr : Node)
  /-- A conditional tag; an `elseif` is a conditional tag alone in `orElse`. -/
  | ifTag (test : Node) (body orElse : List Node)
  | forTag (targets : List String) (iter : Node) (condition : Option Node)
      (body orElse : List Node)
  | block (name : String) (body : List Node)
  | macroTag (name : String) (params : List String) (defaults body : List Node)
  /-- A call of an imported or local macro, under a namespace or bare. -/
  | macroCall (space : Option String) (name : String) (args : List Node)
  | functionCall (name : String) (args : List Node)
  /-- A filter; it has no target at the head of an `apply` or `filter` tag. -/
  | filterCall (name : String) (target : Option Node) (args : List Node)
  | testExpr (name : String) (target : Node) (args : List Node) (negated : Bool)
  | includeTag (target : Node) (passed : Option Node) (options : IncludeOptions)
  | embedTag (target : Node) (passed : Option Node) (options : IncludeOptions)
      (body : List Node)
  | extendsTag (target : Node)
  /-- `import … as localName`, or `from … import` with local names. -/
  | importTag (target : Node) (localName : Option String) (names : List (String × Option String))
  | setTag (targets : List String) (value : Option Node) (body : List Node)
  | nameRef (name : String)
  | conditional (test : Node) (thenNode orElse : Option Node)
  | logical (op : LogicalOp) (left right : Node)
  | unary (op : UnaryOp) (operand : Node)
  | binary (op : BinaryOp) (left right : Node)
  /-- A member of an object, called when it has arguments. -/
  | member (object : Node) (name : String) (args : Option (List Node))
  | subscript (object index : Node)
  | literal (value : Literal)
  | list (items : List Node)
  | hash (pairs : List (Node × Node))
  /-- Any other tag. -/
  | container (tag : String) (args body : List Node)
deriving Repr

instance : Inhabited Node := ⟨.template []⟩

namespace Node

def kind : Node → String
  | .template .. => "template"
  | .text .. => "text"
  | .output .. => "output"
  | .ifTag .. => "if"
  | .forTag .. => "for"
  | .block .. => "block"
  | .macroTag .. => "macro"
  | .macroCall .. => "macro_call"
  | .functionCall .. => "function_call"
  | .filterCall .. => "filter_call"
  | .testExpr .. => "test_expr"
  | .includeTag .. => "include"
  | .embedTag .. => "embed"
  | .extendsTag .. => "extends"
  | .importTag .. => "import"
  | .setTag .. => "set"
  | .nameRef .. => "name_ref"
  | .conditional .. => "conditional"
  | .logical .. => "logical"
  | .unary .. => "unary"
  | .binary .. => "binary"
  | .member .. => "attribute"
  | .subscript .. => "subscript"
  | .literal .. => "literal"
  | .list .. => "list"
  | .hash .. => "hash"
  | .container .. => "container"

def children : Node → List Node
  | .template body => body
  | .text _ => []
  | .output expr => [expr]
  | .ifTag test body orElse => test :: (body ++ orElse)
  | .forTag _ iter condition body orElse => iter :: (condition.toList ++ body ++ orElse)
  | .block _ body => body
  | .macroTag _ _ defaults body => defaults ++ body
  | .macroCall _ _ args => args
  | .functionCall _ args => args
  | .filterCall _ target args => target.toList ++ args
  | .testExpr _ target args _ => target :: args
  | .includeTag target passed _ => target :: passed.toList
  | .embedTag target passed _ body => target :: (passed.toList ++ body)
  | .extendsTag target => [target]
  | .importTag target _ _ => [target]
  | .setTag _ value body => value.toList ++ body
  | .nameRef _ => []
  | .conditional test thenNode orElse => test :: (thenNode.toList ++ orElse.toList)
  | .logical _ left right => [left, right]
  | .unary _ operand => [operand]
  | .binary _ left right => [left, right]
  | .member object _ args => object :: args.getD []
  | .subscript object index => [object, index]
  | .literal _ => []
  | .list items => items
  | .hash pairs => pairs.flatMap fun p => [p.1, p.2]
  | .container _ args body => args ++ body

/-! ### The recursion over a tree -/

variable {β : Type}

mutual

/-- Fold a tree from its leaves: `f` gets a node and the results of its children in order. -/
def fold (f : Node → List β → β) : Node → β
  | .template body => f (.template body) (foldList f body)
  | .text s => f (.text s) []
  | .output expr => f (.output expr) [fold f expr]
  | .ifTag test body orElse =>
    f (.ifTag test body orElse) (fold f test :: (foldList f body ++ foldList f orElse))
  | .forTag targets iter condition body orElse =>
    f (.forTag targets iter condition body orElse)
      (fold f iter :: (foldOption f condition ++ foldList f body ++ foldList f orElse))
  | .block name body => f (.block name body) (foldList f body)
  | .macroTag name params defaults body =>
    f (.macroTag name params defaults body) (foldList f defaults ++ foldList f body)
  | .macroCall space name args => f (.macroCall space name args) (foldList f args)
  | .functionCall name args => f (.functionCall name args) (foldList f args)
  | .filterCall name target args =>
    f (.filterCall name target args) (foldOption f target ++ foldList f args)
  | .testExpr name target args negated =>
    f (.testExpr name target args negated) (fold f target :: foldList f args)
  | .includeTag target passed options =>
    f (.includeTag target passed options) (fold f target :: foldOption f passed)
  | .embedTag target passed options body =>
    f (.embedTag target passed options body)
      (fold f target :: (foldOption f passed ++ foldList f body))
  | .extendsTag target => f (.extendsTag target) [fold f target]
  | .importTag target localName names => f (.importTag target localName names) [fold f target]
  | .setTag targets value body =>
    f (.setTag targets value body) (foldOption f value ++ foldList f body)
  | .nameRef name => f (.nameRef name) []
  | .conditional test thenNode orElse =>
    f (.conditional test thenNode orElse)
      (fold f test :: (foldOption f thenNode ++ foldOption f orElse))
  | .logical op left right => f (.logical op left right) [fold f left, fold f right]
  | .unary op operand => f (.unary op operand) [fold f operand]
  | .binary op left right => f (.binary op left right) [fold f left, fold f right]
  | .member object name args =>
    f (.member object name args) (fold f object :: foldArgs f args)
  | .subscript object index => f (.subscript object index) [fold f object, fold f index]
  | .literal value => f (.literal value) []
  | .list items => f (.list items) (foldList f items)
  | .hash pairs => f (.hash pairs) (foldPairs f pairs)
  | .container tag args body => f (.container tag args body) (foldList f args ++ foldList f body)

def foldList (f : Node → List β → β) : List Node → List β
  | [] => []
  | n :: r => fold f n :: foldList f r

def foldOption (f : Node → List β → β) : Option Node → List β
  | none => []
  | some n => [fold f n]

def foldArgs (f : Node → List β → β) : Option (List Node) → List β
  | none => []
  | some args => foldList f args

def foldPairs (f : Node → List β → β) : List (Node × Node) → List β
  | [] => []
  | (k, v) :: r => fold f k :: fold f v :: foldPairs f r

end

@[simp] theorem foldList_eq (f : Node → List β → β) (l : List Node) :
    foldList f l = l.map (fold f) := by
  induction l with
  | nil => rfl
  | cons n r ih => simp [foldList, ih]

@[simp] theorem foldOption_eq (f : Node → List β → β) (o : Option Node) :
    foldOption f o = o.toList.map (fold f) := by
  cases o <;> simp [foldOption]

@[simp] theorem foldArgs_eq (f : Node → List β → β) (o : Option (List Node)) :
    foldArgs f o = (o.getD []).map (fold f) := by
  cases o <;> simp [foldArgs]

@[simp] theorem foldPairs_eq (f : Node → List β → β) (l : List (Node × Node)) :
    foldPairs f l = (l.flatMap fun p => [p.1, p.2]).map (fold f) := by
  induction l with
  | nil => rfl
  | cons p r ih => obtain ⟨k, v⟩ := p; simp [foldPairs, ih]

/-- A fold gives each node the results of its children. -/
theorem fold_eq (f : Node → List β → β) (n : Node) :
    n.fold f = f n (n.children.map (fold f)) := by
  cases n <;> simp [fold, children]

theorem sizeOf_lt_of_mem_children {c n : Node} (h : c ∈ n.children) : sizeOf c < sizeOf n := by
  have mem : ∀ {l : List Node}, c ∈ l → sizeOf c < sizeOf l := List.sizeOf_lt_of_mem
  have opt : ∀ {o : Option Node}, o = some c → sizeOf c < sizeOf o := by
    rintro _ rfl
    simp
  have args : ∀ {o : Option (List Node)}, c ∈ o.getD [] → sizeOf c < sizeOf o := by
    rintro (_ | l) hl
    · simp at hl
    · have := mem hl
      simp at this ⊢
      omega
  have pairs : ∀ {l : List (Node × Node)}, c ∈ (l.flatMap fun p => [p.1, p.2]) →
      sizeOf c < sizeOf l := by
    intro l hl
    obtain ⟨⟨k, v⟩, hp, hc⟩ := List.mem_flatMap.1 hl
    have := List.sizeOf_lt_of_mem hp
    rcases List.mem_cons.1 hc with rfl | hc
    · simp at this ⊢
      omega
    · obtain rfl := List.mem_singleton.1 hc
      simp at this ⊢
      omega
  cases n <;> simp only [children, List.mem_cons, List.mem_append, Option.mem_toList,
    List.not_mem_nil, or_false] at h <;> grind [Node]

/-- Induction over a tree: a property that passes from the children to their parent holds of
every node. -/
theorem induct {P : Node → Prop} (step : ∀ n : Node, (∀ c ∈ n.children, P c) → P n) (n : Node) :
    P n :=
  step n fun c _ => induct step c
termination_by sizeOf n
decreasing_by exact sizeOf_lt_of_mem_children (by assumption)

/-! ### Measures -/

def size : Node → Nat := fold fun _ sizes => 1 + sizes.foldl (· + ·) 0

/-- Nodes on the longest way from the root to a leaf. -/
def height : Node → Nat := fold fun _ heights => 1 + heights.foldl max 0

/-- Operands joined by `and` and `or` at the top of an expression. -/
def conditionArity : Node → Nat
  | .logical _ left right => left.conditionArity + right.conditionArity
  | _ => 1

def strLiteral? : Node → Option String
  | .literal (.str s) => some s
  | _ => none

/-! ### Walks -/

end Node

inductive Event where
  | enter (n : Node)
  | leave (n : Node)

/-- The walk over a tree: each node is entered before its children and left after them. -/
def Node.events (n : Node) : List Event :=
  n.fold (fun n walks rest =>
    .enter n :: walks.foldr (fun walk rest => walk rest) (.leave n :: rest)) []

end TemplateMetrics.Syntax
