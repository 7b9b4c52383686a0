import TemplateMetrics.Proofs.Walk
import TemplateMetrics.Syntax.Tokenizer

/-!
Expressions written out.

An expression is laid out as lexemes, with every operand, argument, item, key and value in
parentheses of its own, and the lexemes are then spelled. So the text and the tokens of an
expression are two views of one list, `layout`.
-/

namespace TemplateMetrics.Syntax

/-! ### Lexemes -/

/-- The two marks that may stand around a string. -/
inductive Quote where
  | double
  | single
deriving Repr, DecidableEq

def Quote.mark : Quote → Char
  | .double => '"'
  | .single => '\''

/-- A piece of an expression as it is written. -/
inductive Lexeme where
  | space
  | mark (p : Punct)
  | word (s : String)
  | quoted (s : String)
deriving Repr, DecidableEq

/-- A backslash before every quote mark and every backslash. -/
def escape (quote : Quote) (cs : List Char) : List Char :=
  cs.flatMap fun c => if c = quote.mark ∨ c = '\\' then ['\\', c] else [c]

def Lexeme.text (quote : Quote) : Lexeme → List Char
  | .space => [' ']
  | .mark p => p.text.toList
  | .word s => s.toList
  | .quoted s => quote.mark :: (escape quote s.toList ++ [quote.mark])

def Lexeme.token? : Lexeme → Option Token
  | .space => none
  | .mark p => some (.punct p)
  | .word s => some (.name s)
  | .quoted s => some (.str s)

def spell (quote : Quote) (ls : List Lexeme) : List Char := ls.flatMap (·.text quote)

def tokensOf (ls : List Lexeme) : List Token := ls.filterMap (·.token?)

@[simp] lemma spell_nil (quote : Quote) : spell quote [] = [] := rfl

@[simp] lemma spell_cons (quote : Quote) (l : Lexeme) (ls : List Lexeme) :
    spell quote (l :: ls) = l.text quote ++ spell quote ls := rfl

@[simp] lemma spell_append (quote : Quote) (a b : List Lexeme) :
    spell quote (a ++ b) = spell quote a ++ spell quote b := List.flatMap_append

@[simp] lemma tokensOf_nil : tokensOf [] = [] := rfl

@[simp] lemma tokensOf_cons (l : Lexeme) (ls : List Lexeme) :
    tokensOf (l :: ls) = l.token?.toList ++ tokensOf ls := by
  cases l <;> rfl

@[simp] lemma tokensOf_append (a b : List Lexeme) :
    tokensOf (a ++ b) = tokensOf a ++ tokensOf b := List.filterMap_append

/-! ### Layout -/

def enclosed (opening closing : Punct) (ls : List Lexeme) : List Lexeme :=
  .mark opening :: (ls ++ [.mark closing])

def parens (ls : List Lexeme) : List Lexeme := enclosed .openParen .closeParen ls

/-- Parts with commas between them. -/
def commas : List (List Lexeme) → List Lexeme
  | [] => []
  | [part] => part
  | part :: r => part ++ (.mark .comma :: .space :: commas r)

/-- The arguments of a call, which may be none. -/
def arguments (parts : List (List Lexeme)) : List Lexeme := parens (commas (parts.map parens))

/-- The arguments of a filter or a test, which has no parentheses without them. -/
def argumentsIfAny : List (List Lexeme) → List Lexeme
  | [] => []
  | parts => arguments parts

/-- Keys and values in turn, as the entries of a hash. -/
def entries : List (List Lexeme) → List (List Lexeme)
  | key :: value :: r => (parens key ++ (.mark .colon :: .space :: parens value)) :: entries r
  | _ => []

def BinaryOp.lexemes : BinaryOp → List Lexeme
  | .coalesce => [.mark .coalesce]
  | .equal => [.mark .equal]
  | .notEqual => [.mark .notEqual]
  | .less => [.mark .less]
  | .greater => [.mark .greater]
  | .atMost => [.mark .atMost]
  | .atLeast => [.mark .atLeast]
  | .notIn => [.word "not", .space, .word "in"]
  | .startsWith => [.word "starts", .space, .word "with"]
  | .endsWith => [.word "ends", .space, .word "with"]
  | .isIn => [.word "in"]
  | .matching => [.word "matches"]
  | .range => [.mark .range]
  | .concat => [.mark .tilde]
  | .add => [.mark .plus]
  | .subtract => [.mark .minus]
  | .multiply => [.mark .times]
  | .floorDivide => [.mark .floorDivide]
  | .divide => [.mark .divide]
  | .modulo => [.mark .modulo]
  | .power => [.mark .power]
  | .slice => [.mark .colon]

/-- Two parts in parentheses with an operator between them. -/
def joined (left operator right : List Lexeme) : List Lexeme :=
  parens left ++ (.space :: (operator ++ (.space :: parens right)))

/-- A node around its children, which are laid out already. -/
def arrange : Node → List (List Lexeme) → List Lexeme
  | .nameRef s, _ => [.word s]
  | .literal (.str s), _ => [.quoted s]
  | .logical op _ _, [left, right] => joined left [.word op.text] right
  | .unary .not _, [operand] => .word "not" :: .space :: parens operand
  | .unary .minus _, [operand] => .mark .minus :: parens operand
  | .unary .plus _, [operand] => .mark .plus :: parens operand
  | .binary op _ _, [left, right] => joined left op.lexemes right
  | .conditional _ (some _) (some _), [test, thenPart, orElse] =>
    joined test [.mark .question] thenPart ++ (.space :: .mark .colon :: .space :: parens orElse)
  | .conditional _ (some _) none, [test, thenPart] => joined test [.mark .question] thenPart
  | .conditional _ none (some _), [test, orElse] => joined test [.mark .elvis] orElse
  | .filterCall name _ _, target :: args =>
    parens target ++ (.mark .pipe :: .word name :: argumentsIfAny args)
  | .testExpr name _ _ negated, target :: args =>
    parens target ++ (.space :: .word "is" :: .space ::
      ((if negated then [.word "not", .space] else []) ++ (.word name :: argumentsIfAny args)))
  | .member _ name none, [object] => parens object ++ [.mark .dot, .word name]
  | .member _ name (some _), object :: args =>
    parens object ++ (.mark .dot :: .word name :: arguments args)
  | .subscript _ _, [object, index] =>
    parens object ++ enclosed .openBracket .closeBracket (parens index)
  | .functionCall name _, args => .word name :: arguments args
  | .list _, items => enclosed .openBracket .closeBracket (commas (items.map parens))
  | .hash _, parts => enclosed .openBrace .closeBrace (commas (entries parts))
  | _, _ => []

def layout : Node → List Lexeme := Node.fold arrange

lemma layout_eq (n : Node) : layout n = arrange n (n.children.map layout) := Node.fold_eq ..

/-- The text of an expression. -/
def render (quote : Quote) (e : Node) : String := String.ofList (spell quote (layout e))

/-! ### Expressions that can be written -/

/-- A letter or an underscore, and then letters, numbers and underscores. -/
def isIdentifier (s : String) : Bool :=
  match s.toList with
  | [] => false
  | c :: r => Text.isNameStart c && r.all Text.isNamePart

/-- Words that stand for something else where a name is expected. -/
def reservedWords : List String :=
  ["not", "true", "True", "false", "False", "null", "none", "None"]

def isFreeName (s : String) : Bool := isIdentifier s && !reservedWords.contains s

/-- Whether a node can be written around its children. A called member of `_self` is no member but
a macro. -/
def Node.isWritable : Node → Bool
  | .nameRef s => isFreeName s
  | .literal (.str _) => true
  | .logical .. | .unary .. | .subscript .. | .list _ | .hash _ => true
  | .binary op _ _ => op ≠ .slice
  | .conditional _ thenNode orElse => thenNode.isSome || orElse.isSome
  | .filterCall name target _ => isFreeName name && target.isSome
  | .testExpr name _ _ _ => isFreeName name
  | .member (.nameRef object) name (some _) => isFreeName name && object ≠ "_self"
  | .member _ name _ => isFreeName name
  | .functionCall name _ => isFreeName name
  | _ => false

/-- An expression that can be written: each of its nodes can. -/
def Node.Writable (e : Node) : Prop := ∀ n ∈ e.nodes, n.isWritable = true

instance (e : Node) : Decidable e.Writable := inferInstanceAs (Decidable (∀ n ∈ e.nodes, _))

lemma Node.Writable.self {e : Node} (h : e.Writable) : e.isWritable = true :=
  h e e.mem_nodes_self

lemma Node.Writable.child {e c : Node} (h : e.Writable) (hc : c ∈ e.children) : c.Writable := by
  intro n hn
  refine h n ?_
  rw [Node.nodes_eq]
  exact List.mem_cons_of_mem _ (List.mem_flatMap.2 ⟨c, hc, hn⟩)

end TemplateMetrics.Syntax
