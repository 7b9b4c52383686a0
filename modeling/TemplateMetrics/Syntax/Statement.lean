import TemplateMetrics.Syntax.Expression
import TemplateMetrics.Syntax.Tokenizer

/-!
Reading tags and whole templates.

A tag counts as one level of nesting, as does each `elseif` of a conditional. `Context` holds what
can be read inside a tag, and `context` ties the knot by recursion on the nesting that is left.

Macros that a template defines or imports change how later calls read, so the readers of this file
pass the names on in document order.
-/

namespace TemplateMetrics.Syntax

/-- A reader that may add to the macro names in scope. -/
abbrev ScopedReader (α : Type) := Scope → Tokens → Parsed (α × Scope × Tokens)

/-- What can be read at one level of nesting: expressions, and one level further in, a tag whose
name has been read and the rest of a conditional. -/
structure Context where
  inner : Scope → Inner
  tag : String → ScopedReader Node
  branch : ScopedReader Node

def Context.expr (ctx : Context) (scope : Scope) : Reader Node := (ctx.inner scope).expr true

/-- Tags that never open anything. -/
def isStray (name : String) : Bool :=
  name.startsWith "end" || name == "else" || name == "elseif" || name == "elif"

/-- What comes next in a body: a node, or the tag that ends it. The end of the template has no
name. -/
inductive BodyItem where
  | node (n : Node)
  | ending (tag : String)

def bodyItem (ctx : Context) (ends : List String) : ScopedReader BodyItem
  | _, [] => failAt [] (.unexpectedEnd ends)
  | scope, t :: r =>
    match t.token with
    | .eof =>
      if ends.isEmpty then .ok (.ending "", scope, r) else .error ⟨t.line, .unexpectedEnd ends⟩
    | .text s => .ok (.node (.text s), scope, r)
    | .outputStart => do
      let (e, r) ← ctx.expr scope r
      if peek r = .outputEnd then return (.node (.output e), scope, r.tail)
      else .error ⟨t.line, .expectedOutputEnd⟩
    | .tagStart => do
      let (name, r) ← expectName r
      if ends.contains name then return (.ending name, scope, r)
      else if isStray name then .error ⟨t.line, .unexpectedTag name⟩
      else
        let (node, scope, r) ← ctx.tag name scope r
        return (.node node, scope, r)
    | other => .error ⟨t.line, .unexpectedToken other⟩

def bodyRound (ctx : Context) (ends : List String) :
    Round Scope ((List Node × String) × Scope × Tokens) := fun next scope ts => do
  match ← bodyItem ctx ends scope ts with
  | (.ending tag, scope, r) => return (([], tag), scope, r)
  | (.node n, scope, r) =>
    let ((body, tag), scope, r) ← next scope r
    return ((n :: body, tag), scope, r)

/-- Nodes up to a tag of `ends`, and the name of that tag; with no `ends`, up to the end of the
template. -/
def readBody (ctx : Context) (ends : List String) : ScopedReader (List Node × String) :=
  loop (bodyRound ctx ends)

/-- A body, and the rest of the tag that ends it, which may repeat a name. -/
def closedBody (ctx : Context) (endTag : String) (mayRepeat : Bool) : ScopedReader (List Node) :=
  fun scope ts => do
    let ((body, _), scope, r) ← readBody ctx [endTag] scope ts
    let r ← expectTagEnd (if mayRepeat then skipAnyName r else r)
    return (body, scope, r)

/-! ### Control flow -/

def readIf (ctx : Context) : ScopedReader Node := fun scope ts => do
  let (test, r) ← ctx.expr scope ts
  let r ← expectTagEnd r
  let ((body, tag), scope, r) ← readBody ctx ["elseif", "elif", "else", "endif"] scope r
  if tag = "elseif" ∨ tag = "elif" then
    let (next, scope, r) ← ctx.branch scope r
    return (.ifTag test body [next], scope, r)
  else if tag = "else" then
    let r ← expectTagEnd r
    let (orElse, scope, r) ← closedBody ctx "endif" false scope r
    return (.ifTag test body orElse, scope, r)
  else
    let r ← expectTagEnd r
    return (.ifTag test body [], scope, r)

def loopCondition (expr : Reader Node) : Reader (Option Node) := fun ts =>
  match eatName? "if" ts with
  | some r => do
    let (e, r) ← expr r
    return (some e, r)
  | none => .ok (none, ts)

def readFor (ctx : Context) : ScopedReader Node := fun scope ts => do
  let (targets, r) ← commaList expectName ts
  let some r := eatName? "in" r | failAt r .expectedIn
  let (iter, r) ← (ctx.inner scope).expr false r
  let (condition, r) ← loopCondition (ctx.expr scope) r
  let r ← expectTagEnd (skipName "recursive" r)
  let ((body, tag), scope, r) ← readBody ctx ["else", "endfor"] scope r
  if tag = "else" then
    let r ← expectTagEnd r
    let (orElse, scope, r) ← closedBody ctx "endfor" false scope r
    return (.forTag targets iter condition body orElse, scope, r)
  else
    let r ← expectTagEnd r
    return (.forTag targets iter condition body [], scope, r)

/-! ### Definitions -/

def skipBlockMarks : Tokens → Tokens
  | ⟨.name "scoped", _⟩ :: r => skipBlockMarks r
  | ⟨.name "required", _⟩ :: r => skipBlockMarks r
  | ts => ts

def readBlock (ctx : Context) : ScopedReader Node := fun scope ts => do
  let (name, r) ← expectName ts
  let r := skipBlockMarks r
  if peek r = .tagEnd then
    let (body, scope, r) ← closedBody ctx "endblock" true scope r.tail
    return (.block name body, scope, r)
  else
    let (e, r) ← ctx.expr scope r
    let r ← expectTagEnd r
    return (.block name [.output e], scope, r)

def parameter (ctx : Context) (scope : Scope) : Reader (String × Option Node) := fun ts => do
  let (name, r) ← expectName ts
  match eatPunct? .assign r with
  | some r => do
    let (e, r) ← ctx.expr scope r
    return ((name, some e), r)
  | none => return ((name, none), r)

def parameters (ctx : Context) (scope : Scope) : Reader (List (String × Option Node)) :=
  fun ts => do
    let r ← expectPunct .openParen ts
    match eatPunct? .closeParen r with
    | some r => return ([], r)
    | none => do
      let (params, r) ← commaList (parameter ctx scope) r
      let r ← expectPunct .closeParen r
      return (params, r)

/-- A macro; its name is in scope behind it. -/
def readMacro (ctx : Context) : ScopedReader Node := fun scope ts => do
  let (name, r) ← expectName ts
  let (params, r) ← parameters ctx scope r
  let r ← expectTagEnd r
  let (body, scope, r) ← closedBody ctx "endmacro" true scope r
  return (.macroTag name (params.map (·.1)) (params.filterMap (·.2)) body,
    { scope with macros := scope.macros.add name }, r)

def readSet (ctx : Context) : ScopedReader Node := fun scope ts => do
  let (targets, r) ← commaList expectName ts
  match eatPunct? .assign r with
  | some r => do
    let (values, r) ← commaList (ctx.expr scope) r
    let r ← expectTagEnd r
    let value := match values with
      | [v] => v
      | _ => .list values
    return (.setTag targets (some value) [], scope, r)
  | none => do
    let r ← expectTagEnd r
    let (body, scope, r) ← closedBody ctx "endset" false scope r
    return (.setTag targets none body, scope, r)

/-! ### Other templates -/

/-- What the clauses of an include or an embed say: what is passed on, and how. -/
abbrev Clauses := Option Node × IncludeOptions

def clauseRound (ctx : Context) (scope : Scope) : Round Clauses (Clauses × Tokens) :=
  fun next (passed, options) ts =>
    match eatName? "ignore" ts, eatName? "with" ts, eatName? "without" ts, eatName? "only" ts with
    | some r, _, _, _ =>
      match eatName? "missing" r with
      | some r => next (passed, { options with ignoreMissing := true }) r
      | none => failAt r .expectedMissing
    | none, some r, _, _ =>
      match eatName? "context" r with
      | some r => next (passed, options) r
      | none => do
        let (e, r) ← ctx.expr scope r
        next (some e, options) r
    | none, none, some r, _ =>
      next (passed, { options with withContext := false }) (skipName "context" r)
    | none, none, none, some r => next (passed, { options with withContext := false }) r
    | none, none, none, none => .ok ((passed, options), ts)

/-- The clauses behind the target of an include or an embed, in any order and number, on top of what
holds without them. -/
def includeClauses (ctx : Context) (scope : Scope) : Clauses → Reader Clauses :=
  loop (clauseRound ctx scope)

/-- The target of an include or an embed, its clauses, and the end of the tag. -/
def includeHead (ctx : Context) (scope : Scope) :
    Reader (Node × Option Node × IncludeOptions) := fun ts => do
  let (target, r) ← ctx.expr scope ts
  let ((passed, options), r) ← includeClauses ctx scope (none, ⟨true, false⟩) r
  let r ← expectTagEnd r
  return ((target, passed, options), r)

def readInclude (ctx : Context) : ScopedReader Node := fun scope ts => do
  let ((target, passed, options), r) ← includeHead ctx scope ts
  return (.includeTag target passed options, scope, r)

def readEmbed (ctx : Context) : ScopedReader Node := fun scope ts => do
  let ((target, passed, options), r) ← includeHead ctx scope ts
  let (body, scope, r) ← closedBody ctx "endembed" false scope r
  return (.embedTag target passed options body, scope, r)

def readExtends (ctx : Context) : ScopedReader Node := fun scope ts => do
  let (target, r) ← ctx.expr scope ts
  let r ← expectTagEnd r
  return (.extendsTag target, scope, r)

def skipContextClause (ts : Tokens) : Tokens :=
  match eatName? "with" ts, eatName? "without" ts with
  | some r, _ => skipName "context" r
  | none, some r => skipName "context" r
  | none, none => ts

/-- An import of a whole template under a name, whose members are macros behind it. -/
def readImport (ctx : Context) : ScopedReader Node := fun scope ts => do
  let (target, r) ← ctx.expr scope ts
  let some r := eatName? "as" r | failAt r .expectedAs
  let (localName, r) ← expectName r
  let r ← expectTagEnd (skipContextClause r)
  let scope := { scope with spaces := scope.spaces.add localName }
  return (.importTag target (some localName) [], scope, r)

def importedName : Reader (String × Option String) := fun ts => do
  let (name, r) ← expectName ts
  match eatName? "as" r with
  | some r => do
    let (localName, r) ← expectName r
    return ((name, some localName), r)
  | none => return ((name, none), r)

/-- An import of single macros, in scope behind it under their local names. -/
def readFrom (ctx : Context) : ScopedReader Node := fun scope ts => do
  let (target, r) ← ctx.expr scope ts
  let some r := eatName? "import" r | failAt r .expectedImport
  let (names, r) ← commaList importedName r
  let r ← expectTagEnd (skipContextClause r)
  let macros := names.foldl (fun known n => known.add (n.2.getD n.1)) scope.macros
  return (.importTag target none names, { scope with macros }, r)

/-! ### Other tags -/

def pairedTags : List String :=
  ["apply", "autoescape", "cache", "call", "filter", "guard", "sandbox", "spaceless", "stopwatch",
    "trans", "with"]

def filterRound (inner : Inner) : Round Node (Node × Tokens) := fun next chain ts =>
  match eatPunct? .pipe ts with
  | some r => do
    let (chain, r) ← filterSegment inner (some chain) r
    next chain r
  | none => .ok (chain, ts)

/-- The filters of an `apply` or `filter` tag, of any number. -/
def filterChain (inner : Inner) : Node → Reader Node := loop (filterRound inner)

def takesFilters (tag : String) : Bool := tag == "apply" || tag == "filter"

/-- The filters at the head of a tag that takes them. -/
def leadingFilters (inner : Inner) (tag : String) : Reader (Option Node) := fun ts =>
  match takesFilters tag, peek ts with
  | true, .name _ => do
    let (first, r) ← filterSegment inner none ts
    let (chain, r) ← filterChain inner first r
    return (some chain, r)
  | _, _ => .ok (none, ts)

def tagArgsRound (expr : Reader Node) : Round Unit (List Node × Tokens) := fun next _ ts =>
  match peek ts with
  | .tagEnd | .eof => .ok ([], ts)
  | .punct .comma | .name "only" => next () ts.tail
  | _ => do
    let (arg, r) ← expr ts
    let (args, r) ← next () r
    return (arg :: args, r)

/-- Expressions up to the end of a tag, whatever commas and `only` stand between them. -/
def tagArgs (expr : Reader Node) : Reader (List Node) := loop (tagArgsRound expr) ()

def readContainer (ctx : Context) (tag : String) : ScopedReader Node := fun scope ts => do
  let (filters, r) ← leadingFilters (ctx.inner scope) tag ts
  let (args, r) ← tagArgs (ctx.expr scope) r
  let r ← expectTagEnd r
  let args := filters.toList ++ args
  if pairedTags.contains tag then
    let (body, scope, r) ← closedBody ctx ("end" ++ tag) true scope r
    return (.container tag args body, scope, r)
  else return (.container tag args [], scope, r)

/-! ### The knot -/

def readTag (ctx : Context) : String → ScopedReader Node
  | "if" => readIf ctx
  | "for" => readFor ctx
  | "block" => readBlock ctx
  | "macro" => readMacro ctx
  | "set" => readSet ctx
  | "include" => readInclude ctx
  | "embed" => readEmbed ctx
  | "extends" => readExtends ctx
  | "import" => readImport ctx
  | "from" => readFrom ctx
  | tag => readContainer ctx tag

def context : Nat → Context
  | 0 =>
    ⟨fun scope => level scope 0, fun _ _ ts => failAt ts .nestingTooDeep,
      fun _ ts => failAt ts .nestingTooDeep⟩
  | room + 1 =>
    let ctx := context room
    ⟨fun scope => level scope (room + 1), readTag ctx, readIf ctx⟩

def readTemplate (ts : Tokens) : Except SyntaxError Node := do
  let ((body, _), _, _) ← readBody (context maxNesting) [] Scope.start ts
  return .template body

def parse (source : String) : Except SyntaxError Node := do
  let ts ← tokenize source
  readTemplate ts

end TemplateMetrics.Syntax
