import TemplateMetrics.NameMap
import TemplateMetrics.Text.Blank

/-!
Conventions in the names that a template declares.
-/

namespace TemplateMetrics.Style

open Text

inductive Convention where
  | snake
  | camel
  | pascal
  | upper
  | lower
  | other
deriving Repr, DecidableEq

namespace Convention

def text : Convention → String
  | .snake => "snake_case"
  | .camel => "camel_case"
  | .pascal => "pascal_case"
  | .upper => "upper_case"
  | .lower => "lowercase"
  | .other => "other"

/-- The convention of a name, by the case of its ASCII letters. Leading underscores do not count. -/
def ofName (name : String) : Convention :=
  let cs := name.toList.dropWhile (· = '_')
  let hasLower := cs.any Char.isLower
  let hasUpper := cs.any Char.isUpper
  let hasUnderscore := cs.contains '_'
  let firstUpper := cs.head?.any Char.isUpper
  match hasLower, hasUpper, hasUnderscore with
  | true, false, false => .lower
  | true, false, true => .snake
  | false, true, _ => .upper
  | true, true, false => if firstUpper then .pascal else .camel
  | _, _, _ => .other

/-- The conventions that can dominate, by precedence. -/
def ranked : List Convention := [.snake, .camel, .pascal, .upper, .other]

end Convention

structure Naming where
  counts : Counts
  dominant : String
  /-- Names that agree with the dominant convention. -/
  consistent : Nat
  total : Nat

namespace Naming

/-- The most frequent convention, the first of several, and how often it occurs. Names of one lower
case word fit two conventions, so they dominate only if there is no other. -/
def dominantOf (count : Convention → Nat) : Convention × Nat :=
  Convention.ranked.foldl
    (fun best c => if best.2 < count c then (c, count c) else best) (.lower, 0)

def ofNames (names : List String) : Naming :=
  let conventions := names.map Convention.ofName
  let count := fun c => conventions.count c
  let counts := Counts.ofNames (conventions.map Convention.text)
  let (dominant, best) := dominantOf count
  { counts := counts
    dominant := if names.isEmpty then "none" else dominant.text
    consistent := match dominant with
      | .lower => count .lower
      | .snake | .camel => best + count .lower
      | _ => best
    total := names.length }

def consistency (n : Naming) : Float :=
  if n.total = 0 then 100.0 else Float.ofNat n.consistent / Float.ofNat n.total * 100.0

end Naming

/-! ### Declared names -/

def isAsciiNameStart (c : Char) : Bool := c.isAlpha || c = '_'

def isAsciiNamePart (c : Char) : Bool := c.isAlphanum || c = '_'

def declaringTags : List String := ["block", "macro", "set"]

/-- The name declared by a tag that opens right here. -/
def declaredHere? (cs : List Char) : Option String := do
  let r ← afterStart? ['\x7b', '%'] cs
  let r := match r with
    | '-' :: r => r
    | '~' :: r => r
    | r => r
  let r := r.dropWhile isBlank
  let r ← declaringTags.findSome? fun tag => afterStart? tag.toList r
  let name := r.dropWhile isBlank
  if name.length < r.length ∧ name.head?.any isAsciiNameStart then
    return String.ofList (name.takeWhile isAsciiNamePart)
  else none

/-- Names that the tags of a text declare, in order. -/
def declaredNames : List Char → List String
  | [] => []
  | c :: r =>
    match declaredHere? (c :: r) with
    | some name => name :: declaredNames r
    | none => declaredNames r

end TemplateMetrics.Style
