import TemplateMetrics.Json.Overlay
import TemplateMetrics.Text.Replace
import TemplateMetrics.Toml.Quoted

/-!
Settings in the variables of the environment.

The name of a variable spells a path of keys, its value a number, a word, a list or a table. A value
that is none of these is a plain text, so that every variable has a value.
-/

namespace TemplateMetrics

/-- Variables of the environment with their values, in ascending order of their names. -/
abbrev Environment := List (String × String)

namespace Environment

/-! ### Values -/

/-- Characters that can be part of a plain value inside a list or a table. -/
def isUnbracketed (c : Char) : Bool :=
  !(c = ',' || c = '[' || c = ']' || c = '\x7b' || c = '\x7d')

def skipBlank (cs : List Char) : List Char := cs.dropWhile Text.isPlainBlank

/-- A value without brackets or quotes: a float has a point, a whole number has none, and all else
is text. -/
def plain (s : String) : Json :=
  let integer := match s.toList with
    | '-' :: r =>
      let n := Decimal.digitsValue r
      if !r.isEmpty && r.all Char.isDigit && n ≤ Nat.pow 2 63 then some (Json.int (-(n : Int)))
      else none
    | _ =>
      match Decimal.readNat s with
      | some n => if n < Nat.pow 2 64 then some (Json.nat n) else none
      | none => none
  let float := if s.toList.contains '.' then (Decimal.readFloat s).map Json.float else none
  match float, integer with
  | some j, _ => j
  | none, some j => j
  | none, none => .str s

def quoted (cs : List Char) : Option (String × List Char) :=
  Toml.basicLine .v10 (cs.length + 1) [] cs

def character : List Char → Option (String × List Char)
  | c :: '\'' :: r => some (String.ofList [c], r)
  | _ => none

def isKeyPart (c : Char) : Bool := c.isAlphanum || c = '_' || c = '-'

def key (cs : List Char) : Option (String × List Char) :=
  match cs with
  | '"' :: r => quoted r
  | cs =>
    let k := cs.takeWhile isKeyPart
    if k.isEmpty then none else some (String.ofList k, cs.dropWhile isKeyPart)

mutual

def value : Nat → List Char → Option (Json × List Char)
  | 0, _ => none
  | steps + 1, cs =>
    let cs := skipBlank cs
    match Text.afterStart? "true".toList cs with
    | some r => some (.bool true, skipBlank r)
    | none =>
      match Text.afterStart? "false".toList cs with
      | some r => some (.bool false, skipBlank r)
      | none =>
        match cs with
        | '"' :: r => (quoted r).map fun (s, r) => (.str s, skipBlank r)
        | '\'' :: r => (character r).map fun (s, r) => (.str s, skipBlank r)
        | '[' :: r => (items steps r).map fun (l, r) => (.arr l, skipBlank r)
        | '\x7b' :: r => (pairs steps r).map fun (l, r) => (.ofFields l, skipBlank r)
        | cs =>
          let word := Text.trim (cs.takeWhile isUnbracketed)
          some (plain (String.ofList word), cs.dropWhile isUnbracketed)

def items : Nat → List Char → Option (List Json × List Char)
  | 0, _ => none
  | _ + 1, ']' :: r => some ([], r)
  | steps + 1, cs => do
    let (j, r) ← value steps cs
    match r with
    | ',' :: r => do
      let (l, r) ← items steps r
      return (j :: l, r)
    | ']' :: r => return ([j], r)
    | _ => none

def pairs : Nat → List Char → Option (List (String × Json) × List Char)
  | 0, _ => none
  | _ + 1, '\x7d' :: r => some ([], r)
  | steps + 1, cs => do
    let (k, r) ← key (skipBlank cs)
    match skipBlank r with
    | '=' :: r => do
      let (j, r) ← value steps r
      match skipBlank r with
      | ',' :: r => do
        let (l, r) ← pairs steps r
        return ((k, j) :: l, r)
      | '\x7d' :: r => return ([(k, j)], r)
      | _ => none
    | _ => none

end

/-- The value of a variable; what is not well formed is a text as a whole. -/
def valueOf (s : String) : Json :=
  match value (2 * s.toList.length + 2) s.toList with
  | some (j, []) => j
  | _ => .str s

/-! ### Names -/

/-- The start of the names that belong to this program, in any case. -/
def mark : String := "stencil_"

def splitPoints : List Char → List (List Char)
  | [] => [[]]
  | c :: r =>
    if c = '.' then [] :: splitPoints r
    else match splitPoints r with
      | part :: parts => (c :: part) :: parts
      | [] => [[c]]

/-- The path of keys that a name spells. Two underscores or a point lead one level down. -/
def path? (name : String) : Option (List String) := do
  let rest ← Text.afterStart? mark.toList ((Text.trim name.toList).map Char.toLower)
  let spelled := Text.replaceAll "__" "." (String.ofList rest)
  let parts := splitPoints (Text.trim spelled.toList)
  if parts.any List.isEmpty then none else return parts.map String.ofList

def nest (path : List String) (j : Json) : Json :=
  path.foldr (fun key j => .obj [(key, j)]) j

/-- All variables of this program as one document; of two with one path the later wins. -/
def document (environment : Environment) : Json :=
  environment.foldl (fun j e =>
    match path? e.1 with
    | some path => j.overlay (nest path (valueOf e.2))
    | none => j) (.obj [])

end Environment

end TemplateMetrics
