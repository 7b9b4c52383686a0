import TemplateMetrics.Decimal.Numeral
import TemplateMetrics.NameMap

/-!
Documents of the JSON data format. Whole numbers and floats are kept apart, as they are spelled
differently; the fields of an object stand in the order of their names.
-/

namespace TemplateMetrics

inductive Json where
  | null
  | bool (b : Bool)
  | int (n : Int)
  | float (x : Float)
  | str (s : String)
  | arr (items : List Json)
  | obj (fields : List (String × Json))
deriving Repr, BEq, Inhabited

namespace Json

/-- An object from its fields; of two fields of one name the later stays. -/
def ofFields (fields : List (String × Json)) : Json := .obj (NameMap.ofList fields).entries

def ofMap (m : NameMap Json) : Json := .obj m.entries

def nat (n : Nat) : Json := .int n

/-- A float, or nothing where it is no number. -/
def ofFloat (x : Float) : Json := if x.isFinite then .float x else .null

def strs (l : List String) : Json := .arr (l.map .str)

def ofOption {α : Type} (f : α → Json) : Option α → Json
  | some a => f a
  | none => .null

def ofCounts (c : Counts) : Json := .obj (c.entries.map fun e => (e.1, nat e.2))

/-! ### Views -/

def fields : Json → List (String × Json)
  | .obj fields => fields
  | _ => []

def field? (j : Json) (name : String) : Option Json := j.fields.lookup name

def str? : Json → Option String
  | .str s => some s
  | _ => none

def nat? : Json → Option Nat
  | .int (.ofNat n) => some n
  | _ => none

/-- The value of a number as a float. -/
def number? : Json → Option Float
  | .int n => some (Decimal.ofInt n)
  | .float x => some x
  | _ => none

end Json

end TemplateMetrics
