import TemplateMetrics.Decimal.Numeral
import TemplateMetrics.Json.Basic

/-!
JSON documents from their text.
-/

namespace TemplateMetrics.Json

def isSpace (c : Char) : Bool := c = ' ' || c = '\t' || c = '\n' || c = '\r'

def skipSpace (cs : List Char) : List Char := cs.dropWhile isSpace

def hexValue? (c : Char) : Option Nat :=
  if c.isDigit then some (c.toNat - '0'.toNat)
  else if 'a' ≤ c ∧ c ≤ 'f' then some (c.toNat - 'a'.toNat + 10)
  else if 'A' ≤ c ∧ c ≤ 'F' then some (c.toNat - 'A'.toNat + 10)
  else none

def hexUnit? : List Char → Option (Nat × List Char)
  | a :: b :: c :: d :: r => do
    let a ← hexValue? a
    let b ← hexValue? b
    let c ← hexValue? c
    let d ← hexValue? d
    return (((a * 16 + b) * 16 + c) * 16 + d, r)
  | _ => none

/-- The character of a `\u` escape, which takes two units above the first plane. -/
def escapedUnit? (cs : List Char) : Option (Char × List Char) := do
  let (high, r) ← hexUnit? cs
  if 0xD800 ≤ high ∧ high < 0xDC00 then
    match r with
    | '\\' :: 'u' :: r => do
      let (low, r) ← hexUnit? r
      if 0xDC00 ≤ low ∧ low < 0xE000 then
        return (Char.ofNat (0x10000 + (high - 0xD800) * 0x400 + (low - 0xDC00)), r)
      else none
    | _ => none
  else if 0xDC00 ≤ high ∧ high < 0xE000 then none
  else return (Char.ofNat high, r)

def simpleEscape? : Char → Option Char
  | '"' => some '"'
  | '\\' => some '\\'
  | '/' => some '/'
  | 'b' => some '\x08'
  | 'f' => some '\x0c'
  | 'n' => some '\n'
  | 'r' => some '\r'
  | 't' => some '\t'
  | _ => none

/-- The rest of a string, behind its opening quote. -/
def readString : Nat → List Char → List Char → Option (String × List Char)
  | 0, _, _ => none
  | _ + 1, _, [] => none
  | steps + 1, done, c :: r =>
    if c = '"' then some (String.ofList done.reverse, r)
    else if c = '\\' then
      match r with
      | 'u' :: r => do
        let (c, r) ← escapedUnit? r
        readString steps (c :: done) r
      | c :: r => do
        let c ← simpleEscape? c
        readString steps (c :: done) r
      | [] => none
    else if c.toNat < 0x20 then none
    else readString steps (c :: done) r

def isNumberChar (c : Char) : Bool :=
  c.isDigit || c = '-' || c = '+' || c = '.' || c = 'e' || c = 'E'

/-- A number is whole when it has neither point nor exponent and fits 64 bits; minus zero is a
float. -/
def readNumber (cs : List Char) : Option Json :=
  let (negative, ds) := match cs with
    | '-' :: r => (true, r)
    | r => (false, r)
  if ds.all Char.isDigit ∧ !ds.isEmpty then
    let n := Decimal.digitsValue ds
    if negative then
      if 0 < n ∧ n ≤ Nat.pow 2 63 then some (.int (-(n : Int)))
      else some (.float (-(Decimal.toFloat n 0)))
    else if n < Nat.pow 2 64 then some (.int n)
    else some (.float (Decimal.toFloat n 0))
  else match ds with
    | d :: _ =>
      if d.isDigit then (Decimal.readFloat (String.ofList cs)).map .float else none
    | [] => none

def afterWord? (word : String) (value : Json) (cs : List Char) : Option (Json × List Char) :=
  if word.toList.isPrefixOf cs then some (value, cs.drop word.length) else none

mutual

def readValue : Nat → List Char → Option (Json × List Char)
  | 0, _ => none
  | steps + 1, cs =>
    match skipSpace cs with
    | [] => none
    | '"' :: r => (readString (r.length + 1) [] r).map fun (s, r) => (.str s, r)
    | '[' :: r =>
      match skipSpace r with
      | ']' :: r => some (.arr [], r)
      | r => (readItems steps r).map fun (items, r) => (.arr items, r)
    | '\x7b' :: r =>
      match skipSpace r with
      | '\x7d' :: r => some (.obj [], r)
      | r => (readFields steps r).map fun (fields, r) => (ofFields fields, r)
    | 't' :: r => afterWord? "rue" (.bool true) r
    | 'f' :: r => afterWord? "alse" (.bool false) r
    | 'n' :: r => afterWord? "ull" .null r
    | cs => (readNumber (cs.takeWhile isNumberChar)).map fun j => (j, cs.dropWhile isNumberChar)

def readItems : Nat → List Char → Option (List Json × List Char)
  | 0, _ => none
  | steps + 1, cs => do
    let (j, r) ← readValue steps cs
    match skipSpace r with
    | ',' :: r => do
      let (items, r) ← readItems steps r
      return (j :: items, r)
    | ']' :: r => return ([j], r)
    | _ => none

def readFields : Nat → List Char → Option (List (String × Json) × List Char)
  | 0, _ => none
  | steps + 1, cs =>
    match skipSpace cs with
    | '"' :: r => do
      let (k, r) ← readString (r.length + 1) [] r
      match skipSpace r with
      | ':' :: r => do
        let (j, r) ← readValue steps r
        match skipSpace r with
        | ',' :: r => do
          let (fields, r) ← readFields steps r
          return ((k, j) :: fields, r)
        | '\x7d' :: r => return ([(k, j)], r)
        | _ => none
      | _ => none
    | _ => none

end

def parse (s : String) : Option Json := do
  let cs := s.toList
  let (j, r) ← readValue (cs.length + 1) cs
  if (skipSpace r).isEmpty then return j else none

end TemplateMetrics.Json
