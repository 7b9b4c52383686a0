import TemplateMetrics.Json.Reader

/-!
Words and numbers of TOML: everything that is written without quotes or brackets.
-/

namespace TemplateMetrics.Toml

inductive Edition where
  | v10
  | v11
deriving Repr, DecidableEq

/-- How many keys a path may have, and how many brackets may stand around a value. -/
def Edition.depth : Edition → Nat
  | .v10 => 79
  | .v11 => 80

/-! ### Numbers -/

def digitGroups? (isDigit : Char → Bool) (cs : List Char) : Option (List Char) :=
  let rec go : List Char → Option (List Char)
    | [] => some []
    | '_' :: c :: r => if isDigit c then (go r).map (c :: ·) else none
    | c :: r => if isDigit c then (go r).map (c :: ·) else none
  match cs with
  | [] => none
  | '_' :: _ => none
  | cs => go cs

def baseValue (base : Nat) (ds : List Char) : Nat :=
  ds.foldl (fun n c => base * n + (Json.hexValue? c).getD 0) 0

def isHex (c : Char) : Bool := (Json.hexValue? c).isSome

def isOctal (c : Char) : Bool := '0' ≤ c && c ≤ '7'

def isBinary (c : Char) : Bool := c = '0' || c = '1'

/-- An integer of a size that the edition knows: 64 bits at first, 128 bits with a sign or without
it later. -/
def fit? (edition : Edition) (n : Int) : Option Json :=
  let (low, high) := match edition with
    | .v10 => (Nat.pow 2 63, Nat.pow 2 63)
    | .v11 => (Nat.pow 2 127, Nat.pow 2 128)
  if -Int.ofNat low ≤ n ∧ n < Int.ofNat high then some (.int n) else none

def wholeDigits? (cs : List Char) : Option (List Char) := do
  let ds ← digitGroups? Char.isDigit cs
  if ds.head? = some '0' ∧ 1 < ds.length then none else return ds

def integer? (edition : Edition) (cs : List Char) : Option Json :=
  match cs with
  | '0' :: 'x' :: r => (digitGroups? isHex r).bind fun ds => fit? edition (baseValue 16 ds)
  | '0' :: 'o' :: r => (digitGroups? isOctal r).bind fun ds => fit? edition (baseValue 8 ds)
  | '0' :: 'b' :: r => (digitGroups? isBinary r).bind fun ds => fit? edition (baseValue 2 ds)
  | cs =>
    let (negative, ds) := Decimal.takeSign cs
    (wholeDigits? ds).bind fun ds =>
      let n : Int := Decimal.digitsValue ds
      fit? edition (if negative then -n else n)

def exponent? (cs : List Char) : Option Int := do
  let (negative, ds) := Decimal.takeSign cs
  let ds ← digitGroups? Char.isDigit ds
  let n : Int := Decimal.digitsValue ds
  return if negative then -n else n

/-- A float: whole digits, then a fraction, an exponent or both. -/
def magnitude? (cs : List Char) : Option Float := do
  let isExponent := fun c => c = 'e' || c = 'E'
  let mantissa := cs.takeWhile fun c => !isExponent c
  let exponent ← match cs.dropWhile fun c => !isExponent c with
    | [] => some none
    | _ :: r => (exponent? r).map some
  let whole ← wholeDigits? (mantissa.takeWhile (· ≠ '.'))
  let fraction ← match mantissa.dropWhile (· ≠ '.') with
    | [] => some none
    | _ :: r => (digitGroups? Char.isDigit r).map some
  if exponent.isNone ∧ fraction.isNone then none
  else
    let ds := fraction.getD []
    return Decimal.toFloat (Decimal.digitsValue (whole ++ ds)) (exponent.getD 0 - (ds.length : Int))

/-- A float. Digits do not spell infinity, except that the first edition takes too large a number
with a minus for it. -/
def float? (edition : Edition) (cs : List Char) : Option Json :=
  let (negative, r) := Decimal.takeSign cs
  let signed := fun (x : Float) => Json.float (if negative then -x else x)
  match String.ofList r with
  | "inf" => some (signed (1.0 / 0.0))
  | "nan" => some (signed (0.0 / 0.0))
  | _ =>
    match magnitude? r with
    | some x => if x.isFinite || (negative && edition = .v10) then some (signed x) else none
    | none => none

/-! ### Dates and times -/

def digits? (n : Nat) (cs : List Char) : Option (Nat × List Char) :=
  let ds := cs.take n
  if ds.length = n ∧ ds.all Char.isDigit then some (Decimal.digitsValue ds, cs.drop n) else none

def after? (c : Char) : List Char → Option (List Char)
  | d :: r => if d = c then some r else none
  | [] => none

def daysIn (year month : Nat) : Nat :=
  if month = 2 then
    if year % 4 = 0 ∧ (year % 100 ≠ 0 ∨ year % 400 = 0) then 29 else 28
  else if month = 4 ∨ month = 6 ∨ month = 9 ∨ month = 11 then 30
  else 31

def date? (cs : List Char) : Option (List Char) := do
  let (year, r) ← digits? 4 cs
  let (month, r) ← digits? 2 (← after? '-' r)
  let (day, r) ← digits? 2 (← after? '-' r)
  if 1 ≤ month ∧ month ≤ 12 ∧ 1 ≤ day ∧ day ≤ daysIn year month then return r else none

def secondFraction? : List Char → Option (List Char)
  | '.' :: d :: r => if d.isDigit then some (r.dropWhile Char.isDigit) else none
  | '.' :: [] => none
  | cs => some cs

/-- A time of the day, and what follows it. Seconds may be left out in later editions. -/
def time? (edition : Edition) (cs : List Char) : Option (List Char) := do
  let (hour, r) ← digits? 2 cs
  let (minute, r) ← digits? 2 (← after? ':' r)
  if hour < 24 ∧ minute < 60 then
    match after? ':' r with
    | some r => do
      let (second, r) ← digits? 2 r
      if second ≤ 60 then secondFraction? r else none
    | none => if edition = .v11 then some r else none
  else none

def offset? : List Char → Option (List Char)
  | [] => some []
  | c :: r =>
    if c = 'Z' ∨ c = 'z' then some r
    else if c = '+' ∨ c = '-' then do
      let (hour, r) ← digits? 2 r
      let (minute, r) ← digits? 2 (← after? ':' r)
      if hour < 24 ∧ minute < 60 then return r else none
    else some (c :: r)

def isMoment (edition : Edition) (cs : List Char) : Bool :=
  match date? cs with
  | some [] => true
  | some (c :: r) =>
    (c = 'T' || c = 't' || c = ' ') &&
      (((time? edition r).bind offset?).any List.isEmpty)
  | none => (time? edition cs).any List.isEmpty

/-- Moments have a place in the format and none in settings; they stand as a table with one field
that nothing asks for. -/
def moment (cs : List Char) : Json :=
  .obj [("moment", .str (String.ofList cs))]

/-! ### Words -/

def isWordPart (c : Char) : Bool :=
  c.isAlphanum || c = '_' || c = '+' || c = '-' || c = '.' || c = ':'

/-- An unquoted value, and what follows it. A blank may stand between a date and a time. -/
def takeWord (cs : List Char) : List Char × List Char :=
  let word := cs.takeWhile isWordPart
  match date? word, cs.dropWhile isWordPart with
  | some [], ' ' :: d :: r =>
    if d.isDigit then
      (word ++ ' ' :: (d :: r).takeWhile isWordPart, (d :: r).dropWhile isWordPart)
    else (word, ' ' :: d :: r)
  | _, rest => (word, rest)

def word? (edition : Edition) (cs : List Char) : Option Json :=
  match String.ofList cs with
  | "true" => some (.bool true)
  | "false" => some (.bool false)
  | _ =>
    match integer? edition cs with
    | some j => some j
    | none =>
      match float? edition cs with
      | some j => some j
      | none => if isMoment edition cs then some (moment cs) else none

end TemplateMetrics.Toml
