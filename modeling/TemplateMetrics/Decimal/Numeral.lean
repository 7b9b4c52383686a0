/-!
Decimal numerals and the floats they denote.
-/

namespace TemplateMetrics.Decimal

/-- The number `mantissa * 10 ^ -places`, as it was spelled. -/
structure Numeral where
  mantissa : Nat
  places : Nat
deriving Repr, DecidableEq, Inhabited

def digitValue (c : Char) : Nat := c.toNat - '0'.toNat

def digitsValue (ds : List Char) : Nat := ds.foldl (fun n c => 10 * n + digitValue c) 0

/-- The nearest float to `mantissa * 10 ^ exponent`. Far outside the range of floats the answer is
known without computing the power. -/
def toFloat (mantissa : Nat) (exponent : Int) : Float :=
  if mantissa = 0 then 0.0
  else
    let size : Int := (Nat.log2 mantissa : Int) * 30103 / 100000
    if 400 < size + exponent then 1.0 / 0.0
    else if size + exponent < -400 then 0.0
    else match exponent with
      | .ofNat e => Float.ofScientific mantissa false e
      | .negSucc e => Float.ofScientific mantissa true (e + 1)

def ofInt : Int → Float
  | .ofNat n => toFloat n 0
  | .negSucc n => -(toFloat (n + 1) 0)

def Numeral.toFloat (n : Numeral) : Float := Decimal.toFloat n.mantissa (-(n.places : Int))

/-- Split off a leading sign; `true` is minus. -/
def takeSign : List Char → Bool × List Char
  | '+' :: r => (false, r)
  | '-' :: r => (true, r)
  | r => (false, r)

def readExponent : List Char → Option Int
  | [] => some 0
  | c :: r =>
    if c = 'e' ∨ c = 'E' then
      let (negative, ds) := takeSign r
      if ds.isEmpty ∨ !ds.all Char.isDigit then none
      else
        let n : Int := digitsValue ds
        some (if negative then -n else n)
    else none

def readMagnitude (cs : List Char) : Option Float :=
  let whole := cs.takeWhile Char.isDigit
  let rest := cs.dropWhile Char.isDigit
  let (fraction, rest) := match rest with
    | '.' :: r => (r.takeWhile Char.isDigit, r.dropWhile Char.isDigit)
    | r => ([], r)
  if whole.isEmpty ∧ fraction.isEmpty then none
  else
    (readExponent rest).map fun e =>
      toFloat (digitsValue (whole ++ fraction)) (e - (fraction.length : Int))

/-- A float from its text: a decimal number, or `inf`, `infinity` or `nan` in any case. -/
def readFloat (s : String) : Option Float :=
  let (negative, cs) := takeSign s.toList
  let word := String.ofList (cs.map Char.toLower)
  let magnitude :=
    if word = "inf" ∨ word = "infinity" then some (1.0 / 0.0)
    else if word = "nan" then some (0.0 / 0.0)
    else readMagnitude cs
  magnitude.map fun x => if negative then -x else x

def readNat (s : String) : Option Nat :=
  let cs := match s.toList with
    | '+' :: r => r
    | r => r
  if cs.isEmpty ∨ !cs.all Char.isDigit then none else some (digitsValue cs)

end TemplateMetrics.Decimal
