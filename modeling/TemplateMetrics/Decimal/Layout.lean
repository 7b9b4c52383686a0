import TemplateMetrics.Decimal.Shortest

/-!
Writing a float as text: the digits come from `shortest`, a `Layout` decides how they are set.
-/

namespace TemplateMetrics.Decimal

/-- How digits are set. The value is `0.d₁d₂… * 10 ^ point`. -/
structure Layout where
  /-- Points written without an exponent. -/
  plain : Int → Bool
  /-- Whole numbers end in `.0`. -/
  keepsPoint : Bool
  tie : Tie

def zeros (n : Nat) : String := String.ofList (List.replicate n '0')

def Layout.setPlain (l : Layout) (ds : List Char) (point : Int) : String :=
  if point ≤ 0 then
    "0." ++ zeros point.natAbs ++ String.ofList ds
  else
    let before := point.toNat
    if before < ds.length then
      String.ofList (ds.take before) ++ "." ++ String.ofList (ds.drop before)
    else
      String.ofList ds ++ zeros (before - ds.length) ++ (if l.keepsPoint then ".0" else "")

/-- One digit before the point, the sign of the exponent always written. -/
def setScientific (ds : List Char) (point : Int) : String :=
  let e := point - 1
  let mantissa := match ds with
    | [] => "0"
    | [d] => String.ofList [d]
    | d :: r => String.ofList [d] ++ "." ++ String.ofList r
  mantissa ++ "e" ++ (if e < 0 then "-" else "+") ++ toString e.natAbs

def Layout.setMagnitude (l : Layout) (b : Binary) : String :=
  if b.significand = 0 then (if l.keepsPoint then "0.0" else "0")
  else
    let s := shortest l.tie b
    let ds := Nat.toDigits 10 s.digits
    let point := s.exponent + ds.length
    if l.plain point then l.setPlain ds point else setScientific ds point

def Layout.write (l : Layout) (x : Float) : String :=
  match Reading.ofFloat x with
  | .notANumber => "NaN"
  | .infinite negative => if negative then "-inf" else "inf"
  | .finite negative b => (if negative then "-" else "") ++ l.setMagnitude b

/-- Numbers inside messages: never an exponent, no point after a whole number, and of two equally
near spellings the larger one. -/
def inText : Layout := ⟨fun _ => true, false, .up⟩

/-- Numbers of a written document: plain from `1e-5` up to but not including `1e16`, and of two
equally near spellings the even one. -/
def inDocument : Layout := ⟨fun point => decide (-4 ≤ point ∧ point ≤ 16), true, .toEven⟩

end TemplateMetrics.Decimal
