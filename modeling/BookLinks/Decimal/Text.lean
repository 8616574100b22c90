import BookLinks.Decimal.Shortest
/-! Decimal text of doubles and integers, and reading decimal text back. A double is written
with its shortest digits: positionally when its decimal point falls between the 4th place
after the point and the 16th before it, keeping a `.0` on whole numbers, and otherwise as
one digit, the rest after a point, and a signed exponent of at least two digits. -/
namespace BookLinks.Decimal

def natDigits (n : Nat) : List Char := Nat.toDigits 10 n

/-- How the values that are not finite numbers are written. -/
structure SpecialFloats where
  nan : String
  infinity : String
  deriving Repr

def SpecialFloats.data : SpecialFloats := ⟨"NaN", "Infinity"⟩

def SpecialFloats.message : SpecialFloats := ⟨"nan", "inf"⟩

/-- The text of `0.ds · 10^point`, where `ds` are the significant digits. -/
def placeDigits (ds : List Char) (point : Int) : String :=
  if point ≤ -4 ∨ point > 16 then
    let mant := match ds with
      | [] => "0"
      | [d] => String.ofList [d]
      | d :: rest => String.ofList (d :: '.' :: rest)
    let ex := point - 1
    let sign := if ex < 0 then "-" else "+"
    let mag := natDigits ex.natAbs
    let mag := if mag.length < 2 then '0' :: mag else mag
    mant ++ "e" ++ sign ++ String.ofList mag
  else if point ≤ 0 then
    "0." ++ String.ofList (List.replicate point.natAbs '0' ++ ds)
  else if point.toNat ≥ ds.length then
    String.ofList (ds ++ List.replicate (point.toNat - ds.length) '0') ++ ".0"
  else
    String.ofList (ds.take point.toNat ++ '.' :: ds.drop point.toNat)

/-- The text of a double, with the special values spelled as given. -/
def floatText (sp : SpecialFloats) (x : Float) : String :=
  match FloatShape.ofFloat x with
  | .nan => sp.nan
  | .infinite neg => if neg then "-" ++ sp.infinity else sp.infinity
  | .finite neg d =>
    let sign := if neg then "-" else ""
    if d.mantissa = 0 then sign ++ "0.0"
    else
      let (digits, p) := d.shortest
      let ds := natDigits digits
      sign ++ placeDigits ds (p + ds.length)

def intText (n : Int) : String :=
  if n < 0 then "-" ++ String.ofList (natDigits n.natAbs) else String.ofList (natDigits n.toNat)

/-- The double nearest `digits · 10^exp10`, with the sign applied last; magnitudes far
outside the range of doubles go to zero or infinity without computing them. -/
def toFloat (negative : Bool) (digits : Nat) (exp10 : Int) : Float :=
  let size : Int := (natDigits digits).length
  let x : Float :=
    if digits = 0 then 0
    else if size + exp10 > 400 then Float.ofScientific 1 false 400
    else if size + exp10 < -400 then 0
    else if exp10 < 0 then Float.ofScientific digits true exp10.natAbs
    else Float.ofScientific digits false exp10.toNat
  if negative then -x else x

end BookLinks.Decimal
