import PropertyDocs.Number.Binary64

/-!
# Shortest decimal texts

A number is written with the fewest digits that read back as the number, and of those the nearest.
Texts are positional from one ten-thousandth up to ten to the sixteenth.
-/
namespace PropertyDocs.Binary64

/-- What lies nearer to the number than to its neighbours, in quarters of a unit: the least and the
greatest value, and whether they themselves belong to it. -/
structure Rounding where
  least : Nat
  greatest : Nat
  closed : Bool

def rounding (units : Nat) : Rounding :=
  let step := powerOfTwo (spacing units)
  let below := if units == powerOfTwo (Nat.log2 units) && 1 < step then step else 2 * step
  { least := 4 * units - below, greatest := 4 * units + 2 * step,
    closed := (units / step) % 2 == 0 }

/-- Whether `num / den` quarters of a unit read back as the number. -/
def Rounding.holds (r : Rounding) (num den : Nat) : Bool :=
  if r.closed then r.least * den ≤ num && num ≤ r.greatest * den
  else r.least * den < num && num < r.greatest * den

/-- The multiple of ten to the power `p` that reads back as the number, if there is one. -/
def onGrid? (units : Nat) (p : Int) : Option Nat :=
  let r := rounding units
  let scale := powerOfTen p.toNat * powerOfTwo (unitExponent + 2)
  let den := powerOfTen (-p).toNat
  let value := 4 * units * den
  let below := value / scale
  let above := below + 1
  let holdsBelow := 0 < below && r.holds (below * scale) den
  let holdsAbove := r.holds (above * scale) den
  if holdsBelow && holdsAbove then
    let toBelow := value - below * scale
    let toAbove := above * scale - value
    some (if toBelow < toAbove || (toBelow == toAbove && below % 2 == 0) then below else above)
  else if holdsBelow then some below
  else if holdsAbove then some above
  else none

/-- The digits of a positive number and the power of ten that they count. -/
def shortest (units : Nat) : Nat × Int :=
  ((List.range 660).findSome? fun (i : Nat) =>
    let p : Int := 309 - (i : Int)
    (onGrid? units p).map fun n => (n, p)).getD (0, 0)

def zeros (n : Nat) : String := String.ofList (List.replicate n '0')

/-- The digits with a point after the first `place` of them. -/
def positional (digits : String) (place : Int) : String :=
  let n : Int := digits.length
  if place ≤ 0 then "0." ++ zeros (-place).toNat ++ digits
  else if n ≤ place then digits ++ zeros (place - n).toNat ++ ".0"
  else
    let ds := digits.toList
    String.ofList (ds.take place.toNat ++ '.' :: ds.drop place.toNat)

def exponential (digits : String) (place : Int) : String :=
  let ds := digits.toList
  let mantissa := if ds.length == 1 then ds else ds.take 1 ++ '.' :: ds.drop 1
  let e := (place - 1).natAbs
  String.ofList mantissa ++ (if place - 1 < 0 then "e-" else "e+") ++
    (if e < 10 then "0" else "") ++ toString e

def magnitudeText (units : Nat) : String :=
  if units == 0 then "0.0"
  else
    let (n, p) := shortest units
    let digits := toString n
    let place : Int := digits.length + p
    if -4 < place && place ≤ 16 then positional digits place else exponential digits place

/-- The text of a number. -/
def text : Binary64 → String
  | finite negative units => (if negative then "-" else "") ++ magnitudeText units
  | infinite negative => if negative then "-inf" else "inf"
  | nan => "nan"

end PropertyDocs.Binary64
