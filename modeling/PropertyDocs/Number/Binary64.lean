import PropertyDocs.Text.Lowercase
import PropertyDocs.Text.Numeral

/-!
# Binary floating-point numbers

The numbers of 64 bits. Each finite one is a whole multiple of the smallest positive one, so it is
kept as that multiple with a sign. A decimal numeral is read as the nearest number, and of two
nearest ones as that with an even significand.
-/
namespace PropertyDocs

inductive Binary64 where
  /-- So many times the smallest positive number. -/
  | finite (negative : Bool) (units : Nat)
  | infinite (negative : Bool)
  | nan
deriving DecidableEq, Repr

namespace Binary64

def powerOfTwo (n : Nat) : Nat := Nat.pow 2 n

def powerOfTen (n : Nat) : Nat := Nat.pow 10 n

/-- The smallest positive number is two to the power of minus this. -/
def unitExponent : Nat := 1074

/-- The bits that a number of this size has after its significand. -/
def spacing (units : Nat) : Nat := Nat.log2 units - 52

/-- The whole number nearest to a quotient, the even one of two. -/
def roundedQuotient (num den : Nat) : Nat :=
  let q := num / den
  let twice := 2 * (num % den)
  if twice < den || (twice == den && q % 2 == 0) then q else q + 1

/-- The number nearest to a quotient of units. -/
def ofUnits (negative : Bool) (num den : Nat) : Binary64 :=
  let step := powerOfTwo (spacing (num / den))
  let units := roundedQuotient num (den * step) * step
  if units < powerOfTwo (1024 + unitExponent) then finite negative units
  else infinite negative

/-- The number nearest to the digits `n` shifted by `exponent` decimal places. -/
def ofDecimal (negative : Bool) (n : Nat) (exponent : Int) : Binary64 :=
  let size := (toString n).length + exponent
  if n == 0 || size < -330 then finite negative 0
  else if 310 < size then infinite negative
  else
    let units := n * powerOfTwo unitExponent
    if 0 ≤ exponent then ofUnits negative (units * powerOfTen exponent.toNat) 1
    else ofUnits negative units (powerOfTen (-exponent).toNat)

/-- The integer that a number is, if it is one. -/
def toInt? : Binary64 → Option Int
  | finite negative units =>
    let one := powerOfTwo unitExponent
    let n := Int.ofNat (units / one)
    if units % one == 0 then some (if negative then -n else n) else none
  | _ => none

/-- Whether two numbers are equal; both zeros are, and no two that are no numbers. -/
def same : Binary64 → Binary64 → Bool
  | finite a m, finite b n => m == n && (a == b || m == 0)
  | infinite a, infinite b => a == b
  | _, _ => false

/-! ## Reading -/

/-- The digits of a row of them, which may be empty. -/
def digitRow? : List Char → Option (List Nat)
  | [] => some []
  | cs => do
    let _ ← Text.digits? cs
    return cs.filterMap Text.decimalValue?

/-- The value of an unsigned numeral without an exponent, as digits and decimal places. -/
def fraction? (cs : List Char) : Option (Nat × Nat) := do
  let (whole, rest) := cs.span (· != '.')
  let before ← digitRow? whole
  let after ← digitRow? (rest.drop 1)
  guard !(before.isEmpty && after.isEmpty)
  return ((before ++ after).foldl (fun n d => 10 * n + d) 0, after.length)

/-- The value of a numeral between blanks, or of a name for an infinity or for no number. -/
def read? (cs : List Char) : Option Binary64 := do
  let (negative, cs) := Text.signed (Text.trimBlank cs)
  let name := Text.lowercase (String.ofList cs)
  if name == "inf" || name == "infinity" then return infinite negative
  else if name == "nan" then return nan
  else
    let (significand, rest) := cs.span fun c => c != 'e' && c != 'E'
    let (n, places) ← fraction? significand
    if rest.isEmpty then return ofDecimal negative n (-(places : Int))
    else
      let (minus, digits) := Text.signed (rest.drop 1)
      let exponent : Int ← (Text.digits? digits).map fun e => if minus then -(e : Int) else e
      return ofDecimal negative n (exponent - places)

end Binary64

end PropertyDocs
