import PropertyDocs.Text.Letters
import PropertyDocs.Text.Blank

/-!
# Integer numerals

A numeral is a row of decimal digits of any script, with single underscores between digits if
wanted, after an optional sign and between optional blanks. One with too many digits is not read.
-/
namespace PropertyDocs.Text

/-- The greatest number of digits of an integer numeral. -/
def numeralLimit : Nat := 4300

/-- Reads on after a digit; `n` is the value so far. -/
def digitsFrom (n : Nat) : List Char → Option Nat
  | [] => some n
  | ['_'] => none
  | '_' :: c :: cs => (decimalValue? c).bind fun d => digitsFrom (10 * n + d) cs
  | c :: cs => (decimalValue? c).bind fun d => digitsFrom (10 * n + d) cs

/-- The value of a row of digits. -/
def digits? : List Char → Option Nat
  | [] => none
  | c :: cs => (decimalValue? c).bind fun d => digitsFrom d cs

/-- Splits off a sign; the first part tells whether it is a minus. -/
def signed : List Char → Bool × List Char
  | '-' :: cs => (true, cs)
  | '+' :: cs => (false, cs)
  | cs => (false, cs)

/-- The value of an integer numeral. -/
def integer? (cs : List Char) : Option Int :=
  let (negative, magnitude) := signed (trimBlank cs)
  if numeralLimit < (magnitude.filter (· != '_')).length then none
  else (digits? magnitude).map fun n => if negative then -(n : Int) else n

end PropertyDocs.Text
