/-!
# Tables of ranges

Properties of characters are kept as sorted lists of ranges of code points.
-/
namespace PropertyDocs.Text

/-- The first range that holds `n`, in a list sorted by first member. -/
def runOf? : List (Nat × Nat) → Nat → Option (Nat × Nat)
  | [], _ => none
  | (a, b) :: rest, n => if n < a then none else if n ≤ b then some (a, b) else runOf? rest n

/-- Whether `n` lies in one of the sorted ranges. -/
def within (ranges : List (Nat × Nat)) (n : Nat) : Bool := (runOf? ranges n).isSome

end PropertyDocs.Text
