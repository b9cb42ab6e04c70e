/-!
# Code points

The number of half a surrogate pair is that of no character, but an escape of a flat document may
name it. It is kept as it is: the texts of such a document are made of characters and of halves.
-/
namespace PropertyDocs

/-- A character, or one of the numbers from `0xD800` to `0xDFFF`, counted from the first. -/
inductive CodePoint where
  | char (c : Char)
  | half (n : Fin 0x800)
deriving DecidableEq, Repr

namespace CodePoint

def ofNat (n : Nat) : CodePoint :=
  if n.isValidChar then .char (Char.ofNat n) else .half (Fin.ofNat 0x800 (n - 0xD800))

def toNat : CodePoint → Nat
  | char c => c.toNat
  | half n => 0xD800 + n

theorem ofNat_toNat (c : Char) : ofNat c.toNat = .char c := by
  have hvalid : c.toNat.isValidChar := c.valid
  rw [ofNat, if_pos hvalid, Char.ofNat_toNat]

/-- Different numbers have different code points. -/
theorem toNat_ofNat {n : Nat} (h : n < 0x110000) : (ofNat n).toNat = n := by
  unfold ofNat
  split
  · next hvalid =>
    rw [toNat, Char.ofNat, dif_pos hvalid]
    rfl
  · next hhalf =>
    simp only [Nat.isValidChar, not_or, not_and] at hhalf
    simp only [toNat, Fin.ofNat]
    omega

/-- The character, or for a half the sign that stands for what cannot be shown. -/
def shown : CodePoint → Char
  | char c => c
  | half _ => '\ufffd'

end CodePoint

abbrev CodePoints := List CodePoint

namespace CodePoints

def ofString (s : String) : CodePoints := s.toList.map .char

instance : Coe String CodePoints := ⟨ofString⟩

def ofPair (e : String × String) : CodePoints × CodePoints := (ofString e.1, ofString e.2)

/-- The text with a sign for each half. -/
def shown (cs : CodePoints) : String := String.ofList (cs.map CodePoint.shown)

end CodePoints

end PropertyDocs
