import PropertyDocs.Text.Ranges

/-!
# Blank characters

The white space of Unicode together with the four information separators, and the text between the
blanks at both ends.
-/
namespace PropertyDocs.Text

def blankRanges : List (Nat × Nat) :=
  [(0x9, 0xd), (0x1c, 0x20), (0x85, 0x85), (0xa0, 0xa0), (0x1680, 0x1680), (0x2000, 0x200a),
  (0x2028, 0x2029), (0x202f, 0x202f), (0x205f, 0x205f), (0x3000, 0x3000)]

def isBlank (c : Char) : Bool := within blankRanges c.toNat

/-- `cs` without the blanks at its two ends. -/
def trimBlank (cs : List Char) : List Char :=
  (((cs.dropWhile isBlank).reverse).dropWhile isBlank).reverse

def trim (s : String) : String := String.ofList (trimBlank s.toList)

theorem dropWhile_isBlank_eq_nil_iff (cs : List Char) :
    cs.dropWhile isBlank = [] ↔ ∀ c ∈ cs, isBlank c = true := by
  induction cs with
  | nil => simp
  | cons c cs ih => by_cases h : isBlank c = true <;> simp [h, ih]

/-- Nothing but blanks is trimmed to nothing. -/
theorem trim_eq_empty_iff (s : String) : trim s = "" ↔ ∀ c ∈ s.toList, isBlank c = true := by
  rw [trim, ← String.toList_inj, String.toList_ofList, trimBlank]
  simp only [String.toList_empty, List.reverse_eq_nil_iff, dropWhile_isBlank_eq_nil_iff,
    List.mem_reverse]
  rw [← dropWhile_isBlank_eq_nil_iff s.toList]
  constructor
  · intro h
    cases hd : s.toList.dropWhile isBlank with
    | nil => rfl
    | cons c cs =>
      have hc : isBlank c = true := h c (by simp [hd])
      have hfirst := List.head?_dropWhile_not isBlank s.toList
      simp [hd, hc] at hfirst
  · intro h c hc
    simp [h] at hc

end PropertyDocs.Text
