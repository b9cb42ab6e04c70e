import Mathlib.Data.List.Sort
import Mathlib.Data.List.TakeWhile
import Mathlib.Data.String.Basic
import PropertyDocs.Proofs.ChainedLoading
import PropertyDocs.Proofs.Listings

/-!
# Where the copies of a file are

The copies of a file are looked for in the configuration folder and then in its subfolders that are
not hidden, in the order of their names. A folder has at most one: the file itself, or the flat one
that stands in for an XML file that is missing.
-/
namespace PropertyDocs

/-! ## Names of files -/

namespace Path

/-- A name that a folder can list, which is neither of the names with a meaning of their own. -/
structure IsPlain (name : String) : Prop where
  ne_empty : name ≠ ""
  no_slash : '/' ∉ name.toList
  ne_here : name ≠ "."
  ne_above : name ≠ ".."

/-- The suffix of a name is the end of it from its last point on, if neither side of this point is
empty. -/
structure Splits (name stem suffix : String) : Prop where
  eq : name = stem ++ suffix
  stem_ne : stem ≠ ""
  after : ∃ cs, cs ≠ [] ∧ '.' ∉ cs ∧ suffix.toList = '.' :: cs

/-- A name is split at its last point, unless that is at one of its ends. -/
theorem splitName_append (stem : List Char) {after : List Char} (h : '.' ∉ after) :
    splitName (stem ++ '.' :: after) =
      if stem = [] ∨ after = [] then (stem ++ '.' :: after, []) else (stem, '.' :: after) := by
  have htaken : (stem ++ '.' :: after).reverse.takeWhile (· != '.') = after.reverse := by
    have hall : ∀ c ∈ after.reverse, (c != '.') = true := fun c hc =>
      bne_iff_ne.2 fun he => h (he ▸ List.mem_reverse.1 hc)
    rw [List.reverse_append, List.reverse_cons, List.append_assoc,
      List.takeWhile_append_of_pos hall]
    simp
  have hlength : (stem ++ '.' :: after).length - after.length - 1 = stem.length := by
    simp only [List.length_append, List.length_cons]
    omega
  have hlonger : (after.length == (stem ++ '.' :: after).length) = false := by
    simp only [List.length_append, List.length_cons, beq_eq_false_iff_ne]
    omega
  simp only [splitName, htaken, List.reverse_reverse, hlength, List.take_left', hlonger,
    Bool.or_false]
  by_cases hends : stem = [] ∨ after = []
  · rw [if_pos hends, if_pos (by simpa [List.isEmpty_iff, or_comm] using hends)]
  · rw [if_neg hends, if_neg (by simpa [List.isEmpty_iff, or_comm] using hends)]

theorem Splits.splitName {name stem suffix : String} (h : Splits name stem suffix) :
    splitName name.toList = (stem.toList, suffix.toList) := by
  obtain ⟨cs, hcs, hpoint, hsuffix⟩ := h.after
  have hstem : stem.toList ≠ [] := fun he => h.stem_ne (String.toList_eq_nil_iff.1 he)
  rw [h.eq, String.toList_append, hsuffix, splitName_append _ hpoint, if_neg (by simp [hstem, hcs])]

theorem Splits.unique {name stem stem' suffix : String} (h : Splits name stem suffix)
    (h' : Splits name stem' suffix) : stem = stem' :=
  String.toList_inj.1 (congrArg Prod.fst (h.splitName.symm.trans h'.splitName))

end Path

/-! ## Entries of folders -/

namespace Disk

/-- The folder `f` lists something under this name. -/
def Holds (d : Disk) (f : Path) (name : String) : Prop :=
  ∃ es t, d.find f = .ok (.folder es) ∧ (name, t) ∈ es

variable {d d' : Disk} {f : Path} {name : String}

section Relisted
variable (hhere : d.here = d'.here) (h : d.top.Relisted d'.top)
include hhere h

end Relisted

/-! ## The folders of a configuration -/

end Disk
end PropertyDocs
