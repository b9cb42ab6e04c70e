import Mathlib.Data.List.Nodup
import PropertyDocs.Files.Tree

/-!
# Listings of folders

A folder lists its entries in an order of its own. What a path leads to does not depend on these
orders, and where no folder has two entries of one name, neither does which entries are listed.
-/
namespace PropertyDocs
namespace FileTree

/-- No folder of the tree has two entries of the same name. -/
inductive Distinct : FileTree → Prop
  | file (bytes : List UInt8) : Distinct (file bytes)
  | folder {es : List (String × FileTree)} : (es.map (·.1)).Nodup → (∀ e ∈ es, Distinct e.2) →
      Distinct (folder es)

/-- The same tree, but for the orders in which the folders list their entries. -/
inductive Relisted : FileTree → FileTree → Prop
  | file (bytes : List UInt8) : Relisted (file bytes) (file bytes)
  | folder {es es' : List (String × FileTree)} : (es.map (·.1)).Perm (es'.map (·.1)) →
      (∀ name t t', (name, t) ∈ es → (name, t') ∈ es' → Relisted t t') →
      Relisted (folder es) (folder es')

/-! ## Looking up names -/

section
variable {es : List (String × FileTree)} {name : String} {t : FileTree}

theorem mem_of_lookup (h : es.lookup name = some t) : (name, t) ∈ es := by
  obtain ⟨before, after, rfl, -⟩ := List.lookup_eq_some_iff.1 h
  simp

theorem exists_lookup_iff : (∃ t, es.lookup name = some t) ↔ ∃ t, (name, t) ∈ es := by
  rw [← Option.isSome_iff_exists, List.lookup_isSome_iff]
  constructor
  · rintro ⟨⟨n, t⟩, hmem, hn⟩
    obtain rfl := eq_of_beq hn
    exact ⟨t, hmem⟩
  · rintro ⟨t, hmem⟩
    exact ⟨(name, t), hmem, beq_self_eq_true name⟩

end

/-! ## Walks -/

namespace Relisted
variable {t t' : FileTree}

theorem exists_mem_iff {es es' : List (String × FileTree)}
    (hnames : (es.map (·.1)).Perm (es'.map (·.1))) (name : String) :
    (∃ t, (name, t) ∈ es) ↔ ∃ t, (name, t) ∈ es' := by
  simpa using hnames.mem_iff (a := name)

theorem symm (h : Relisted t t') : Relisted t' t := by
  induction h with
  | file bytes => exact .file bytes
  | folder hnames _ ih => exact .folder hnames.symm fun name t t' ht ht' => ih name t' t ht' ht

theorem distinct (h : Relisted t t') (ht : t.Distinct) : t'.Distinct := by
  induction h with
  | file bytes => exact ht
  | @folder es es' hnames _ ih =>
    cases ht with
    | folder hnodup hall =>
      refine .folder (hnames.nodup_iff.1 hnodup) fun e he => ?_
      obtain ⟨t, ht⟩ := (exists_mem_iff hnames e.1).2 ⟨e.2, he⟩
      exact ih e.1 t e.2 ht he (hall _ ht)

theorem refl (h : t.Distinct) : Relisted t t := by
  induction h with
  | file bytes => exact .file bytes
  | @folder es hnames _ ih =>
    refine .folder .rfl fun name t t' ht ht' => ?_
    have hsame : (name, t) = (name, t') := List.inj_on_of_nodup_map hnames ht ht' rfl
    obtain rfl : t = t' := congrArg Prod.snd hsame
    exact ih _ ht

/-- What a walk comes to in both trees, unless it fails alike. -/
def Alike (r r' : Except AccessError FileTree) : Prop :=
  (∃ e, r = .error e ∧ r' = .error e) ∨ ∃ t t', r = .ok t ∧ r' = .ok t' ∧ Relisted t t'

/-- A walk comes to the same in both trees. -/
theorem walk {above above' : List FileTree} (h : Relisted t t')
    (habove : List.Forall₂ Relisted above above') (names : List String) :
    Alike (FileTree.walk above t names) (FileTree.walk above' t' names) := by
  induction names generalizing t t' above above' with
  | nil => exact .inr ⟨t, t', by simp [FileTree.walk], by simp [FileTree.walk], h⟩
  | cons name names ih =>
    cases h with
    | file bytes => exact .inl ⟨.notFolder, by simp [FileTree.walk], by simp [FileTree.walk]⟩
    | @folder es es' hnames hsame =>
      simp only [FileTree.walk]
      split
      · cases habove with
        | nil => exact ih (.folder .rfl (by simp)) .nil
        | cons ht habove => exact ih ht habove
      · have hboth := exists_lookup_iff.trans
          ((exists_mem_iff hnames name).trans exists_lookup_iff.symm)
        cases hl : es.lookup name with
        | none =>
          cases hl' : es'.lookup name with
          | none => exact .inl ⟨.missing, rfl, rfl⟩
          | some u' => simp [hl, hl'] at hboth
        | some u =>
          cases hl' : es'.lookup name with
          | none => simp [hl, hl'] at hboth
          | some u' =>
            exact ih (hsame name u u' (mem_of_lookup hl) (mem_of_lookup hl'))
              (.cons (.folder hnames hsame) habove)

end Relisted

end FileTree
end PropertyDocs
