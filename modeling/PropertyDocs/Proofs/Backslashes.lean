import Mathlib.Data.List.DropRight

/-!
# Runs of backslashes

A backslash takes the character after it with it, so whether the last backslash of a text still
waits for one is a matter of how many of them end the text: it does if they are odd in number. What
comes before an even run does not count.
-/
namespace PropertyDocs

/-- The length of the run of backslashes that ends the text. -/
def slashesAtEnd (cs : List Char) : Nat := (cs.rtakeWhile (· == '\\')).length

/-- A character that is neither a lone backslash nor one that takes the next character with it is no
backslash. -/
theorem ne_slash_of_not_escape {c : Char} {cs : List Char} (hlone : c = '\\' → cs = [] → False)
    (hescape : ∀ d ds, c = '\\' → cs = d :: ds → False) : c ≠ '\\' := by
  rintro rfl
  cases cs with
  | nil => exact hlone rfl rfl
  | cons d ds => exact hescape d ds rfl rfl

theorem slashesAtEnd_of_ne {c : Char} (h : c ≠ '\\') (cs : List Char) :
    slashesAtEnd (cs ++ [c]) = 0 := by
  rw [slashesAtEnd, List.rtakeWhile_concat_neg _ _ _ (by simpa using h), List.length_nil]

theorem slashesAtEnd_concat (cs : List Char) :
    slashesAtEnd (cs ++ ['\\']) = slashesAtEnd cs + 1 := by
  rw [slashesAtEnd, List.rtakeWhile_concat_pos _ _ _ (by rfl), List.length_append,
    List.length_singleton, slashesAtEnd]

/-- An odd run has a last backslash, and an even run before it. -/
theorem exists_eq_concat_of_odd {cs : List Char} (h : slashesAtEnd cs % 2 = 1) :
    ∃ before, cs = before ++ ['\\'] ∧ slashesAtEnd before % 2 = 0 := by
  rcases List.eq_nil_or_concat' cs with rfl | ⟨before, c, rfl⟩
  · cases h
  · by_cases hc : c = '\\'
    · subst hc
      rw [slashesAtEnd_concat] at h
      exact ⟨before, rfl, by omega⟩
    · rw [slashesAtEnd_of_ne hc] at h
      cases h

/-- After an even run the run is that of the rest, or if the rest has nothing else, longer than it
by that even run. -/
theorem slashesAtEnd_append {as : List Char} (h : slashesAtEnd as % 2 = 0) (bs : List Char) :
    slashesAtEnd (as ++ bs) % 2 = slashesAtEnd bs % 2 := by
  simp only [slashesAtEnd, List.rtakeWhile, List.length_reverse] at h ⊢
  rw [List.reverse_append, List.takeWhile_append]
  split
  · next hall => rw [hall, List.length_append, Nat.add_mod, h, Nat.add_zero, Nat.mod_mod]
  · rfl

theorem slashesAtEnd_append_cons {c : Char} (h : c ≠ '\\') (as bs : List Char) :
    slashesAtEnd (as ++ c :: bs) % 2 = slashesAtEnd bs % 2 := by
  rw [List.append_cons, slashesAtEnd_append (by rw [slashesAtEnd_of_ne h])]

theorem slashesAtEnd_cons {c : Char} (h : c ≠ '\\') (cs : List Char) :
    slashesAtEnd (c :: cs) % 2 = slashesAtEnd cs % 2 := slashesAtEnd_append_cons h [] cs

/-- A backslash and the character after it are done with. -/
theorem slashesAtEnd_escape (c : Char) (cs : List Char) :
    slashesAtEnd ('\\' :: c :: cs) % 2 = slashesAtEnd cs % 2 := by
  have heven : slashesAtEnd ['\\', c] % 2 = 0 := by
    by_cases hc : c = '\\'
    · subst hc
      rfl
    · exact congrArg (· % 2) (slashesAtEnd_of_ne hc ['\\'])
  exact slashesAtEnd_append heven cs

/-! ## What begins after an even run -/

/-- Something begins in the text at a place where no backslash waits for a character. -/
def Unescaped (begins : List Char → Prop) (cs : List Char) : Prop :=
  ∃ before after, cs = before ++ after ∧ slashesAtEnd before % 2 = 0 ∧ begins after

section
variable {begins : List Char → Prop}

theorem Unescaped.here {cs : List Char} (h : begins cs) : Unescaped begins cs := ⟨[], cs, rfl, rfl, h⟩

theorem unescaped_nil_iff : Unescaped begins [] ↔ begins [] := by
  refine ⟨?_, .here⟩
  rintro ⟨before, after, hcs, -, h⟩
  obtain ⟨rfl, rfl⟩ := List.append_eq_nil_iff.1 hcs.symm
  exact h

theorem unescaped_cons_iff {c : Char} (hc : c ≠ '\\') {cs : List Char} :
    Unescaped begins (c :: cs) ↔ begins (c :: cs) ∨ Unescaped begins cs := by
  constructor
  · rintro ⟨before, after, hcs, heven, h⟩
    cases before with
    | nil => exact .inl (hcs ▸ h)
    | cons d before =>
      obtain ⟨rfl, rfl⟩ := List.cons.inj hcs
      exact .inr ⟨before, after, rfl, (slashesAtEnd_cons hc before).symm.trans heven, h⟩
  · rintro (h | ⟨before, after, rfl, heven, h⟩)
    · exact .here h
    · exact ⟨c :: before, after, rfl, (slashesAtEnd_cons hc before).trans heven, h⟩

/-- Nothing begins between a backslash and the character that it takes with it. -/
theorem unescaped_escape_iff {c : Char} {cs : List Char} :
    Unescaped begins ('\\' :: c :: cs) ↔ begins ('\\' :: c :: cs) ∨ Unescaped begins cs := by
  constructor
  · rintro ⟨before, after, hcs, heven, h⟩
    rcases before with _ | ⟨d, _ | ⟨d', before⟩⟩
    · exact .inl (hcs ▸ h)
    · obtain ⟨rfl, -⟩ := List.cons.inj hcs
      cases heven
    · obtain ⟨rfl, htail⟩ := List.cons.inj hcs
      obtain ⟨rfl, rfl⟩ := List.cons.inj htail
      exact .inr ⟨before, after, rfl, (slashesAtEnd_escape c before).symm.trans heven, h⟩
  · rintro (h | ⟨before, after, rfl, heven, h⟩)
    · exact .here h
    · exact ⟨'\\' :: c :: before, after, rfl, (slashesAtEnd_escape c before).trans heven, h⟩

/-- Nothing begins after a lone backslash. -/
theorem unescaped_slash_iff : Unescaped begins ['\\'] ↔ begins ['\\'] := by
  refine ⟨?_, .here⟩
  rintro ⟨before, after, hcs, heven, h⟩
  cases before with
  | nil => exact hcs ▸ h
  | cons d before =>
    obtain ⟨rfl, htail⟩ := List.cons.inj hcs
    obtain ⟨rfl, rfl⟩ := List.append_eq_nil_iff.1 htail.symm
    cases heven

end

end PropertyDocs
