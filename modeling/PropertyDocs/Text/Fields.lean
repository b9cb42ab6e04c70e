/-!
# Fields of a text

A text is cut at every occurrence of a separator, from the left and without overlap; the empty
separator cuts nothing.
-/
namespace PropertyDocs.Text

/-- Cuts at `sep`; the first argument counts the characters of a separator that are still to be
passed over. -/
def cutFrom (sep : List Char) : Nat → List Char → List (List Char)
  | _, [] => [[]]
  | k + 1, _ :: cs => cutFrom sep k cs
  | 0, c :: cs =>
    if sep.isPrefixOf (c :: cs) then [] :: cutFrom sep (sep.length - 1) cs
    else match cutFrom sep 0 cs with
      | [] => [[c]]
      | field :: fields => (c :: field) :: fields

/-- The fields of `cs` between the occurrences of `sep`. -/
def cut (sep cs : List Char) : List (List Char) :=
  if sep.isEmpty then [cs] else cutFrom sep 0 cs

/-- The texts of `fields` with `glue` between neighbours. -/
def joined (glue : List Char) : List (List Char) → List Char
  | [] => []
  | [field] => field
  | field :: fields => field ++ glue ++ joined glue fields

/-- A text with `glue` in the place of every occurrence of `sep`; the first argument counts the
characters of an occurrence that are still to be passed over. -/
def replacedFrom (sep glue : List Char) : Nat → List Char → List Char
  | _, [] => []
  | k + 1, _ :: cs => replacedFrom sep glue k cs
  | 0, c :: cs =>
    if sep.isPrefixOf (c :: cs) then glue ++ replacedFrom sep glue (sep.length - 1) cs
    else c :: replacedFrom sep glue 0 cs

/-- Nothing is replaced if `sep` is empty. -/
def replaced (sep glue cs : List Char) : List Char :=
  if sep.isEmpty then cs else replacedFrom sep glue 0 cs

/-! ## Fields and what joins them -/

theorem cutFrom_ne_nil (sep : List Char) : ∀ (n : Nat) (cs : List Char), cutFrom sep n cs ≠ []
  | _, [] => by simp [cutFrom]
  | n + 1, _ :: cs => by simpa [cutFrom] using cutFrom_ne_nil sep n cs
  | 0, c :: cs => by
    rw [cutFrom]
    split
    · simp
    · split <;> simp

theorem cut_ne_nil (sep cs : List Char) : cut sep cs ≠ [] := by
  rw [cut]
  split
  · simp
  · exact cutFrom_ne_nil sep 0 cs

theorem joined_cons_cons (glue f g : List Char) (fields : List (List Char)) :
    joined glue (f :: g :: fields) = f ++ glue ++ joined glue (g :: fields) := by
  simp [joined]

theorem joined_cons_of_ne_nil (glue f : List Char) {fields : List (List Char)} (h : fields ≠ []) :
    joined glue (f :: fields) = f ++ glue ++ joined glue fields := by
  obtain ⟨g, rest, rfl⟩ := List.exists_cons_of_ne_nil h
  exact joined_cons_cons glue f g rest

theorem joined_cons_head (glue : List Char) (c : Char) (f : List Char)
    (fields : List (List Char)) : joined glue ((c :: f) :: fields) = c :: joined glue (f :: fields) := by
  cases fields <;> simp [joined]

theorem joined_cutFrom (sep glue : List Char) : ∀ (n : Nat) (cs : List Char),
    joined glue (cutFrom sep n cs) = replacedFrom sep glue n cs
  | _, [] => by simp [cutFrom, replacedFrom, joined]
  | n + 1, _ :: cs => by simpa [cutFrom, replacedFrom] using joined_cutFrom sep glue n cs
  | 0, c :: cs => by
    rw [cutFrom, replacedFrom]
    split
    · rw [joined_cons_of_ne_nil glue [] (cutFrom_ne_nil sep _ cs), List.nil_append,
        joined_cutFrom sep glue _ cs]
    · obtain ⟨f, fields, hcut⟩ := List.exists_cons_of_ne_nil (cutFrom_ne_nil sep 0 cs)
      rw [← joined_cutFrom sep glue 0 cs, hcut]
      exact joined_cons_head glue c f fields

/-- Joining what was cut is replacing what it was cut at. -/
theorem joined_cut (sep glue cs : List Char) : joined glue (cut sep cs) = replaced sep glue cs := by
  rw [cut, replaced]
  split
  · rfl
  · exact joined_cutFrom sep glue 0 cs

/-- Joined fields have a line feed fewer than there are fields. -/
theorem count_joined : ∀ {fields : List (List Char)}, (∀ f ∈ fields, '\n' ∉ f) → fields ≠ [] →
    (joined ['\n'] fields).count '\n' + 1 = fields.length
  | [], _, h => absurd rfl h
  | [f], hfields, _ => by
    rw [joined, List.count_eq_zero.2 (hfields f (by simp))]
    rfl
  | f :: g :: fields, hfields, _ => by
    have hf : f.count '\n' = 0 := List.count_eq_zero.2 (hfields f (by simp))
    have hrest : (joined ['\n'] (g :: fields)).count '\n' + 1 = (g :: fields).length :=
      count_joined (fun f hf => hfields f (by simp [hf])) (by simp)
    rw [joined_cons_cons, List.count_append, List.count_append, hf]
    simp only [List.count_cons_self, List.count_nil, List.length_cons] at hrest ⊢
    omega

theorem mem_joined {glue : List Char} {c : Char} : ∀ {fields : List (List Char)},
    c ∈ joined glue fields → c ∈ glue ∨ ∃ f ∈ fields, c ∈ f
  | [], h => by simp [joined] at h
  | [f], h => .inr ⟨f, by simp, h⟩
  | f :: g :: fields, h => by
    rw [joined_cons_cons, List.mem_append, List.mem_append] at h
    rcases h with (h | h) | h
    · exact .inr ⟨f, by simp, h⟩
    · exact .inl h
    · exact (mem_joined h).imp_right fun ⟨f', hf', hc⟩ => ⟨f', by simp [hf'], hc⟩

/-- The first line feed of joined fields ends the first of them. -/
theorem joined_eq_append {taken rest : List Char} : ∀ {fields : List (List Char)},
    (∀ f ∈ fields, '\n' ∉ f) → '\n' ∉ taken → joined ['\n'] fields = taken ++ '\n' :: rest →
      ∃ f fields', fields = taken :: f :: fields' ∧ rest = joined ['\n'] (f :: fields')
  | [], _, _, h => by simp [joined] at h
  | [f], hfields, _, h => absurd (hfields f (by simp)) (by
      have h : f = taken ++ '\n' :: rest := h
      simp [h])
  | f :: g :: fields, hfields, htaken, h => by
    have hjoined : f ++ '\n' :: joined ['\n'] (g :: fields) = taken ++ '\n' :: rest := by
      simpa [joined_cons_cons] using h
    rcases List.append_eq_append_iff.1 hjoined with ⟨more, rfl, hmore⟩ | ⟨more, rfl, hmore⟩
    · cases more with
      | nil => exact ⟨g, fields, by simp, by simpa using hmore.symm⟩
      | cons x more =>
        obtain ⟨rfl, -⟩ := List.cons_eq_cons.1 hmore
        simp at htaken
    · cases more with
      | nil => exact ⟨g, fields, by simp, by simpa using hmore⟩
      | cons x more =>
        obtain ⟨rfl, -⟩ := List.cons_eq_cons.1 hmore
        exact absurd (hfields (taken ++ '\n' :: more) (by simp)) (by simp)

end PropertyDocs.Text
