import PropertyDocs.Proofs.FlatText

/-!
# Where a line is cut

A logical line is a key, a gap and a value. The key is as long as no blank and no sign stands in it
that is not escaped, and the gap is as long as it is blanks with at most one sign among them; so the
line alone tells where it is cut, and nothing of it but the gap is lost.
-/
namespace PropertyDocs.FlatFormat

/-! ## Longest prefixes -/

/-- `IsLongest P line part`: of all the prefixes of the line that `P` holds of, `part` is the
longest. -/
structure IsLongest (P : List Char → Prop) (line part : List Char) : Prop where
  isPrefix : part <+: line
  holds : P part
  longest (other : List Char) : other <+: line → P other → other <+: part

/-- A prefix is the longest one if `P` holds of none that goes on with the next character. -/
theorem isLongest_of_next {P : List Char → Prop} {part rest : List Char} (hpart : P part)
    (hnext : ∀ c ∈ rest.head?, ∀ more, ¬ P (part ++ c :: more)) :
    IsLongest P (part ++ rest) part where
  isPrefix := List.prefix_append part rest
  holds := hpart
  longest := by
    intro other hother hP
    rcases List.prefix_or_prefix_of_prefix hother (List.prefix_append part rest) with
      hshorter | ⟨extra, rfl⟩
    · exact hshorter
    · cases extra with
      | nil => simp
      | cons c more =>
        obtain ⟨after, hrest⟩ := (List.prefix_append_right_inj part).1 hother
        exact absurd hP (hnext c (by simp [← hrest]) more)

/-! ## Keys -/

/-- A blank or a sign is the first character. -/
def BeginsKeyEnd (cs : List Char) : Prop := ∃ c ∈ cs.head?, c ∈ [' ', '\t', '\x0c', '=', ':']

/-- A blank or a sign stands in the text that no backslash escapes. -/
def HasKeyEnd (cs : List Char) : Prop := Unescaped BeginsKeyEnd cs

theorem beginsKeyEnd_cons {c : Char} {cs : List Char} :
    BeginsKeyEnd (c :: cs) ↔ (isSign c || isBlank c) = true := by
  simp only [BeginsKeyEnd, List.head?_cons, Option.mem_some_iff, exists_eq_left', List.mem_cons,
    List.not_mem_nil, or_false, isSign, isBlank, Bool.or_eq_true, beq_iff_eq]
  grind

theorem not_beginsKeyEnd_nil : ¬ BeginsKeyEnd [] := by simp [BeginsKeyEnd]

theorem not_beginsKeyEnd_slash (cs : List Char) : ¬ BeginsKeyEnd ('\\' :: cs) := by
  simp [BeginsKeyEnd]

/-- The key and what follows it are the line. The key ends before a blank or a sign that is not
escaped, or with the line; there is none before. -/
theorem splitKey_cuts (line : List Char) :
    (splitKey line).1 ++ (splitKey line).2 = line ∧ ¬ HasKeyEnd (splitKey line).1 ∧
      ∀ c ∈ (splitKey line).2.head?,
        (isSign c || isBlank c) = true ∧ slashesAtEnd (splitKey line).1 % 2 = 0 := by
  unfold HasKeyEnd
  fun_induction splitKey line with
  | case1 => simpa [unescaped_nil_iff] using not_beginsKeyEnd_nil
  | case2 => simpa [unescaped_slash_iff] using not_beginsKeyEnd_slash []
  | case3 c cs ih =>
    obtain ⟨happend, hnone, hnext⟩ := ih
    refine ⟨by simp [happend], ?_, fun d hd => ⟨(hnext d hd).1, ?_⟩⟩
    · rw [unescaped_escape_iff]
      exact not_or.2 ⟨not_beginsKeyEnd_slash _, hnone⟩
    · rw [slashesAtEnd_escape, (hnext d hd).2]
  | case4 c cs _ _ hend =>
    refine ⟨rfl, by simpa [unescaped_nil_iff] using not_beginsKeyEnd_nil, ?_⟩
    rintro d ⟨⟩
    exact ⟨hend, rfl⟩
  | case5 c cs hlone hescape hend ih =>
    obtain ⟨happend, hnone, hnext⟩ := ih
    have hslash : c ≠ '\\' := ne_slash_of_not_escape hlone hescape
    refine ⟨by simp [happend], ?_, fun d hd => ⟨(hnext d hd).1, ?_⟩⟩
    · rw [unescaped_cons_iff hslash, beginsKeyEnd_cons]
      exact not_or.2 ⟨hend, hnone⟩
    · rw [slashesAtEnd_cons hslash, (hnext d hd).2]

theorem isLongest_key (line : List Char) :
    IsLongest (¬ HasKeyEnd ·) line (splitKey line).1 := by
  obtain ⟨happend, hnone, hnext⟩ := splitKey_cuts line
  have hlongest : IsLongest (¬ HasKeyEnd ·) ((splitKey line).1 ++ (splitKey line).2)
      (splitKey line).1 := by
    refine isLongest_of_next hnone fun c hc more hmore => hmore ?_
    exact ⟨(splitKey line).1, c :: more, rfl, (hnext c hc).2, beginsKeyEnd_cons.2 (hnext c hc).1⟩
  rwa [happend] at hlongest

/-! ## Gaps -/

/-- Blanks, at most one sign, and blanks. -/
def IsGap (gap : List Char) : Prop :=
  ∃ w₁ sign w₂, gap = w₁ ++ (sign ++ w₂) ∧ Blanks w₁ ∧ sign ∈ [[], ['='], [':']] ∧ Blanks w₂

theorem filter_blanks {w : List Char} (h : Blanks w) : w.filter (!isBlank ·) = [] := by
  simpa using fun c hc => isBlank_of_mem h hc

/-- There is at most one character in a gap that is no blank, and that is a sign. -/
theorem IsGap.filter {gap : List Char} (h : IsGap gap) :
    gap.filter (!isBlank ·) ∈ [[], ['='], [':']] := by
  obtain ⟨w₁, sign, w₂, rfl, h₁, hsign, h₂⟩ := h
  have hall : sign.filter (!isBlank ·) = sign := by
    simp only [List.mem_cons, List.not_mem_nil, or_false] at hsign
    rcases hsign with rfl | rfl | rfl <;> rfl
  rw [List.filter_append, List.filter_append, filter_blanks h₁, filter_blanks h₂, hall]
  simpa using hsign

section
variable {w₁ w₂ rest : List Char}

theorem isLongest_gap_blanks (h₁ : Blanks w₁)
    (hnext : ∀ c ∈ rest.head?, isSign c = false ∧ isBlank c = false) :
    IsLongest IsGap (w₁ ++ rest) w₁ := by
  refine isLongest_of_next ⟨w₁, [], [], by simp, h₁, by simp, by simp [Blanks]⟩
    fun c hc more hmore => ?_
  obtain ⟨hsign, hblank⟩ := hnext c hc
  have hfilter : c :: more.filter (!isBlank ·) ∈ [[], ['='], [':']] := by
    simpa only [List.filter_append, filter_blanks h₁, List.nil_append, List.filter_cons, hblank,
      Bool.not_false, if_true] using hmore.filter
  simp only [List.mem_cons, reduceCtorEq, List.cons.injEq, List.not_mem_nil, or_false,
    false_or] at hfilter
  rcases hfilter with ⟨rfl, -⟩ | ⟨rfl, -⟩ <;> cases hsign

theorem isLongest_gap_sign (h₁ : Blanks w₁) {sign : Char} (hsign : isSign sign = true)
    (h₂ : Blanks w₂) (hnext : ∀ c ∈ rest.head?, isBlank c = false) :
    IsLongest IsGap (w₁ ++ sign :: w₂ ++ rest) (w₁ ++ sign :: w₂) := by
  have hmem : sign = '=' ∨ sign = ':' := by simpa [isSign] using hsign
  have hblank : isBlank sign = false := by rcases hmem with rfl | rfl <;> rfl
  refine isLongest_of_next ⟨w₁, [sign], w₂, rfl, h₁, by simpa using hmem, h₂⟩
    fun c hc more hmore => ?_
  -- the next character would be a second one that is no blank
  have hfilter := hmore.filter
  simp [filter_blanks h₁, filter_blanks h₂, hblank, hnext c hc] at hfilter

end

/-- What is left of a text after the blanks, a sign and the blanks after it is what follows the
longest gap. -/
theorem exists_isLongest_gap (rest : List Char) :
    ∃ gap, gap ++ (dropSign (rest.dropWhile isBlank)).dropWhile isBlank = rest ∧
      IsLongest IsGap rest gap := by
  have hrest : rest.takeWhile isBlank ++ rest.dropWhile isBlank = rest :=
    List.takeWhile_append_dropWhile
  have hfirst := not_isBlank_head_dropWhile rest
  rw [← hrest]
  generalize hafter : rest.dropWhile isBlank = after at hfirst ⊢
  have hstart : (rest.takeWhile isBlank ++ after).dropWhile isBlank = after := by
    rw [← hafter, hrest]
  rw [hstart]
  by_cases hsign : ∃ sign cs, after = sign :: cs ∧ isSign sign = true
  · obtain ⟨sign, cs, rfl, hsign⟩ := hsign
    have hcs : cs.takeWhile isBlank ++ cs.dropWhile isBlank = cs :=
      List.takeWhile_append_dropWhile
    have hlongest := isLongest_gap_sign (blanks_takeWhile rest) hsign (blanks_takeWhile cs)
      (not_isBlank_head_dropWhile cs)
    rw [List.append_assoc, List.cons_append, hcs] at hlongest
    exact ⟨_, by simp [dropSign, hsign, hcs], hlongest⟩
  · have hother : ∀ c ∈ after.head?, isSign c = false ∧ isBlank c = false := fun c hc => by
      obtain ⟨cs, rfl⟩ := List.head?_eq_some_iff.1 hc
      exact ⟨Bool.eq_false_iff.2 fun hs => hsign ⟨c, cs, rfl, hs⟩, hfirst c rfl⟩
    have hdrop : (dropSign after).dropWhile isBlank = after := by
      cases after with
      | nil => rfl
      | cons c cs => simp [dropSign, hother c rfl]
    exact ⟨_, by rw [hdrop], isLongest_gap_blanks (blanks_takeWhile rest) hother⟩

/-! ## Lines -/

/-- A backslash ends no key. -/
theorem not_hasKeyEnd_concat {before : List Char} (h : ¬ HasKeyEnd before) :
    ¬ HasKeyEnd (before ++ ['\\']) := by
  rintro ⟨start, after, hcut, heven, c, hc, hend⟩
  rcases List.eq_nil_or_concat' after with rfl | ⟨after, d, rfl⟩
  · cases hc
  · rw [← List.append_assoc] at hcut
    obtain ⟨rfl, hd⟩ := List.append_inj' hcut rfl
    cases after with
    | nil =>
      obtain rfl : '\\' = d := by simpa using hd
      obtain rfl : '\\' = c := by simpa using hc
      simp at hend
    | cons e after => exact h ⟨start, e :: after, rfl, heven, c, hc, hend⟩

theorem splitEntry_of_not_hasKeyEnd {line : List Char} (h : ¬ HasKeyEnd line) :
    splitEntry line = (line, []) := by
  obtain ⟨rest, hrest⟩ := (isLongest_key line).longest line (List.prefix_refl line) h
  have hline := (splitKey_cuts line).1
  have hempty : (splitKey line).2 = [] := by
    have hlength := congrArg List.length hrest
    have hsum := congrArg List.length hline
    rw [List.length_append] at hlength hsum
    exact List.length_eq_zero_iff.1 (by omega)
  rw [hempty, List.append_nil] at hline
  rw [splitEntry, show splitKey line = (line, []) from Prod.ext hline hempty]
  rfl

/-- **A line is cut exactly.** It is the key, a gap and the value. The key is the longest prefix in
which no blank and no sign stands that is not escaped, and the gap is the longest prefix of the rest
that is blanks with at most one sign among them, so nothing else is lost. Neither cut lies behind
the end of the line, also if a lone backslash ends it: where the key has not ended before, the whole
line is the key. -/
theorem splitEntry_cuts_exactly (line : List Char) :
    (∃ gap, line = (splitEntry line).1 ++ gap ++ (splitEntry line).2 ∧
      IsLongest (¬ HasKeyEnd ·) line (splitEntry line).1 ∧
      IsLongest IsGap (gap ++ (splitEntry line).2) gap ∧
      (splitEntry line).1.length + gap.length ≤ line.length) ∧
    ∀ before, line = before ++ ['\\'] → slashesAtEnd before % 2 = 0 → ¬ HasKeyEnd before →
      splitEntry line = (line, []) := by
  obtain ⟨gap, hrest, hgap⟩ := exists_isLongest_gap (splitKey line).2
  have hwhole : line = (splitEntry line).1 ++ gap ++ (splitEntry line).2 := by
    rw [List.append_assoc]
    exact (splitKey_cuts line).1.symm.trans (congrArg _ hrest.symm)
  refine ⟨⟨gap, hwhole, isLongest_key line, ?_, ?_⟩, ?_⟩
  · exact hrest.symm ▸ hgap
  · conv_rhs => rw [hwhole]
    simp
  · rintro before rfl - hnone
    exact splitEntry_of_not_hasKeyEnd (not_hasKeyEnd_concat hnone)

/-- An escaped sign and an escaped backslash in the key, and a lone backslash at its end. -/
theorem splitEntry_cuts_exactly_sample :
    ¬ HasKeyEnd "a\\=b\\\\".toList ∧
    splitEntry "a\\=b\\\\\\".toList = ("a\\=b\\\\\\".toList, []) := by
  have hnone : ¬ HasKeyEnd "a\\=b\\\\".toList :=
    (isLongest_key "a\\=b\\\\".toList).holds
  exact ⟨hnone, (splitEntry_cuts_exactly _).2 "a\\=b\\\\".toList rfl (by decide) hnone⟩

/-- The sign after blanks belongs to the gap, and a second one to the value. -/
example : splitEntry "k \t=  = v".toList = ("k".toList, "= v".toList) := by decide

end PropertyDocs.FlatFormat
