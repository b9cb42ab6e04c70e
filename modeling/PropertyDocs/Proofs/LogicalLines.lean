import PropertyDocs.Proofs.FlatText

/-!
# Logical lines

The natural lines are gone through with what has begun of a logical line (`logicalLines_cons`), and
what has begun neither begins with a blank nor ends in a backslash of its own, so that each natural
line alone decides whether it is the last one. Blank lines and comments are sorted out by the first
natural line only: a lone backslash is neither, and what it begins may come to nothing
(`nil_mem_logicalLines_iff`).
-/
namespace PropertyDocs.FlatFormat

/-! ## Natural lines of a logical line -/

/-- Whether a logical line goes on after `line`, which belongs to one if one has begun before or
begins there. -/
def goesOnAfter (begun : Bool) (line : List Char) : Bool :=
  (begun || !isComment (line.dropWhile isBlank)) && continues line

/-- Whether a logical line goes on after these natural lines. -/
def goesOn (lines : List (List Char)) : Bool := lines.foldl goesOnAfter false

/-- What a text that is joined from natural lines is like before and after each of them. -/
structure Settled (line : List Char) : Prop where
  head_not_blank : ∀ c ∈ line.head?, isBlank c = false
  slashes_even : slashesAtEnd line % 2 = 0

theorem settled_none : ∀ b ∈ (none : Option (List Char)), Settled b := by simp

theorem settled_some {line : List Char} (h : Settled line) : ∀ b ∈ some line, Settled b := by
  simpa using h

/-- What has begun, with the next natural line. -/
def joined (begun : Option (List Char)) (line : List Char) : List Char :=
  begun.getD [] ++ line.dropWhile isBlank

variable {begun : Option (List Char)} {line : List Char}

theorem continues_dropWhile_isBlank (line : List Char) :
    continues (line.dropWhile isBlank) = continues line := by
  conv_rhs => rw [← List.takeWhile_append_dropWhile (p := isBlank) (l := line)]
  exact (continues_append_eq (continues_blanks (blanks_takeWhile line)) _).symm

theorem continues_joined (h : ∀ b ∈ begun, Settled b) (line : List Char) :
    continues (joined begun line) = continues line := by
  rw [joined, ← continues_dropWhile_isBlank line]
  cases begun with
  | none => rfl
  | some b => exact continues_append_eq (continues_eq_false_iff.2 (h b rfl).slashes_even) _

theorem head_joined_not_blank (h : ∀ b ∈ begun, Settled b) (line : List Char) :
    ∀ c ∈ (joined begun line).head?, isBlank c = false := by
  have hline := not_isBlank_head_dropWhile line
  cases begun with
  | none => exact hline
  | some b =>
    cases b with
    | nil => exact hline
    | cons d b => exact (h _ rfl).head_not_blank

/-- One natural line: it is joined to what has begun, and that goes on or is complete; or else it
is skipped. -/
theorem logicalLines_cons (h : ∀ b ∈ begun, Settled b) (line : List Char)
    (rest : List (List Char)) :
    logicalLines begun (line :: rest) =
      if goesOnAfter begun.isSome line then logicalLines (some (joined begun line).dropLast) rest
      else if begun.isSome || !isComment (line.dropWhile isBlank) then
        joined begun line :: logicalLines none rest
      else logicalLines none rest := by
  have hcontinues := continues_joined h line
  cases begun with
  | none =>
    simp only [joined, Option.getD_none, List.nil_append] at hcontinues ⊢
    simp only [logicalLines, goesOnAfter, Option.isSome_none, Bool.false_or, hcontinues]
    cases isComment (line.dropWhile isBlank) <;> simp
  | some b =>
    simp only [joined, Option.getD_some] at hcontinues ⊢
    simp only [logicalLines, goesOnAfter, Option.isSome_some, Bool.true_or, Bool.true_and,
      hcontinues, if_true]

theorem settled_joined (h : ∀ b ∈ begun, Settled b) (hends : continues line = false) :
    Settled (joined begun line) :=
  ⟨head_joined_not_blank h line, continues_eq_false_iff.1 ((continues_joined h line).trans hends)⟩

/-- Without the backslash that makes it go on, what has begun is settled again. -/
theorem settled_dropLast_joined (h : ∀ b ∈ begun, Settled b) (hgoes : continues line = true) :
    Settled (joined begun line).dropLast := by
  have hodd : slashesAtEnd (joined begun line) % 2 = 1 := by
    rw [← continues_joined h, continues_eq, beq_iff_eq] at hgoes
    exact hgoes
  obtain ⟨before, hjoined, heven⟩ := exists_eq_concat_of_odd hodd
  have hhead := head_joined_not_blank h line
  rw [hjoined] at hhead ⊢
  rw [List.dropLast_concat]
  refine ⟨fun c hc => hhead c ?_, heven⟩
  cases before with
  | nil => cases hc
  | cons d before => exact hc

theorem continues_of_goesOnAfter {b : Bool} (h : goesOnAfter b line = true) :
    continues line = true := (Bool.and_eq_true_iff.1 h).2

/-- Every logical line is settled. -/
theorem settled_of_mem_logicalLines {lines : List (List Char)} (h : ∀ b ∈ begun, Settled b) :
    ∀ l ∈ logicalLines begun lines, Settled l := by
  induction lines generalizing begun with
  | nil =>
    cases begun with
    | none => simp [logicalLines]
    | some b => simpa [logicalLines] using h b rfl
  | cons line rest ih =>
    intro l hl
    rw [logicalLines_cons h] at hl
    split at hl
    · next hgoes =>
      have hsettled := settled_dropLast_joined h (continues_of_goesOnAfter hgoes)
      exact ih (settled_some hsettled) l hl
    · next hends =>
      split at hl
      · next hbelongs =>
        have hends : continues line = false := by simpa [goesOnAfter, hbelongs] using hends
        rcases List.mem_cons.1 hl with rfl | hl
        · exact settled_joined h hends
        · exact ih settled_none l hl
      · exact ih settled_none l hl

/-- Some natural lines leave a logical line begun or not, whatever comes after them. -/
theorem exists_logicalLines_append (h : ∀ b ∈ begun, Settled b) (lines : List (List Char)) :
    ∃ done next, (∀ rest, logicalLines begun (lines ++ rest) = done ++ logicalLines next rest) ∧
      next.isSome = lines.foldl goesOnAfter begun.isSome ∧ ∀ b ∈ next, Settled b := by
  induction lines generalizing begun with
  | nil => exact ⟨[], begun, fun _ => rfl, rfl, h⟩
  | cons line lines ih =>
    simp only [List.cons_append, logicalLines_cons h, List.foldl_cons]
    cases hgoes : goesOnAfter begun.isSome line with
    | true =>
      have hsettled := settled_dropLast_joined h (continues_of_goesOnAfter hgoes)
      simpa using ih (settled_some hsettled)
    | false =>
      obtain ⟨done, next, hdone, hnext, hsettled⟩ := ih settled_none
      by_cases hbelongs : (begun.isSome || !isComment (line.dropWhile isBlank)) = true
      · exact ⟨joined begun line :: done, next, by simp [hbelongs, hdone], hnext, hsettled⟩
      · exact ⟨done, next, by simp [hbelongs, hdone], hnext, hsettled⟩

/-! ## Lone backslashes -/

/-- A backslash and nothing else but blanks before it. -/
def IsLone (line : List Char) : Prop := line.dropWhile isBlank = ['\\']

/-- Lone backslashes, and then a blank line or the end: they add nothing to what has begun. -/
def EndsHollow (lines : List (List Char)) : Prop :=
  ∃ hollow after, lines = hollow ++ after ∧ (∀ l ∈ hollow, IsLone l) ∧
    ∀ l ∈ after.head?, l.dropWhile isBlank = []

/-- A lone backslash begins a logical line that comes to nothing, since lone backslashes are all
that goes on with it; `begun` tells whether one has begun before the first of the natural lines. -/
def HasHollow (begun : Bool) (lines : List (List Char)) : Prop :=
  ∃ before first rest, lines = before ++ first :: rest ∧
    before.foldl goesOnAfter begun = false ∧ IsLone first ∧ EndsHollow rest

theorem endsHollow_nil : EndsHollow [] := ⟨[], [], rfl, by simp, by simp⟩

theorem endsHollow_cons_iff {line : List Char} {rest : List (List Char)} :
    EndsHollow (line :: rest) ↔
      line.dropWhile isBlank = [] ∨ IsLone line ∧ EndsHollow rest := by
  constructor
  · rintro ⟨hollow, after, hlines, hlone, hblank⟩
    cases hollow with
    | nil =>
      obtain rfl : line :: rest = after := hlines
      exact .inl (hblank line rfl)
    | cons l hollow =>
      obtain ⟨rfl, rfl⟩ := List.cons.inj hlines
      exact .inr ⟨hlone line (by simp), hollow, after, rfl, fun l hl => hlone l (by simp [hl]),
        hblank⟩
  · rintro (hblank | ⟨hline, hollow, after, rfl, hlone, hblank⟩)
    · exact ⟨[], line :: rest, rfl, by simp, by simpa using hblank⟩
    · exact ⟨line :: hollow, after, rfl, by simpa using ⟨hline, hlone⟩, hblank⟩

theorem not_hasHollow_nil (b : Bool) : ¬ HasHollow b [] := by
  rintro ⟨before, first, rest, hlines, -⟩
  simp at hlines

theorem hasHollow_cons_iff {b : Bool} {line : List Char} {rest : List (List Char)} :
    HasHollow b (line :: rest) ↔
      (b = false ∧ IsLone line ∧ EndsHollow rest) ∨ HasHollow (goesOnAfter b line) rest := by
  constructor
  · rintro ⟨before, first, after, hlines, hbegun, hfirst, hafter⟩
    cases before with
    | nil =>
      obtain ⟨rfl, rfl⟩ := List.cons.inj hlines
      exact .inl ⟨hbegun, hfirst, hafter⟩
    | cons l before =>
      obtain ⟨rfl, rfl⟩ := List.cons.inj hlines
      exact .inr ⟨before, first, after, rfl, hbegun, hfirst, hafter⟩
  · rintro (⟨hbegun, hline, hrest⟩ | ⟨before, first, after, rfl, hbegun, hfirst, hafter⟩)
    · exact ⟨[], line, rest, rfl, hbegun, hline, hrest⟩
    · exact ⟨line :: before, first, after, rfl, hbegun, hfirst, hafter⟩

/-- A line that goes on is more than blanks. -/
theorem ne_nil_of_continues (h : continues line = true) : line.dropWhile isBlank ≠ [] := by
  intro hblank
  rw [← continues_dropWhile_isBlank, hblank] at h
  cases h

/-- Nothing is left of a lone backslash when it makes a logical line go on. -/
theorem dropLast_eq_nil_iff_isLone (h : continues line = true) :
    (line.dropWhile isBlank).dropLast = [] ↔ IsLone line := by
  rw [← continues_dropWhile_isBlank, continues_eq, beq_iff_eq] at h
  obtain ⟨before, hline, -⟩ := exists_eq_concat_of_odd h
  rw [IsLone, hline, List.dropLast_concat]
  simp

/-- A lone backslash makes any logical line go on. -/
theorem not_isLone_of_not_goesOnAfter {b : Bool} (h : goesOnAfter b line = false) :
    ¬ IsLone line := by
  intro hlone
  rw [goesOnAfter, ← continues_dropWhile_isBlank, hlone] at h
  cases b <;> cases h

/-- Where the empty logical lines come from: one that has begun with nothing goes on hollow, or a
lone backslash begins one. -/
theorem nil_mem_logicalLines_iff {lines : List (List Char)} (h : ∀ b ∈ begun, Settled b) :
    [] ∈ logicalLines begun lines ↔
      (begun = some [] ∧ EndsHollow lines) ∨ HasHollow begun.isSome lines := by
  induction lines generalizing begun with
  | nil => cases begun <;> simp [logicalLines, endsHollow_nil, not_hasHollow_nil, eq_comm]
  | cons line rest ih =>
    rw [logicalLines_cons h, endsHollow_cons_iff, hasHollow_cons_iff]
    cases hgoes : goesOnAfter begun.isSome line with
    | true =>
      have hcontinues := continues_of_goesOnAfter hgoes
      have hblank := ne_nil_of_continues hcontinues
      have hdrop : (joined begun line).dropLast =
          begun.getD [] ++ (line.dropWhile isBlank).dropLast :=
        List.dropLast_append_of_ne_nil hblank
      have hsettled := settled_dropLast_joined h hcontinues
      rw [if_pos rfl, ih (settled_some hsettled), hdrop]
      simp only [Option.some.injEq, List.append_eq_nil_iff, dropLast_eq_nil_iff_isLone hcontinues,
        hblank, false_or, Option.isSome_some]
      cases begun <;> simp [and_assoc]
    | false =>
      have hlone := not_isLone_of_not_goesOnAfter hgoes
      have hrest : [] ∈ logicalLines none rest ↔ HasHollow false rest := by
        simpa using ih settled_none
      simp only [hlone, false_and, and_false, or_false, false_or, Bool.false_eq_true, if_false]
      cases begun with
      | none =>
        cases hcomment : isComment (line.dropWhile isBlank) with
        | true => simpa using hrest
        | false =>
          have hne : line.dropWhile isBlank ≠ [] := fun hblank => by
            rw [hblank] at hcomment
            cases hcomment
          simpa [joined, hne.symm] using hrest
      | some b => simp [joined, hrest]

/-! ## Blank lines -/

/-- Whether some logical line of the text begins with a lone backslash and comes to nothing. -/
def HasHollowLine (text : String) : Prop := HasHollow false (naturalLines text.toList)

/-- **Logical lines are settled, and empty only if hollow.** No logical line begins with a blank or
ends in a backslash of its own. Some are empty just if a lone backslash begins a logical line and
nothing but lone backslashes goes on with it. Where this does not happen, there is no entry for an
empty line; and a blank line adds none in any text, unless a logical line goes on into it. -/
theorem logicalLines_empty_iff_hollow (text : String) :
    (∀ line ∈ logicalLines none (naturalLines text.toList),
      (∀ c ∈ line.head?, isBlank c = false) ∧ slashesAtEnd line % 2 = 0) ∧
    ([] ∈ logicalLines none (naturalLines text.toList) ↔ HasHollowLine text) ∧
    (¬ HasHollowLine text → entries text =
      entriesOf ((logicalLines none (naturalLines text.toList)).filter (· ≠ []))) ∧
    ∀ before blank after, naturalLines text.toList = before ++ blank :: after →
      goesOn before = false → blank.dropWhile isBlank = [] →
      entries text = entriesOf (logicalLines none (before ++ after)) := by
  have hhollow : [] ∈ logicalLines none (naturalLines text.toList) ↔ HasHollowLine text :=
    (nil_mem_logicalLines_iff settled_none).trans (by simp [HasHollowLine])
  refine ⟨fun line hline => ?_, hhollow, fun h => ?_,
    fun before blank after hlines hends hblank => ?_⟩
  · have hsettled := settled_of_mem_logicalLines settled_none line hline
    exact ⟨hsettled.head_not_blank, hsettled.slashes_even⟩
  · rw [List.filter_eq_self.2, entries]
    intro line hline
    exact decide_eq_true fun hempty => h (hhollow.1 (hempty ▸ hline))
  · obtain ⟨done, next, hdone, hnext, -⟩ := exists_logicalLines_append settled_none before
    obtain rfl : next = none := by
      rw [← Option.not_isSome_iff_eq_none, hnext]
      exact Bool.eq_false_iff.1 hends
    rw [entries, hlines, hdone, hdone, logicalLines_cons settled_none]
    simp [goesOnAfter, hblank, isComment]

/-- A lone backslash inside a logical line does no harm, and neither does a blank line after it. -/
theorem logicalLines_empty_iff_hollow_sample :
    ¬ HasHollowLine "a\\\n\\\n =b\n\n" ∧
    (entries "a\\\n\\\n =b\n\n" = entriesOf
      ((logicalLines none (naturalLines "a\\\n\\\n =b\n\n".toList)).filter (· ≠ []))) ∧
    entries "a\\\n\\\n =b\n\n" =
      entriesOf (logicalLines none [['a', '\\'], ['\\'], [' ', '=', 'b'], []]) := by
  obtain ⟨-, hhollow, hnonempty, hblank⟩ := logicalLines_empty_iff_hollow "a\\\n\\\n =b\n\n"
  have hnone : ¬ HasHollowLine "a\\\n\\\n =b\n\n" := hhollow.not.1 (by decide)
  exact ⟨hnone, hnonempty hnone,
    hblank [['a', '\\'], ['\\'], [' ', '=', 'b']] [] [[]] (by decide) (by decide) rfl⟩

/-- After a lone backslash the blank line is an entry without key and value. -/
theorem lone_backslash_makes_empty_entry :
    [] ∈ logicalLines none (naturalLines "a=1\n\\\n\nb=2".toList) ∧
    entries "a=1\n\\\n\nb=2" =
      ([("a", "1"), ("", ""), ("b", "2")].map CodePoints.ofPair, none) := by decide

end PropertyDocs.FlatFormat
