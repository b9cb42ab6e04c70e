import PropertyDocs.Proofs.LogicalLines

/-!
# Continuation lines

A logical line can be broken wherever no backslash waits for a character and no blank comes next: a
backslash, a line end and any blanks there change nothing about the entries. A text that is cut in
two has the natural lines of the one part and of the other, with the two at the cut in one
(`exists_naturalLines_append`); so it is one natural line that is broken, and its two pieces are
joined to the same text as the whole line (`logicalLines_broken`).
-/
namespace PropertyDocs.FlatFormat

/-! ## Cutting a text -/

theorem Parted.of_append {before text after : List Char} (h : Parted (before ++ text) after) :
    Parted text after := fun ⟨hlast, hfirst⟩ => h ⟨by simp [List.getLast?_append, hlast], hfirst⟩

/-- What follows is parted from a text if its first piece is and it is parted from that piece. -/
theorem Parted.append {before text after : List Char} (h : Parted before text)
    (h' : Parted (before ++ text) after) : Parted before (text ++ after) := by
  cases text with
  | nil => rwa [List.append_nil] at h'
  | cons c text => exact h

theorem oneLine_nil : OneLine [] := ⟨by simp, by simp⟩

/-- A text is one line, or it begins with a line and an end of it. -/
theorem oneLine_or_exists_firstLine (text : List Char) :
    OneLine text ∨ ∃ line lineEnd rest, text = line ++ (lineEnd ++ rest) ∧ OneLine line ∧
      lineEnd ∈ lineEnds ∧ Parted lineEnd rest := by
  induction text with
  | nil => exact .inl oneLine_nil
  | cons c text ih =>
    by_cases hfeed : c = '\n'
    · subst hfeed
      exact .inr ⟨[], ['\n'], text, rfl, oneLine_nil, by simp [lineEnds], by simp [Parted]⟩
    by_cases hreturn : c = '\r'
    · subst hreturn
      by_cases hpair : text.head? = some '\n'
      · obtain ⟨rest, rfl⟩ := List.head?_eq_some_iff.1 hpair
        exact .inr ⟨[], ['\r', '\n'], rest, rfl, oneLine_nil, by simp [lineEnds],
          by simp [Parted]⟩
      · exact .inr ⟨[], ['\r'], text, rfl, oneLine_nil, by simp [lineEnds], by simp [Parted, hpair]⟩
    rcases ih with hline | ⟨line, lineEnd, rest, rfl, hline, hend⟩
    · exact .inl (hline.cons hreturn hfeed)
    · exact .inr ⟨c :: line, lineEnd, rest, rfl, hline.cons hreturn hfeed, hend⟩

theorem slashesAtEnd_lineEnd {lineEnd : List Char} (hend : lineEnd ∈ lineEnds)
    (line rest : List Char) :
    slashesAtEnd (line ++ (lineEnd ++ rest)) % 2 = slashesAtEnd rest % 2 := by
  simp only [lineEnds, List.mem_cons, List.not_mem_nil, or_false] at hend
  rcases hend with rfl | rfl | rfl
  · exact slashesAtEnd_append_cons (by decide) line rest
  · exact slashesAtEnd_append_cons (by decide) line rest
  · simpa using slashesAtEnd_append_cons (c := '\n') (by decide) (line ++ ['\r']) rest

/-- The first natural line is a beginning of the text. -/
theorem exists_naturalLines_eq_cons (text : List Char) :
    ∃ first lines, naturalLines text = first :: lines ∧ first <+: text := by
  rcases oneLine_or_exists_firstLine text with
    hline | ⟨line, lineEnd, rest, rfl, hline, hend, hparted⟩
  · exact ⟨text, [], naturalLines_of_oneLine hline, List.prefix_refl text⟩
  · refine ⟨line, naturalLines rest, ?_, List.prefix_append ..⟩
    simpa using naturalLines_append hline (naturalLines_of_parted hend hparted)

/-- The natural lines of a text that is cut in two. -/
theorem exists_naturalLines_append (a : List Char) :
    ∃ before last, naturalLines a = before ++ [last] ∧
      slashesAtEnd last % 2 = slashesAtEnd a % 2 ∧
      ∀ b first lines, Parted a b → naturalLines b = first :: lines →
        naturalLines (a ++ b) = before ++ (last ++ first) :: lines := by
  rcases oneLine_or_exists_firstLine a with
    hline | ⟨line, lineEnd, rest, ha, hline, hend, hparted⟩
  · exact ⟨[], a, naturalLines_of_oneLine hline, rfl,
      fun b first lines _ hb => naturalLines_append hline hb⟩
  · obtain ⟨before, last, hrest, hslashes, happend⟩ := exists_naturalLines_append rest
    subst ha
    have hfirst : ∀ text, Parted lineEnd text →
        naturalLines (line ++ (lineEnd ++ text)) = line :: naturalLines text := by
      intro text htext
      simpa using naturalLines_append hline (naturalLines_of_parted hend htext)
    refine ⟨line :: before, last, by rw [hfirst rest hparted, hrest]; rfl,
      hslashes.trans (slashesAtEnd_lineEnd hend line rest).symm, fun b first lines hcut hb => ?_⟩
    have hcut : Parted (lineEnd ++ rest) b := hcut.of_append
    rw [List.append_assoc, List.append_assoc, hfirst _ (hparted.append hcut),
      happend b first lines hcut.of_append hb]
    rfl
termination_by a.length
decreasing_by
  have hlength : lineEnd.length ≠ 0 := by
    intro hzero
    simp [List.length_eq_zero_iff.1 hzero, lineEnds] at hend
  simp only [ha, List.length_append]
  omega

/-! ## Breaking a line -/

theorem dropWhile_isBlank_append_of_head {b : List Char} (h : ∀ c ∈ b.head?, isBlank c = false)
    (a : List Char) : (a ++ b).dropWhile isBlank = a.dropWhile isBlank ++ b := by
  have hb : b.dropWhile isBlank = b := by
    cases b with
    | nil => rfl
    | cons c b => rw [List.dropWhile_cons_of_neg (by simp [h c rfl])]
  rw [List.dropWhile_append, hb]
  split
  · next hempty => rw [List.isEmpty_iff.1 hempty, List.nil_append]
  · rfl

/-- A natural line of a logical line may be given in two pieces, the first one with a backslash at
its end. -/
theorem logicalLines_broken {begun : Option (List Char)} (h : ∀ b ∈ begun, Settled b)
    {line next blanks : List Char} (heven : slashesAtEnd line % 2 = 0)
    (hnext : ∀ c ∈ next.head?, isBlank c = false) (hblanks : Blanks blanks)
    (hbelongs : begun.isSome = true ∨ isComment ((line ++ next).dropWhile isBlank) = false)
    (lines : List (List Char)) :
    logicalLines begun ((line ++ ['\\']) :: (blanks ++ next) :: lines) =
      logicalLines begun ((line ++ next) :: lines) := by
  have hslash : ∀ c ∈ ['\\'].head?, isBlank c = false := by
    rintro c ⟨⟩
    rfl
  have hends : continues line = false := continues_eq_false_iff.2 heven
  -- the first piece belongs to the logical line, and makes it go on
  have hbegins : (begun.isSome || !isComment ((line ++ ['\\']).dropWhile isBlank)) = true := by
    rcases hbelongs with hbegun | hcomment
    · rw [hbegun, Bool.true_or]
    · rw [dropWhile_isBlank_append_of_head hnext] at hcomment
      rw [dropWhile_isBlank_append_of_head hslash]
      cases hline : line.dropWhile isBlank with
      | nil => simp [isComment]
      | cons c cs =>
        rw [hline] at hcomment
        exact (congrArg (begun.isSome || !·) hcomment).trans (Bool.or_true _)
  have hgoes : goesOnAfter begun.isSome (line ++ ['\\']) = true := by
    rw [goesOnAfter, hbegins, continues_append_eq hends]
    rfl
  have hfirst : (joined begun (line ++ ['\\'])).dropLast = joined begun line := by
    rw [joined, dropWhile_isBlank_append_of_head hslash, ← List.append_assoc, List.dropLast_concat]
    rfl
  have hwhole : (begun.isSome || !isComment ((line ++ next).dropWhile isBlank)) = true := by
    rcases hbelongs with hbegun | hcomment
    · rw [hbegun, Bool.true_or]
    · rw [hcomment, Bool.not_false, Bool.or_true]
  -- the second one adds what the whole line would have added
  have hsettled := settled_some (settled_joined h hends)
  have hsecond :
      joined (some (joined begun line)) (blanks ++ next) = joined begun (line ++ next) := by
    rw [joined, dropWhile_isBlank_append hblanks, joined, joined,
      dropWhile_isBlank_append_of_head hnext, Option.getD_some, List.append_assoc,
      ← List.nil_append next, dropWhile_isBlank_append_of_head hnext]
    rfl
  have hgoesOn : goesOnAfter true (blanks ++ next) = goesOnAfter begun.isSome (line ++ next) := by
    rw [goesOnAfter, goesOnAfter, hwhole, continues_append_eq (continues_blanks hblanks),
      continues_append_eq hends, Bool.true_or]
  rw [logicalLines_cons h, hgoes, if_pos rfl, hfirst, logicalLines_cons hsettled, hsecond,
    logicalLines_cons h (line ++ next), Option.isSome_some, hgoesOn, hwhole, Bool.true_or]

/-! ## Broken lines -/

/-- The natural line in which the place between `a` and `b` lies belongs to a logical line: one has
begun before it, or it is neither blank nor a comment. -/
def InLogicalLine (a b : String) : Prop :=
  ∃ before line after, naturalLines (a ++ b).toList = before ++ line :: after ∧
    (naturalLines a.toList).length = before.length + 1 ∧
    (goesOn before = true ∨ isComment (line.dropWhile isBlank) = false)

/-- **Breaking a logical line changes nothing**, neither the logical lines nor the entries with the
error that ends them. The break comes after an even run of backslashes, in front of no blank and not
inside a line end; where there are only blanks before it on its natural line, these are all the
blanks that the line begins with. Its own line end must not take with it a line feed that was there
already. -/
theorem entries_brokenAcrossLines {a b lineEnd blanks : String} (hplace : InLogicalLine a b)
    (heven : slashesAtEnd a.toList % 2 = 0) (hnext : ∀ c ∈ b.toList.head?, isBlank c = false)
    (hcut : Parted a.toList b.toList) (hend : lineEnd.toList ∈ lineEnds)
    (hblanks : Blanks blanks.toList) (hparted : Parted lineEnd.toList (blanks ++ b).toList) :
    logicalLines none (naturalLines (a ++ "\\" ++ lineEnd ++ blanks ++ b).toList) =
      logicalLines none (naturalLines (a ++ b).toList) ∧
    entries (a ++ "\\" ++ lineEnd ++ blanks ++ b) = entries (a ++ b) := by
  obtain ⟨before, last, ha, hlast, happend⟩ := exists_naturalLines_append a.toList
  obtain ⟨first, lines, hb, rest, hrest⟩ := exists_naturalLines_eq_cons b.toList
  have hfirst : ∀ c ∈ first.head?, isBlank c = false := by
    intro c hc
    obtain ⟨cs, rfl⟩ := List.head?_eq_some_iff.1 hc
    exact hnext c (by rw [← hrest]; rfl)
  have hwhole : naturalLines (a ++ b).toList = before ++ (last ++ first) :: lines := by
    rw [String.toList_append]
    exact happend _ first lines hcut hb
  have hbroken : naturalLines (a ++ "\\" ++ lineEnd ++ blanks ++ b).toList =
      before ++ (last ++ ['\\']) :: (blanks.toList ++ first) :: lines := by
    have hafter : naturalLines (blanks.toList ++ b.toList) = (blanks.toList ++ first) :: lines :=
      naturalLines_append (oneLine_blanks hblanks) hb
    have hslash : OneLine ['\\'] := ⟨by decide, by decide⟩
    have hbreak : naturalLines (['\\'] ++ (lineEnd.toList ++ (blanks.toList ++ b.toList))) =
        ['\\'] :: (blanks.toList ++ first) :: lines := by
      rw [String.toList_append] at hparted
      exact naturalLines_append hslash
        ((naturalLines_of_parted hend hparted).trans (by rw [hafter]))
    have hcut : Parted a.toList (['\\'] ++ (lineEnd.toList ++ (blanks.toList ++ b.toList))) := by
      simp [Parted]
    simpa [String.toList_append] using happend _ _ _ hcut hbreak
  -- all natural lines before the one that is broken are gone through in the same way
  obtain ⟨done, next, hdone, hnext, hsettled⟩ := exists_logicalLines_append settled_none before
  have hbelongs : next.isSome = true ∨ isComment ((last ++ first).dropWhile isBlank) = false := by
    obtain ⟨before', line, after, hlines, hlength, hbelongs⟩ := hplace
    have hsame : before'.length = before.length := by
      rw [ha, List.length_append, List.length_singleton] at hlength
      omega
    obtain ⟨rfl, htail⟩ := List.append_inj (hlines.symm.trans hwhole) hsame
    obtain rfl := (List.cons.inj htail).1
    rw [hnext]
    exact hbelongs
  have hsame : logicalLines none (naturalLines (a ++ "\\" ++ lineEnd ++ blanks ++ b).toList) =
      logicalLines none (naturalLines (a ++ b).toList) := by
    rw [hbroken, hwhole, hdone, hdone,
      logicalLines_broken hsettled (hlast.trans heven) hfirst hblanks hbelongs]
  exact ⟨hsame, by rw [entries, entries, hsame]⟩

/-- A break inside the number of a character, on a line that goes on with the next one, which would
be a comment by itself. -/
theorem entries_brokenAcrossLines_sample :
    InLogicalLine "#c\nk=\\u00" "41\\\n#x" ∧
    (logicalLines none
        (naturalLines ("#c\nk=\\u00" ++ "\\" ++ "\r" ++ "\t " ++ "41\\\n#x").toList) =
      logicalLines none (naturalLines ("#c\nk=\\u00" ++ "41\\\n#x").toList) ∧
    entries ("#c\nk=\\u00" ++ "\\" ++ "\r" ++ "\t " ++ "41\\\n#x") =
      entries ("#c\nk=\\u00" ++ "41\\\n#x")) ∧
    logicalLines none (naturalLines ("#c\nk=\\u00" ++ "41\\\n#x").toList) =
      ["k=\\u0041#x".toList] ∧
    entries ("#c\nk=\\u00" ++ "41\\\n#x") = ([("k", "A#x")].map CodePoints.ofPair, none) := by
  have hplace : InLogicalLine "#c\nk=\\u00" "41\\\n#x" :=
    ⟨["#c".toList], "k=\\u0041\\".toList, ["#x".toList], by decide, by decide, .inr (by decide)⟩
  have hnext : ∀ c ∈ "41\\\n#x".toList.head?, isBlank c = false := by
    rintro c ⟨⟩
    rfl
  exact ⟨hplace, entries_brokenAcrossLines hplace (by decide) hnext (by decide) (by decide)
    (by simp [Blanks]) (by decide), by decide, by decide⟩

end PropertyDocs.FlatFormat
