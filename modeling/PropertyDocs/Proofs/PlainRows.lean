import PropertyDocs.Pattern.Basic

/-!
# Reading plain rows

The fields of a plain row are lone stars and texts without special characters. Such a row is read
without a fault, as one group for each field with a line feed between two of them: the reader is
followed over one character, over the body of a group, over a group, and over all groups in turn.
There is no backslash in the row, so that passing characters never fails.
-/
namespace PropertyDocs

namespace PatternReader

/-! ## Plain fields -/

/-- The characters that mean something in a pattern. -/
def isSpecial (c : Char) : Bool := "\\.^$*+?\x7b[|()".toList.contains c

/-- A field that is a lone star, or says nothing but itself. -/
def isPlain (field : List Char) : Bool :=
  field == ['*'] || field.all fun c => !isSpecial c && c != '\n'

/-- What a plain field is read as. -/
def fieldRegex (folding : Folding) (field : List Char) : Regex :=
  if field = ['*'] then .repeated 0 none .greedy (.anyChar false)
  else Regex.sequence (field.map fun c => .char c.toNat folding)

/-- The text of the group that a field becomes, without its parentheses. -/
def groupBody (field : List Char) : List Char := if field = ['*'] then ['.', '*'] else field

theorem fieldGroup_eq (field : List Char) :
    Pattern.fieldGroup field = '(' :: groupBody field ++ [')'] := by
  rw [Pattern.fieldGroup, groupBody]
  by_cases h : field = ['*'] <;> simp [h]

variable {s : State} {mode : Mode} {first : Bool} {done : List Piece} {c : Char} {cs : List Char}
  {fuel n : Nat}

/-! ## Steps of the reader -/

/-- A reader that has passed `n` characters. -/
def State.passed (n : Nat) (s : State) : State :=
  { s with rest := s.rest.drop n, place := s.place + n }

theorem State.passed_passed (a b : Nat) (s : State) : (s.passed a).passed b = s.passed (a + b) := by
  simp [passed, Nat.add_assoc]

theorem not_mem_passed (h : '\\' ∉ s.rest) (n : Nat) : '\\' ∉ (s.passed n).rest :=
  fun hmem => h (List.mem_of_mem_drop hmem)

theorem run_pass (h : '\\' ∉ s.rest) (n : Nat) : (pass n).run s = pure ((), s.passed n) := by
  have hdrop : s.rest.drop n ≠ ['\\'] := by
    intro heq
    exact h (List.mem_of_mem_drop (i := n) (heq ▸ by simp))
  simp [pass, hdrop, State.passed]

theorem run_peek : peek.run s = pure (Token.next? s.rest, s) := by
  simp [peek]

theorem next?_cons (h : c ≠ '\\') : Token.next? (c :: cs) = some (.plain c) := by
  simp [Token.next?, h]

theorem run_accept (h : '\\' ∉ s.rest) (hrest : s.rest = c :: cs) :
    (accept c).run s = pure (true, s.passed 1) := by
  have hc : c ≠ '\\' := by
    rintro rfl
    simp [hrest] at h
  simp [accept, run_peek, hrest, next?_cons hc, run_pass h]

theorem run_accept_other (h : Token.next? s.rest ≠ some (.plain c)) :
    (accept c).run s = pure (false, s) := by
  simp [accept, run_peek, h]

/-! ## Pieces -/

theorem run_pieces_literal (h : '\\' ∉ s.rest) (hmode : .verbose ∉ mode) (hc : isSpecial c = false)
    (hrest : s.rest = c :: cs) :
    (pieces (fuel + 1) mode first done).run s =
      (pieces fuel mode first (⟨.plain, .char c.toNat mode.folding⟩ :: done)).run (s.passed 1) := by
  simp only [isSpecial, String.reduceToList, List.contains_cons, List.contains_nil,
    Bool.or_eq_false_iff, beq_eq_false_iff_ne] at hc
  rw [pieces]
  simp [run_peek, hrest, next?_cons hc.1, hc, run_pass h, hmode, pieceKind]

theorem run_pieces_end (h : Token.next? s.rest = none ∨ Token.next? s.rest = some (.plain ')')) :
    (pieces (fuel + 1) mode first done).run s = pure (finish done, s) := by
  rw [pieces]
  rcases h with h | h <;> simp [run_peek, h]

theorem run_pieces_dot (h : '\\' ∉ s.rest) (hmode : .verbose ∉ mode) (hdot : .dotAll ∉ mode)
    (hrest : s.rest = '.' :: cs) :
    (pieces (fuel + 1) mode first done).run s =
      (pieces fuel mode first (⟨.plain, .anyChar false⟩ :: done)).run (s.passed 1) := by
  rw [pieces]
  simp [run_peek, hrest, next?_cons, run_pass h, hmode, hdot, pieceKind]

theorem run_greed (h : Token.next? s.rest = some (.plain ')')) :
    greed.run s = pure (.greedy, s) := by
  simp [greed, run_accept_other, h]

theorem run_pieces_star {body : Regex} (h : '\\' ∉ s.rest) (hmode : .verbose ∉ mode)
    (hrest : s.rest = '*' :: ')' :: cs) :
    (pieces (fuel + 1) mode first (⟨.plain, body⟩ :: done)).run s =
      (pieces fuel mode first (⟨.repetition, .repeated 0 none .greedy body⟩ :: done)).run
        (s.passed 1) := by
  have hgreed : greed.run (s.passed 1) = pure (.greedy, s.passed 1) :=
    run_greed (by simp [State.passed, hrest, next?_cons])
  have hcounts : (counts '*').run (s.passed 1) = pure (some (0, none), s.passed 1) := rfl
  rw [pieces]
  simp [run_peek, hrest, next?_cons, run_pass h, hmode, hcounts, repeatLast, hgreed]

theorem run_pieces_literals : ∀ {f : List Char} {s : State} {done : List Piece}, '\\' ∉ s.rest →
    .verbose ∉ mode → (∀ c ∈ f, isSpecial c = false) → s.rest = f ++ cs →
    (pieces (fuel + f.length) mode first done).run s =
      (pieces fuel mode first
        ((f.map fun c => ⟨.plain, .char c.toNat mode.folding⟩).reverse ++ done)).run
          (s.passed f.length)
  | [], s, done, _, _, _, _ => by simp [State.passed]
  | c :: f, s, done, h, hmode, hf, hrest => by
    have hrest' : (s.passed 1).rest = f ++ cs := by simp [State.passed, hrest]
    rw [List.length_cons, ← Nat.add_assoc, run_pieces_literal h hmode (hf c (by simp)) hrest,
      run_pieces_literals (not_mem_passed h 1) hmode (fun c hc => hf c (by simp [hc])) hrest',
      State.passed_passed, Nat.add_comm 1]
    simp

/-! ## Groups -/

theorem isPlain_cases {field : List Char} (h : isPlain field = true) :
    field = ['*'] ∨ field ≠ ['*'] ∧ ∀ c ∈ field, isSpecial c = false ∧ c ≠ '\n' := by
  by_cases hstar : field = ['*']
  · exact .inl hstar
  · simp only [isPlain, beq_eq_false_iff_ne.2 hstar, Bool.false_or, List.all_eq_true,
      Bool.and_eq_true, Bool.not_eq_true', bne_iff_ne] at h
    exact .inr ⟨hstar, h⟩

variable {field : List Char}

/-- The body of a group reads up to the parenthesis that closes it. -/
theorem run_pieces_field (h : '\\' ∉ s.rest) (hverbose : .verbose ∉ mode) (hdot : .dotAll ∉ mode)
    (hplain : isPlain field = true) (hrest : s.rest = groupBody field ++ ')' :: cs)
    (hfuel : (groupBody field).length < fuel) :
    (pieces fuel mode first []).run s =
      pure (fieldRegex mode.folding field, s.passed (groupBody field).length) := by
  have hend : Token.next? (s.passed (groupBody field).length).rest = some (.plain ')') := by
    simp [State.passed, hrest, next?_cons]
  rcases isPlain_cases hplain with rfl | ⟨hstar, hchars⟩
  · obtain ⟨fuel, rfl⟩ : ∃ n, fuel = n + 3 := ⟨fuel - 3, by simp [groupBody] at hfuel; omega⟩
    have hrest' : (s.passed 1).rest = '*' :: ')' :: cs := by
      simp [State.passed, hrest, groupBody]
    rw [run_pieces_dot h hverbose hdot hrest,
      run_pieces_star (not_mem_passed h 1) hverbose hrest', State.passed_passed]
    exact run_pieces_end (.inr hend)
  · simp only [groupBody, hstar, if_false] at hrest hfuel hend ⊢
    obtain ⟨fuel, rfl⟩ : ∃ n, fuel = (n + 1) + field.length := ⟨fuel - field.length - 1, by omega⟩
    rw [run_pieces_literals h hverbose (fun c hc => (hchars c hc).1) hrest,
      run_pieces_end (.inr hend)]
    simp [finish, fieldRegex, hstar, Function.comp_def]

theorem run_branches_field (h : '\\' ∉ s.rest) (hverbose : .verbose ∉ mode)
    (hdot : .dotAll ∉ mode) (hplain : isPlain field = true)
    (hrest : s.rest = groupBody field ++ ')' :: cs) (hfuel : (groupBody field).length < fuel) :
    (branches (fuel + 1) mode false).run s =
      pure (fieldRegex mode.folding field, s.passed (groupBody field).length) := by
  have hend : Token.next? (s.passed (groupBody field).length).rest = some (.plain ')') := by
    simp [State.passed, hrest, next?_cons]
  rw [branches]
  simp [run_pieces_field h hverbose hdot hplain hrest hfuel, run_accept_other, hend]

theorem run_close (h : '\\' ∉ s.rest) (hrest : s.rest = ')' :: cs) (start : Nat) :
    (close start).run s = pure ((), s.passed 1) := by
  simp [close, run_accept h hrest]

theorem next?_groupBody (hplain : isPlain field = true) :
    Token.next? (groupBody field ++ ')' :: cs) ≠ some (.plain '?') := by
  rcases isPlain_cases hplain with rfl | ⟨hstar, hchars⟩
  · simp [groupBody, next?_cons]
  · rw [groupBody, if_neg hstar]
    cases field with
    | nil => simp [next?_cons]
    | cons c field =>
      have hc := (hchars c (by simp)).1
      have hslash : c ≠ '\\' := by
        rintro rfl
        revert hc
        decide
      have hquestion : c ≠ '?' := by
        rintro rfl
        revert hc
        decide
      simp [next?_cons hslash, hquestion]

/-- What reading has changed besides the place, which is before `rest`: some groups are there. -/
structure State.Reads (s s' : State) (rest : List Char) (groups : Nat) : Prop where
  rest : s'.rest = rest
  flags : s'.flags = s.flags
  conditions : s'.conditions = s.conditions
  groups : s'.groups.length = s.groups.length + groups

/-- A reader in a group that it has just opened. -/
def State.opened (s : State) : State := { s with groups := s.groups ++ [none] }

theorem run_openGroup : (openGroup none).run s = pure (s.groups.length + 1, s.opened) := rfl

variable (first done) in
theorem run_parenthesis_field (h : '\\' ∉ s.rest) (hverbose : .verbose ∉ mode)
    (hdot : .dotAll ∉ mode) (hplain : isPlain field = true)
    (hrest : s.rest = groupBody field ++ ')' :: cs) (hfuel : (groupBody field).length < fuel) :
    ∃ s', s.Reads s' cs 1 ∧
      (parenthesis (fuel + 2) mode first done).run s =
        (pieces (fuel + 1) mode first
          (⟨.plain, .group (s.groups.length + 1) (fieldRegex mode.folding field)⟩ :: done)).run
            s' := by
  have hopening : Token.next? s.rest ≠ some (.plain '?') := hrest ▸ next?_groupBody hplain
  let read : State := s.opened.passed (groupBody field).length
  have hread : read.rest = ')' :: cs := by simp [read, State.opened, State.passed, hrest]
  have hbranches : (branches (fuel + 1) mode false).run s.opened =
      pure (fieldRegex mode.folding field, read) :=
    run_branches_field (s := s.opened) h hverbose hdot hplain hrest hfuel
  have hclose : ∀ start, (close start).run read = pure ((), read.passed 1) :=
    run_close (not_mem_passed (s := s.opened) h _) hread
  obtain ⟨closed, hclosed, hreads⟩ : ∃ closed, (closeGroup (s.groups.length + 1)
      (fieldRegex mode.folding field)).run (read.passed 1) = pure ((), closed) ∧
        s.Reads closed cs 1 :=
    ⟨_, rfl, ⟨by simp [State.passed, hread], rfl, rfl, by simp [read, State.opened, State.passed]⟩⟩
  refine ⟨closed, hreads, ?_⟩
  rw [parenthesis]
  simp [opening, run_accept_other hopening, run_openGroup, hbranches, hclose, hclosed]

variable (first done) in
theorem run_pieces_group (h : '\\' ∉ s.rest) (hverbose : .verbose ∉ mode)
    (hdot : .dotAll ∉ mode) (hplain : isPlain field = true)
    (hrest : s.rest = Pattern.fieldGroup field ++ cs) (hfuel : (groupBody field).length < fuel) :
    ∃ s', s.Reads s' cs 1 ∧
      (pieces (fuel + 3) mode first done).run s =
        (pieces (fuel + 1) mode first
          (⟨.plain, .group (s.groups.length + 1) (fieldRegex mode.folding field)⟩ :: done)).run
            s' := by
  have hrest : s.rest = '(' :: (groupBody field ++ ')' :: cs) := by simp [hrest, fieldGroup_eq]
  have hbody : (s.passed 1).rest = groupBody field ++ ')' :: cs := by simp [State.passed, hrest]
  obtain ⟨s', hreads, hrun⟩ := run_parenthesis_field first done
    (not_mem_passed h 1) hverbose hdot hplain hbody hfuel
  refine ⟨s', ⟨hreads.rest, hreads.flags, hreads.conditions, hreads.groups⟩, ?_⟩
  rw [pieces]
  simp [run_peek, hrest, next?_cons, run_pass h, hverbose, hrun]
  rfl

/-! ## Rows -/

/-- What the groups of plain fields and the line feeds between them are read as, with `i` groups
before them. -/
def rowRegexes (folding : Folding) : Nat → List (List Char) → List Regex
  | _, [] => []
  | i, [f] => [.group (i + 1) (fieldRegex folding f)]
  | i, f :: g :: fields =>
    .group (i + 1) (fieldRegex folding f) :: .char '\n'.toNat folding ::
      rowRegexes folding (i + 1) (g :: fields)

variable (first) in
/-- A plain row reads to its end. Three units of fuel for each character are enough: a group takes
three besides those of its body, and passes two parentheses. -/
theorem run_pieces_row (hverbose : .verbose ∉ mode) (hdot : .dotAll ∉ mode) :
    ∀ {fields : List (List Char)} {s : State} (done : List Piece) {fuel : Nat},
      '\\' ∉ s.rest → (∀ f ∈ fields, isPlain f = true) →
      s.rest = Text.joined ['\n'] (fields.map Pattern.fieldGroup) →
      3 * s.rest.length + 2 ≤ fuel →
      ∃ s', s.Reads s' [] fields.length ∧ (pieces fuel mode first done).run s =
        pure (finish (((rowRegexes mode.folding s.groups.length fields).map
          (Piece.mk .plain)).reverse ++ done), s')
  | [], s, done, fuel, _, _, hrest, hfuel => by
    obtain ⟨fuel, rfl⟩ : ∃ n, fuel = n + 1 := ⟨fuel - 1, by omega⟩
    exact ⟨s, ⟨hrest, rfl, rfl, rfl⟩, run_pieces_end (.inl (by rw [hrest]; rfl))⟩
  | [f], s, done, fuel, h, hfields, hrest, hfuel => by
    have hrest : s.rest = Pattern.fieldGroup f ++ [] := by simpa [Text.joined] using hrest
    have hlength : s.rest.length = (groupBody f).length + 2 := by simp [hrest, fieldGroup_eq]
    obtain ⟨fuel, rfl⟩ : ∃ n, fuel = n + 3 := ⟨fuel - 3, by omega⟩
    have hfuel : (groupBody f).length < fuel := by omega
    obtain ⟨s', hreads, hrun⟩ :=
      run_pieces_group first done h hverbose hdot (hfields f (by simp)) hrest hfuel
    refine ⟨s', hreads, ?_⟩
    rw [hrun, run_pieces_end (.inl (by rw [hreads.rest]; rfl))]
    rfl
  | f :: g :: fields, s, done, fuel, h, hfields, hrest, hfuel => by
    let others := Text.joined ['\n'] ((g :: fields).map Pattern.fieldGroup)
    have hrest : s.rest = Pattern.fieldGroup f ++ '\n' :: others := by
      simp [hrest, others, Text.joined_cons_cons]
    have hlength : s.rest.length = (groupBody f).length + 3 + others.length := by
      simp [hrest, fieldGroup_eq]
      omega
    obtain ⟨fuel, rfl⟩ : ∃ n, fuel = n + 3 := ⟨fuel - 3, by omega⟩
    have hbody : (groupBody f).length < fuel := by omega
    obtain ⟨s₁, hgroup, hrun⟩ :=
      run_pieces_group first done h hverbose hdot (hfields f (by simp)) hrest hbody
    have hs₁ : '\\' ∉ s₁.rest := fun hmem => h (by rw [hrest, hgroup.rest.symm]; simp [hmem])
    have hothers : (s₁.passed 1).rest = others := by simp [State.passed, hgroup.rest]
    have hfuel : 3 * (s₁.passed 1).rest.length + 2 ≤ fuel := by
      rw [hothers]
      omega
    obtain ⟨s₂, hreads, hrow⟩ := run_pieces_row hverbose hdot
      (⟨.plain, .char '\n'.toNat mode.folding⟩ ::
        ⟨.plain, .group (s.groups.length + 1) (fieldRegex mode.folding f)⟩ :: done)
      (not_mem_passed hs₁ 1) (fun f hf => hfields f (by simp [hf])) hothers hfuel
    refine ⟨s₂, ⟨hreads.rest, hreads.flags.trans hgroup.flags,
      hreads.conditions.trans hgroup.conditions, ?_⟩, ?_⟩
    · have hcount : s₂.groups.length = s₁.groups.length + (g :: fields).length := hreads.groups
      have hone := hgroup.groups
      simp only [List.length_cons] at hcount ⊢
      omega
    · have hcount : (s₁.passed 1).groups.length = s.groups.length + 1 := hgroup.groups
      rw [hrun, run_pieces_literal hs₁ hverbose (by decide) hgroup.rest, hrow, hcount]
      simp [rowRegexes]

/-- A plain row is read whole if no flag but that for letter case is in force. -/
theorem run_whole_row {fields : List (List Char)} (h : '\\' ∉ s.rest)
    (hflags : ∀ flag ∈ s.flags, flag = .ignoreCase) (hconditions : s.conditions = [])
    (hfields : ∀ f ∈ fields, isPlain f = true)
    (hrest : s.rest = Text.joined ['\n'] (fields.map Pattern.fieldGroup)) :
    ∃ s', s.Reads s' [] fields.length ∧ whole.run s =
      pure (Regex.sequence (rowRegexes (Mode.folding s.flags) s.groups.length fields), s') := by
  have hmode : ∀ flag ≠ .ignoreCase, flag ∉ s.flags := fun flag hne hmem => hne (hflags flag hmem)
  obtain ⟨s', hreads, hrun⟩ := run_pieces_row true (hmode .verbose (by decide))
    (hmode .dotAll (by decide)) [] h hfields hrest (Nat.le_refl _)
  have hbranches : (branches (3 * s.rest.length + 3) s.flags true).run s =
      pure (Regex.sequence (rowRegexes (Mode.folding s.flags) s.groups.length fields), s') := by
    have hend : Token.next? s'.rest ≠ some (.plain '|') := by simp [hreads.rest, Token.next?]
    rw [branches]
    simp [hrun, run_accept_other hend, finish, Function.comp_def]
  refine ⟨s', hreads, ?_⟩
  have hpass : (pass 0).run s = pure ((), s) := run_pass h 0
  rw [whole]
  simp [hpass, hbranches, hreads.rest, hreads.flags, hreads.conditions, hconditions,
    hmode .ascii]

end PatternReader

namespace Regex

theorem defect?_sequence {template : Bool} : ∀ {rs : List Regex},
    (∀ r ∈ rs, r.defect? template = none) → (sequence rs).defect? template = none
  | [], _ => rfl
  | [r], h => h r (by simp)
  | r :: r' :: rs, h => by
    have hrest : (sequence (r' :: rs)).defect? template = none :=
      defect?_sequence fun r hr => h r (by simp [hr])
    simp [sequence, defect?, h r, hrest]

end Regex

namespace PatternReader

theorem defect?_fieldRegex (folding : Folding) (field : List Char) :
    (fieldRegex folding field).defect? false = none := by
  rw [fieldRegex]
  split
  · rfl
  · refine Regex.defect?_sequence fun r hr => ?_
    obtain ⟨c, -, rfl⟩ := List.mem_map.1 hr
    rfl

theorem defect?_rowRegexes (folding : Folding) : ∀ (i : Nat) (fields : List (List Char)),
    ∀ r ∈ rowRegexes folding i fields, r.defect? false = none
  | _, [], r, hr => by simp [rowRegexes] at hr
  | i, [f], r, hr => by
    obtain rfl : r = _ := by simpa [rowRegexes] using hr
    exact defect?_fieldRegex folding f
  | i, f :: g :: fields, r, hr => by
    simp only [rowRegexes, List.mem_cons] at hr
    rcases hr with rfl | rfl | hr
    · exact defect?_fieldRegex folding f
    · rfl
    · exact defect?_rowRegexes folding (i + 1) (g :: fields) r (by simpa using hr)

end PatternReader

namespace Pattern
variable {row : String} {separator : Option String} {caseSensitive : Bool}

/-- Whether all fields of a row are plain. -/
def isPlainRow (row : String) (separator : Option String) : Bool :=
  (fields separator row).all PatternReader.isPlain

/-- How the pattern of a row treats letter case. -/
def rowFolding (caseSensitive : Bool) : Folding := if caseSensitive then .exact else .unicode

/-- The pattern of a plain row. -/
def ofPlainRow (row : String) (separator : Option String) (caseSensitive : Bool) : Pattern where
  text := rowText row separator
  ignoreCase := !caseSensitive
  groups := (fields separator row).length
  regex := Regex.sequence (PatternReader.rowRegexes (rowFolding caseSensitive) 0
    (fields separator row))

theorem backslash_not_mem_fieldGroup {field : List Char} (h : PatternReader.isPlain field = true) :
    '\\' ∉ fieldGroup field := by
  rw [PatternReader.fieldGroup_eq, PatternReader.groupBody]
  rcases PatternReader.isPlain_cases h with rfl | ⟨hstar, hchars⟩
  · decide
  · have hfield : '\\' ∉ field := fun hmem => absurd (hchars _ hmem).1 (by decide)
    simp [hstar, hfield]

/-- Plain rows compile. -/
theorem compileRow_of_isPlainRow (h : isPlainRow row separator = true) :
    compileRow row separator caseSensitive = .ok (ofPlainRow row separator caseSensitive) := by
  have hfields : ∀ f ∈ fields separator row, PatternReader.isPlain f = true :=
    List.all_eq_true.1 h
  have htext : (rowText row separator).toList =
      Text.joined ['\n'] ((fields separator row).map fieldGroup) := String.toList_ofList
  have hbackslash : '\\' ∉ (rowText row separator).toList := by
    rw [htext]
    intro hmem
    rcases Text.mem_joined hmem with hmem | ⟨f, hf, hmem⟩
    · simp at hmem
    · obtain ⟨field, hfield, rfl⟩ := List.mem_map.1 hf
      exact backslash_not_mem_fieldGroup (hfields field hfield) hmem
  let start : PatternReader.State :=
    { rest := (rowText row separator).toList, place := 0
      flags := if !caseSensitive then [.ignoreCase] else []
      groups := [], names := [], lookbehind := none, conditions := [] }
  obtain ⟨s, hreads, hrun⟩ := PatternReader.run_whole_row (s := start) hbackslash
    (by cases caseSensitive <;> simp [start]) rfl hfields htext
  have hfolding : PatternReader.Mode.folding start.flags = rowFolding caseSensitive := by
    cases caseSensitive <;> rfl
  rw [hfolding] at hrun
  have htemplate : s.flags.contains .template = false := by
    rw [hreads.flags]
    cases caseSensitive <;> rfl
  have hignore : s.flags.contains .ignoreCase = !caseSensitive := by
    rw [hreads.flags]
    cases caseSensitive <;> rfl
  have hgroups : s.groups.length = (fields separator row).length := by
    simpa [start] using hreads.groups
  change (PatternReader.whole.run start >>= _) = _
  simp only [hrun, pure_bind, htemplate, hignore, hgroups,
    Regex.defect?_sequence (PatternReader.defect?_rowRegexes _ _ _)]
  rfl

end Pattern

end PropertyDocs
