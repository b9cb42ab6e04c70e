import PropertyDocs.Proofs.LineCuts
import PropertyDocs.Proofs.LogicalLines
import PropertyDocs.Proofs.MalformedEscapes

/-!
# Paired backslashes

A backslash with nothing after it would be read as itself, but decoding a document never comes to
one. A logical line ends in an even run of backslashes, and so do the key and the value it is cut
into (`continues_splitEntry`). Each turn of decoding leaves the end of the text as it is, with an
even run or an odd one (`DecodesChar.slashesAtEnd_eq`), so where the run is even no backslash is
left over (`decodes_lone_iff`).
-/
namespace PropertyDocs.FlatFormat

/-! ## Decoding by turns -/

/-- One turn of decoding: `c` is what the text begins with, a character or an escape, and `rest` is
what follows it. There is no turn for a lone backslash or for a malformed escape. -/
inductive DecodesChar : List Char → CodePoint → List Char → Prop
  | plain {c : Char} {rest : List Char} : c ≠ '\\' → DecodesChar (c :: rest) (.char c) rest
  | letter {c : Char} {rest : List Char} : c ≠ 'u' →
      DecodesChar ('\\' :: c :: rest) (.char (letterEscape c)) rest
  | code {a b c d : Char} {u : CodePoint} {rest : List Char} : codePoint? [a, b, c, d] = some u →
      DecodesChar ('\\' :: 'u' :: a :: b :: c :: d :: rest) u rest

/-- `Decodes cs out rest`: decoding `cs` gives `out` after some turns, and then stands before
`rest`. -/
inductive Decodes : List Char → CodePoints → List Char → Prop
  | start {cs : List Char} : Decodes cs [] cs
  | turn {cs next rest : List Char} {c : CodePoint} {out : CodePoints} : DecodesChar cs c next →
      Decodes next out rest → Decodes cs (c :: out) rest

section
variable {cs rest : List Char} {c : CodePoint} {out text : CodePoints}

theorem DecodesChar.unescape?_eq (h : DecodesChar cs c rest) :
    unescape? cs = (unescape? rest).map (c :: ·) := by
  cases h with
  | plain hc => exact unescape?_cons hc rest
  | letter hu => exact unescape?_letter hu rest
  | code hu => exact unescape?_code hu rest

/-- What is given after some turns comes first in the whole text. -/
theorem Decodes.unescape?_eq (h : Decodes cs out rest) :
    unescape? cs = (unescape? rest).map (out ++ ·) := by
  induction h with
  | start => simp
  | turn hc _ ih =>
    rw [hc.unescape?_eq, ih, Option.map_map]
    rfl

/-- A text that is decoded is decoded by turns, to its end or to a lone backslash. -/
theorem exists_decodes_of_unescape? (h : unescape? cs = some text) :
    ∃ out rest, text = out ++ rest.map .char ∧ Decodes cs out rest ∧
      (rest = [] ∨ rest = ['\\']) := by
  fun_induction unescape? cs generalizing text with
  | case1 =>
    cases h
    exact ⟨[], [], rfl, .start, .inl rfl⟩
  | case2 =>
    cases h
    exact ⟨[], ['\\'], rfl, .start, .inr rfl⟩
  | case3 a b c d cs ih =>
    simp only [Option.bind_eq_bind, Option.bind_eq_some_iff, Option.pure_def,
      Option.some.injEq] at h
    obtain ⟨u, hu, decoded, hdecoded, rfl⟩ := h
    obtain ⟨out, rest, rfl, hrun, hrest⟩ := ih hdecoded
    exact ⟨u :: out, rest, rfl, .turn (.code hu) hrun, hrest⟩
  | case4 => cases h
  | case5 c cs _ hu ih =>
    obtain ⟨decoded, hdecoded, rfl⟩ := Option.map_eq_some_iff.1 h
    obtain ⟨out, rest, rfl, hrun, hrest⟩ := ih hdecoded
    have hletter : c ≠ 'u' := by simpa using hu
    exact ⟨.char (letterEscape c) :: out, rest, rfl, .turn (.letter hletter) hrun, hrest⟩
  | case6 c cs hlone _ hescape ih =>
    have hslash : c ≠ '\\' := ne_slash_of_not_escape hlone hescape
    obtain ⟨decoded, hdecoded, rfl⟩ := Option.map_eq_some_iff.1 h
    obtain ⟨out, rest, rfl, hrun, hrest⟩ := ih hdecoded
    exact ⟨.char c :: out, rest, rfl, .turn (.plain hslash) hrun, hrest⟩

/-- What is decoded is what the turns give, and a lone backslash where they stop at one. -/
theorem unescape?_eq_some_iff : unescape? cs = some text ↔
    ∃ out rest, text = out ++ rest.map .char ∧ Decodes cs out rest ∧
      (rest = [] ∨ rest = ['\\']) := by
  refine ⟨exists_decodes_of_unescape?, ?_⟩
  rintro ⟨out, rest, rfl, hrun, hrest⟩
  have hkept : unescape? rest = some (rest.map .char) := by rcases hrest with rfl | rfl <;> rfl
  rw [hrun.unescape?_eq, hkept, Option.map_some]

theorem unescape_eq_ok_iff : unescape cs = .ok text ↔ unescape? cs = some text := by
  rw [unescape]
  cases unescape? cs with
  | none => simp
  | some out => simp

/-! ## The end of what is decoded -/

/-- A turn takes a backslash only with the character after it, and digits are no backslashes. -/
theorem DecodesChar.slashesAtEnd_eq (h : DecodesChar cs c rest) :
    slashesAtEnd cs % 2 = slashesAtEnd rest % 2 := by
  cases h with
  | plain hc => exact slashesAtEnd_cons hc rest
  | letter => exact slashesAtEnd_escape _ rest
  | code hu =>
    obtain ⟨ha, hb, hc, hd⟩ := codePoint?_isSome_iff.1 (Option.isSome_of_eq_some hu)
    rw [slashesAtEnd_escape, slashesAtEnd_cons (ne_slash_of_mem_hexDigits ha),
      slashesAtEnd_cons (ne_slash_of_mem_hexDigits hb),
      slashesAtEnd_cons (ne_slash_of_mem_hexDigits hc),
      slashesAtEnd_cons (ne_slash_of_mem_hexDigits hd)]

theorem Decodes.slashesAtEnd_eq (h : Decodes cs out rest) :
    slashesAtEnd cs % 2 = slashesAtEnd rest % 2 := by
  induction h with
  | start => rfl
  | turn hc _ ih => rw [hc.slashesAtEnd_eq, ih]

/-- Decoding comes to a lone backslash where the run at the end is odd, and only a malformed escape
stops it before. -/
theorem decodes_lone_iff :
    (∃ out, Decodes cs out ['\\']) ↔ slashesAtEnd cs % 2 = 1 ∧ ¬ HasMalformedEscape cs := by
  constructor
  · rintro ⟨out, hrun⟩
    refine ⟨hrun.slashesAtEnd_eq, fun hmalformed => ?_⟩
    rw [← unescape?_eq_none_iff, hrun.unescape?_eq] at hmalformed
    cases hmalformed
  · rintro ⟨hodd, hright⟩
    obtain ⟨text, htext⟩ := Option.ne_none_iff_exists'.1 (mt unescape?_eq_none_iff.1 hright)
    obtain ⟨out, rest, -, hrun, hrest⟩ := exists_decodes_of_unescape? htext
    rcases hrest with rfl | rfl
    · rw [hrun.slashesAtEnd_eq] at hodd
      cases hodd
    · exact ⟨out, hrun⟩

/-- Of a text that is no key and no value a backslash can be left over. -/
example : ∃ out, Decodes "k\\".toList out ['\\'] := decodes_lone_iff.2 (by decide)

end

/-! ## The ends of keys and values -/

theorem continues_dropSign (cs : List Char) : continues (dropSign cs) = continues cs := by
  cases cs with
  | nil => rfl
  | cons c cs =>
    rw [dropSign]
    split
    · next hsign =>
      have hslash : c ≠ '\\' := by
        rintro rfl
        cases hsign
      exact (continues_append_eq (continues_singleton hslash) cs).symm
    · rfl

/-- The value ends as what follows the key does: nothing is dropped but blanks and a sign. -/
theorem continues_value (line : List Char) :
    continues (splitEntry line).2 = continues (splitKey line).2 := by
  rw [splitEntry, continues_dropWhile_isBlank, continues_dropSign, continues_dropWhile_isBlank]

/-- A line with no backslash of its own at the end is cut into such parts: the key ends before
something that is not escaped, or with the line. -/
theorem continues_splitEntry {line : List Char} (h : continues line = false) :
    continues (splitEntry line).1 = false ∧ continues (splitEntry line).2 = false := by
  obtain ⟨hline, -, hnext⟩ := splitKey_cuts line
  have hkey : continues (splitKey line).1 = false := by
    cases hrest : (splitKey line).2 with
    | nil =>
      rw [hrest, List.append_nil] at hline
      rwa [hline]
    | cons c rest => exact continues_eq_false_iff.2 (hnext c (by rw [hrest]; rfl)).2
  refine ⟨hkey, ?_⟩
  rw [continues_value, ← continues_append_eq hkey, hline, h]

/-- **No backslash is left over.** Each key and each value of a logical line, as it stands, ends in
an even run of backslashes. Decoding it never comes to a backslash with nothing after it, also if a
malformed escape stops it, and what it is decoded to is what the turns of decoding give up to its
end. -/
theorem parts_leave_no_backslash (text : String) :
    ∀ line ∈ logicalLines none (naturalLines text.toList),
    ∀ part ∈ [(splitEntry line).1, (splitEntry line).2],
      slashesAtEnd part % 2 = 0 ∧ (∀ out, ¬ Decodes part out ['\\']) ∧
        ∀ decoded, unescape part = .ok decoded ↔ Decodes part decoded [] := by
  intro line hline part hpart
  have hends : continues line = false :=
    continues_eq_false_iff.2 (settled_of_mem_logicalLines settled_none line hline).slashes_even
  obtain ⟨hkey, hvalue⟩ := continues_splitEntry hends
  have heven : slashesAtEnd part % 2 = 0 := by
    simp only [List.mem_cons, List.not_mem_nil, or_false] at hpart
    rcases hpart with rfl | rfl
    · exact continues_eq_false_iff.1 hkey
    · exact continues_eq_false_iff.1 hvalue
  have hnone : ∀ out, ¬ Decodes part out ['\\'] := fun out hrun => by
    have hodd := (decodes_lone_iff.1 ⟨out, hrun⟩).1
    omega
  refine ⟨heven, hnone, fun decoded => ?_⟩
  rw [unescape_eq_ok_iff, unescape?_eq_some_iff]
  constructor
  · rintro ⟨out, rest, hdecoded, hrun, rfl | rfl⟩
    · rwa [hdecoded, List.map_nil, List.append_nil]
    · exact absurd hrun (hnone out)
  · intro hrun
    exact ⟨decoded, [], (List.append_nil _).symm, hrun, .inl rfl⟩

/-- A line that goes on, and ends with the text and a backslash of its own; the value begins with a
backslash that is written by its number. -/
theorem parts_leave_no_backslash_sample :
    let line := "k\\\\ =\\u005C\\\\".toList
    let value := "\\u005C\\\\".toList
    line ∈ logicalLines none (naturalLines "k\\\\ \\\n =\\u005C\\\\\\".toList) ∧
    value ∈ [(splitEntry line).1, (splitEntry line).2] ∧
    (∀ out, ¬ Decodes value out ['\\']) ∧ Decodes value "\\\\" [] := by
  intro line value
  have hline : line ∈ logicalLines none (naturalLines "k\\\\ \\\n =\\u005C\\\\\\".toList) := by
    decide
  have hvalue : value ∈ [(splitEntry line).1, (splitEntry line).2] := by decide
  obtain ⟨-, hnone, hdecoded⟩ :=
    parts_leave_no_backslash "k\\\\ \\\n =\\u005C\\\\\\" line hline value hvalue
  exact ⟨hline, hvalue, hnone, (hdecoded "\\\\").1 (by decide)⟩

end PropertyDocs.FlatFormat
