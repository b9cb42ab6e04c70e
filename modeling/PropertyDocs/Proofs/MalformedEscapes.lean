import PropertyDocs.Document
import PropertyDocs.Proofs.FlatText

/-!
# Malformed escapes

The code escape of a character has four hexadecimal digits. Where a key or a value has an escape
with fewer, reading a flat document stops: the entries of the lines before are given, and the error
names the key or value. So what is given is told by the first such line alone.
-/
namespace PropertyDocs.FlatFormat

/-! ## Digits -/

def hexDigits : List Char := "0123456789abcdefABCDEF".toList

theorem toNat_lt_of_hexValue? {c : Char} (h : (hexValue? c).isSome = true) : c.toNat < 128 := by
  unfold hexValue? at h
  simp only [Char.isDigit, Bool.and_eq_true, decide_eq_true_eq, Char.le_def,
    UInt32.le_iff_toNat_le] at h
  split at h
  · next hdigit =>
    have hlast : c.toNat ≤ 57 := hdigit.2
    omega
  · split at h
    · next hlower =>
      have hlast : c.toNat ≤ 102 := hlower.2
      omega
    · split at h
      · next hupper =>
        have hlast : c.toNat ≤ 70 := hupper.2
        omega
      · cases h

/-- The hexadecimal digits are those of ASCII. -/
theorem hexValue?_isSome_iff {c : Char} : (hexValue? c).isSome ↔ c ∈ hexDigits := by
  have hascii : ∀ n < 128, ((hexValue? (Char.ofNat n)).isSome ↔ Char.ofNat n ∈ hexDigits) := by
    decide +kernel
  have hdigits : hexDigits.all (fun d => d.toNat < 128) = true := by decide +kernel
  constructor
  · intro h
    simpa [h] using hascii c.toNat (toNat_lt_of_hexValue? h)
  · intro h
    simpa [h] using hascii c.toNat (of_decide_eq_true (List.all_eq_true.1 hdigits c h))

theorem ne_slash_of_mem_hexDigits {d : Char} (h : d ∈ hexDigits) : d ≠ '\\' := by
  rintro rfl
  exact absurd h (by decide)

theorem codePoint?_isSome_iff {a b c d : Char} :
    (codePoint? [a, b, c, d]).isSome ↔
      a ∈ hexDigits ∧ b ∈ hexDigits ∧ c ∈ hexDigits ∧ d ∈ hexDigits := by
  simp only [← hexValue?_isSome_iff, codePoint?, List.mapM_cons, List.mapM_nil]
  cases hexValue? a <;> cases hexValue? b <;> cases hexValue? c <;> cases hexValue? d <;> simp

/-! ## Keys and values -/

/-- A code escape comes first, and fewer than four digits after it. -/
def BeginsMalformed (cs : List Char) : Prop :=
  ∃ rest, cs = '\\' :: 'u' :: rest ∧ (rest.takeWhile (hexDigits.contains ·)).length < 4

/-- There is a code escape in the text, the backslash of which is not escaped itself, with fewer than
four digits. -/
def HasMalformedEscape (cs : List Char) : Prop := Unescaped BeginsMalformed cs

theorem not_beginsMalformed_of_ne {c : Char} (h : c ≠ '\\') (cs : List Char) :
    ¬ BeginsMalformed (c :: cs) := by
  rintro ⟨rest, hcs, -⟩
  exact h (List.cons.inj hcs).1

theorem beginsMalformed_code {rest : List Char} :
    BeginsMalformed ('\\' :: 'u' :: rest) ↔ (rest.takeWhile (hexDigits.contains ·)).length < 4 := by
  simp [BeginsMalformed]

/-- Digits escape nothing, and are not escaped. -/
theorem hasMalformedEscape_digit {d : Char} (h : d ∈ hexDigits) {cs : List Char} :
    HasMalformedEscape (d :: cs) ↔ HasMalformedEscape cs := by
  have hslash := ne_slash_of_mem_hexDigits h
  rw [HasMalformedEscape, unescaped_cons_iff hslash]
  exact or_iff_right (not_beginsMalformed_of_ne hslash cs)

theorem takeWhile_four_iff {a b c d : Char} {cs : List Char} :
    ((a :: b :: c :: d :: cs).takeWhile (hexDigits.contains ·)).length < 4 ↔
      ¬ (a ∈ hexDigits ∧ b ∈ hexDigits ∧ c ∈ hexDigits ∧ d ∈ hexDigits) := by
  by_cases ha : a ∈ hexDigits <;> by_cases hb : b ∈ hexDigits <;> by_cases hc : c ∈ hexDigits <;>
    by_cases hd : d ∈ hexDigits <;> simp [ha, hb, hc, hd]

/-- Escapes are resolved unless one of them is malformed. -/
theorem unescape?_eq_none_iff {cs : List Char} :
    unescape? cs = none ↔ HasMalformedEscape cs := by
  fun_induction unescape? cs with
  | case1 => simp [HasMalformedEscape, unescaped_nil_iff, BeginsMalformed]
  | case2 => simp [HasMalformedEscape, unescaped_slash_iff, BeginsMalformed]
  | case3 a b c d cs ih =>
    by_cases hdigits : a ∈ hexDigits ∧ b ∈ hexDigits ∧ c ∈ hexDigits ∧ d ∈ hexDigits
    · obtain ⟨u, hu⟩ := Option.isSome_iff_exists.1 (codePoint?_isSome_iff.2 hdigits)
      have hrest : HasMalformedEscape (a :: b :: c :: d :: cs) ↔ HasMalformedEscape cs := by
        obtain ⟨ha, hb, hc, hd⟩ := hdigits
        rw [hasMalformedEscape_digit ha, hasMalformedEscape_digit hb, hasMalformedEscape_digit hc,
          hasMalformedEscape_digit hd]
      rw [HasMalformedEscape, unescaped_escape_iff, beginsMalformed_code, takeWhile_four_iff,
        or_iff_right (not_not.2 hdigits), ← HasMalformedEscape, hrest, ← ih, hu]
      cases unescape? cs <;> simp
    · have hnone : codePoint? [a, b, c, d] = none := by
        rw [← Option.not_isSome_iff_eq_none, codePoint?_isSome_iff]
        exact hdigits
      rw [hnone]
      exact iff_of_true rfl (.here (beginsMalformed_code.2 (takeWhile_four_iff.2 hdigits)))
  | case4 c cs hshort hu =>
    obtain rfl : c = 'u' := by simpa using hu
    have hlength : cs.length < 4 := by
      rcases cs with _ | ⟨a, _ | ⟨b, _ | ⟨c, _ | ⟨d, cs⟩⟩⟩⟩
      · simp
      · simp
      · simp
      · simp
      · exact absurd rfl (hshort a b c d cs rfl)
    have hfew : (cs.takeWhile (hexDigits.contains ·)).length < 4 :=
      Nat.lt_of_le_of_lt (List.takeWhile_sublist _).length_le hlength
    exact iff_of_true rfl (.here (beginsMalformed_code.2 hfew))
  | case5 c cs _ hu ih =>
    have hbegins : ¬ BeginsMalformed ('\\' :: c :: cs) := by
      rintro ⟨rest, hcs, -⟩
      simp only [List.cons.injEq, true_and] at hcs
      exact hu (by simp [hcs.1])
    rw [Option.map_eq_none_iff, ih, HasMalformedEscape, HasMalformedEscape, unescaped_escape_iff,
      or_iff_right hbegins]
  | case6 c cs hlone _ hescape ih =>
    have hslash : c ≠ '\\' := ne_slash_of_not_escape hlone hescape
    rw [Option.map_eq_none_iff, ih, HasMalformedEscape, HasMalformedEscape,
      unescaped_cons_iff hslash, or_iff_right (not_beginsMalformed_of_ne hslash cs)]

instance : DecidablePred HasMalformedEscape := fun _ => decidable_of_iff _ unescape?_eq_none_iff

theorem unescape_of_malformed {cs : List Char} (h : HasMalformedEscape cs) :
    unescape cs = .error ⟨String.ofList cs⟩ := by
  rw [unescape, unescape?_eq_none_iff.2 h]

theorem exists_unescape_of_not_malformed {cs : List Char} (h : ¬ HasMalformedEscape cs) :
    ∃ text, unescape cs = .ok text := by
  obtain ⟨text, htext⟩ := Option.ne_none_iff_exists'.1 (mt unescape?_eq_none_iff.1 h)
  exact ⟨text, by rw [unescape, htext]⟩

/-! ## Lines -/

/-- The key or the value of the line has a malformed escape. -/
def IsMalformed (line : List Char) : Prop :=
  HasMalformedEscape (splitEntry line).1 ∨ HasMalformedEscape (splitEntry line).2

instance : DecidablePred IsMalformed := fun line =>
  inferInstanceAs (Decidable (HasMalformedEscape (splitEntry line).1 ∨ _))

/-- What is wrong with a malformed line: its key if that has a malformed escape, else its value. -/
def malformedPart (line : List Char) : MalformedEscape :=
  ⟨String.ofList (if HasMalformedEscape (splitEntry line).1 then (splitEntry line).1
    else (splitEntry line).2)⟩

theorem entry_eq (line : List Char) :
    entry line = unescape (splitEntry line).1 >>= fun key =>
      unescape (splitEntry line).2 >>= fun value => pure (key, value) := rfl

theorem entry_of_malformed {line : List Char} (h : IsMalformed line) :
    entry line = .error (malformedPart line) := by
  rw [entry_eq, malformedPart]
  by_cases hkey : HasMalformedEscape (splitEntry line).1
  · rw [unescape_of_malformed hkey, if_pos hkey]
    rfl
  · obtain ⟨key, hread⟩ := exists_unescape_of_not_malformed hkey
    rw [hread, unescape_of_malformed (h.resolve_left hkey), if_neg hkey]
    rfl

theorem exists_entry_of_not_malformed {line : List Char} (h : ¬ IsMalformed line) :
    ∃ e, entry line = .ok e := by
  obtain ⟨hkey, hvalue⟩ := not_or.1 h
  obtain ⟨key, hkey⟩ := exists_unescape_of_not_malformed hkey
  obtain ⟨value, hvalue⟩ := exists_unescape_of_not_malformed hvalue
  exact ⟨(key, value), by rw [entry_eq, hkey, hvalue]; rfl⟩

/-- Lines that are not malformed give their entries, whatever comes after them. -/
theorem exists_entriesOf_append {before : List (List Char)} (h : ∀ l ∈ before, ¬ IsMalformed l)
    (after : List (List Char)) :
    ∃ es, before.map entry = es.map .ok ∧
      entriesOf (before ++ after) = (es ++ (entriesOf after).1, (entriesOf after).2) := by
  induction before with
  | nil => exact ⟨[], rfl, rfl⟩
  | cons line before ih =>
    obtain ⟨hline, hbefore⟩ := List.forall_mem_cons.1 h
    obtain ⟨e, he⟩ := exists_entry_of_not_malformed hline
    obtain ⟨es, hes, hentries⟩ := ih hbefore
    refine ⟨e :: es, by simp [he, hes], ?_⟩
    rw [List.cons_append, entriesOf, he, hentries]
    rfl

theorem entriesOf_malformed {line : List Char} (h : IsMalformed line) (after : List (List Char)) :
    entriesOf (line :: after) = ([], some (malformedPart line)) := by
  rw [entriesOf, entry_of_malformed h]

/-- Some line is malformed, so one is the first. -/
theorem exists_first_malformed {lines : List (List Char)} (h : ∃ line ∈ lines, IsMalformed line) :
    ∃ before line after, lines = before ++ line :: after ∧ (∀ l ∈ before, ¬ IsMalformed l) ∧
      IsMalformed line := by
  have hsome : (lines.find? fun l => decide (IsMalformed l)).isSome := by simpa using h
  obtain ⟨first, hfirst⟩ := Option.isSome_iff_exists.1 hsome
  obtain ⟨hmalformed, before, after, rfl, hbefore⟩ := List.find?_eq_some_iff_append.1 hfirst
  exact ⟨before, first, after, rfl, by simpa using hbefore, of_decide_eq_true hmalformed⟩

/-! ## Documents -/

section
variable {text : String}

/-- Up to the first malformed line the entries are given. -/
theorem exists_entries_of_first_malformed {before after : List (List Char)} {line : List Char}
    (hlines : logicalLines none (naturalLines text.toList) = before ++ line :: after)
    (hbefore : ∀ l ∈ before, ¬ IsMalformed l) (hline : IsMalformed line) :
    ∃ es, before.map entry = es.map .ok ∧ entries text = (es, some (malformedPart line)) := by
  obtain ⟨es, hes, hentries⟩ := exists_entriesOf_append hbefore (line :: after)
  refine ⟨es, hes, ?_⟩
  rw [entries, hlines, hentries, entriesOf_malformed hline, List.append_nil]

theorem exists_entries_of_not_malformed
    (hall : ∀ line ∈ logicalLines none (naturalLines text.toList), ¬ IsMalformed line) :
    ∃ es, (logicalLines none (naturalLines text.toList)).map entry = es.map .ok ∧
      entries text = (es, none) := by
  obtain ⟨es, hes, hentries⟩ := exists_entriesOf_append hall []
  refine ⟨es, hes, ?_⟩
  rw [List.append_nil] at hentries
  rw [entries, hentries, entriesOf, List.append_nil]

/-- There is an error if and only if a line is malformed. -/
theorem isSome_error_iff : (entries text).2.isSome ↔
    ∃ line ∈ logicalLines none (naturalLines text.toList), IsMalformed line := by
  constructor
  · intro herror
    by_contra hnone
    obtain ⟨es, -, hentries⟩ := exists_entries_of_not_malformed fun line hline hmalformed =>
      hnone ⟨line, hline, hmalformed⟩
    rw [hentries] at herror
    cases herror
  · intro hsome
    obtain ⟨before, line, after, hlines, hbefore, hline⟩ := exists_first_malformed hsome
    obtain ⟨es, -, hentries⟩ := exists_entries_of_first_malformed hlines hbefore hline
    rw [hentries]
    rfl

end

/-- The error about a malformed line; no line number is known of it. -/
def malformedError (line : List Char) : CompileError :=
  .defect (.malformedEscape (malformedPart line)) none

section
variable {τ : Type} [Texts τ] {text : String} {es : List (CodePoints × CodePoints)}
  {line : List Char}

theorem flatBody_of_malformed (h : entries text = (es, some (malformedPart line))) :
    (Document.flatBody text : Except CompileError (List (Statement τ))) =
      .error (malformedError line) := by
  rw [Document.flatBody, h, malformedError]

theorem compileFlat_of_malformed {content : Document.Content}
    (h : entries content.toText = (es, some (malformedPart line))) (source : Option String)
    (decryptor : Option (Decryptor τ)) :
    Document.compileFlat content source decryptor = .error (malformedError line) := by
  rw [Document.compileFlat, flatBody_of_malformed h]
  rfl

end

/-- **Reading stops at the first malformed escape.** There is an error if and only if some logical
line has, in its key or its value, an escape with fewer than four of the digits of ASCII. For the
first such line the entries given are those of the lines before it, and the error names its key or
value; parsing and compiling then fail with that error, whatever texts are made of, and it is told
with the source. Otherwise all lines give their entries, and these are the document. -/
theorem entries_stop_at_malformed {τ : Type} [Texts τ] (text : String) :
    ((entries text).2.isSome ↔
      ∃ line ∈ logicalLines none (naturalLines text.toList), IsMalformed line) ∧
    (∀ before line after,
      logicalLines none (naturalLines text.toList) = before ++ line :: after →
      (∀ l ∈ before, ¬ IsMalformed l) → IsMalformed line →
      ∃ es, before.map entry = es.map .ok ∧ entries text = (es, some (malformedPart line)) ∧
        (Document.flatBody text : Except CompileError (List (Statement τ))) =
          .error (malformedError line) ∧
        ∀ (content : Document.Content) (source : Option String), content.toText = text →
          (∀ decryptor : Option (Decryptor τ),
            Document.compileFlat content source decryptor = .error (malformedError line)) ∧
          (∀ decryptor : Option Decryptor,
            Document.compile content .flat source decryptor = .error (malformedError line)) ∧
          (malformedError line).message source = CompileError.location source none ++
            ("Malformed \\uxxxx encoding: " ++ Text.quoted (malformedPart line).text)) ∧
    ((∀ line ∈ logicalLines none (naturalLines text.toList), ¬ IsMalformed line) →
      ∃ es, (logicalLines none (naturalLines text.toList)).map entry = es.map .ok ∧
        entries text = (es, none) ∧
        (Document.flatBody text : Except CompileError (List (Statement τ))) =
          .ok (es.map fun e => Document.flatStatement (Texts.ofEntry e))) ∧
    ∀ c, (hexValue? c).isSome ↔ c ∈ hexDigits := by
  refine ⟨isSome_error_iff, ?_, ?_, fun c => hexValue?_isSome_iff⟩
  · intro before line after hlines hbefore hline
    obtain ⟨es, hes, hentries⟩ := exists_entries_of_first_malformed hlines hbefore hline
    refine ⟨es, hes, hentries, flatBody_of_malformed hentries, fun content source hcontent => ?_⟩
    subst hcontent
    exact ⟨compileFlat_of_malformed hentries source, compileFlat_of_malformed hentries source, rfl⟩
  · intro hall
    obtain ⟨es, hes, hentries⟩ := exists_entries_of_not_malformed hall
    exact ⟨es, hes, hentries, by rw [Document.flatBody, hentries]⟩

/-- The key of the first line is half a surrogate pair. The second line goes on with the next one,
which has the last digits, and one that is none of ASCII; its key is right. The line after it would
be malformed as well. -/
theorem entries_stop_at_malformed_sample :
    let text := "\\ud800=\\\\u\nb\\u003D=\\u00\\\n 4\uff11\nc\\u=1"
    let first : CodePoints × CodePoints := ([.ofNat 0xD800], "\\u")
    logicalLines none (naturalLines text.toList) =
      ["\\ud800=\\\\u".toList, "b\\u003D=\\u004\uff11".toList, "c\\u=1".toList] ∧
    ¬ IsMalformed "\\ud800=\\\\u".toList ∧ IsMalformed "b\\u003D=\\u004\uff11".toList ∧
    entries text = ([first], some ⟨"\\u004\uff11"⟩) := by
  intro text first
  have hlines : logicalLines none (naturalLines text.toList) =
      ["\\ud800=\\\\u".toList, "b\\u003D=\\u004\uff11".toList, "c\\u=1".toList] := by decide
  have hfirst : ¬ IsMalformed "\\ud800=\\\\u".toList := by decide
  have hsecond : IsMalformed "b\\u003D=\\u004\uff11".toList := by decide
  obtain ⟨es, hes, hentries, -⟩ := (entries_stop_at_malformed (τ := String) text).2.1
    ["\\ud800=\\\\u".toList] "b\\u003D=\\u004\uff11".toList ["c\\u=1".toList] hlines
    (by simpa using hfirst) hsecond
  have hone : [first].map Except.ok = es.map Except.ok := hes
  obtain rfl := List.map_injective_iff.2 (fun _ _ => Except.ok.inj) hone
  exact ⟨hlines, hfirst, hsecond, hentries⟩

end PropertyDocs.FlatFormat
