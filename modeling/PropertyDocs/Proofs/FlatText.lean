import PropertyDocs.FlatFormat
import PropertyDocs.Proofs.Backslashes

/-!
# Ways of writing a flat document

The same entries can be written in many ways: each character as itself or by an escape, with blanks
around the key and the sign, with any line ends, and with comments and empty lines between the
entries. All of them are read as the same entries.
-/
namespace PropertyDocs.FlatFormat

/-! ## Written entries -/

/-- A hexadecimal digit of the given value, in either case. -/
def IsHexDigit (d : Char) (value : Nat) : Prop :=
  value < 16 ∧ (d = value.digitChar ∨ d = value.digitChar.toUpper)

/-- The characters that may not stand for themselves. -/
def special : List Char := ['\\', '=', ':', '#', '!', ' ', '\t', '\x0c', '\r', '\n']

/-- `SpellsChar c w`: the character `c` may be written as `w`. -/
inductive SpellsChar : Char → List Char → Prop
  | plain {c : Char} : c ∉ special →
      SpellsChar c [c]
  | escaped {c : Char} : c ∉ ['t', 'n', 'r', 'f', 'u', '\r', '\n'] → SpellsChar c ['\\', c]
  | tab : SpellsChar '\t' ['\\', 't']
  | lineFeed : SpellsChar '\n' ['\\', 'n']
  | carriageReturn : SpellsChar '\r' ['\\', 'r']
  | formFeed : SpellsChar '\x0c' ['\\', 'f']
  | code {c d₁ d₂ d₃ d₄ : Char} {v₁ v₂ v₃ v₄ : Nat} : IsHexDigit d₁ v₁ → IsHexDigit d₂ v₂ →
      IsHexDigit d₃ v₃ → IsHexDigit d₄ v₄ →
      c.toNat = 0x1000 * v₁ + 0x100 * v₂ + 0x10 * v₃ + v₄ →
      SpellsChar c ['\\', 'u', d₁, d₂, d₃, d₄]

/-- The characters of a text written one after another, each in a way of its own. -/
inductive Spells : List Char → List Char → Prop
  | nil : Spells [] []
  | cons {c : Char} {cs w ws : List Char} : SpellsChar c w → Spells cs ws →
      Spells (c :: cs) (w ++ ws)

def Blanks (w : List Char) : Prop := ∀ c ∈ w, c = ' ' ∨ c = '\t' ∨ c = '\x0c'

/-- A line with an entry, or one that says nothing. -/
inductive IsLine : Option (String × String) → List Char → Prop
  | empty {w : List Char} : Blanks w → IsLine none w
  | comment {w text : List Char} {mark : Char} : Blanks w → mark = '#' ∨ mark = '!' →
      '\r' ∉ text → '\n' ∉ text → IsLine none (w ++ mark :: text)
  | entry {key value : String} {w₁ k w₂ w₃ v : List Char} {sign : Char} : Blanks w₁ →
      Spells key.toList k → Blanks w₂ → sign = '=' ∨ sign = ':' → Blanks w₃ →
      Spells value.toList v → IsLine (some (key, value)) (w₁ ++ (k ++ (w₂ ++ sign :: (w₃ ++ v))))

def lineEnds : List (List Char) := [['\n'], ['\r'], ['\r', '\n']]

/-- `Writes es text`: the lines of `text` hold the entries `es`. The end of the text ends its last
line, each line before has an end of its own. -/
inductive Writes : List (String × String) → List Char → Prop
  | last {e : Option (String × String)} {line : List Char} : IsLine e line → Writes e.toList line
  | more {e : Option (String × String)} {es : List (String × String)}
      {line lineEnd rest : List Char} : IsLine e line → lineEnd ∈ lineEnds → Writes es rest →
      Writes (e.toList ++ es) (line ++ (lineEnd ++ rest))

/-! ## Characters -/

theorem hexValue?_digitChar : ∀ v < 16,
    hexValue? v.digitChar = some v ∧ hexValue? v.digitChar.toUpper = some v := by decide

theorem IsHexDigit.hexValue? {d : Char} {v : Nat} (h : IsHexDigit d v) :
    FlatFormat.hexValue? d = some v := by
  obtain ⟨hv, rfl | rfl⟩ := h
  · exact (hexValue?_digitChar v hv).1
  · exact (hexValue?_digitChar v hv).2

section
variable {d₁ d₂ d₃ d₄ : Char} {v₁ v₂ v₃ v₄ : Nat}

/-- Four digits of a number stand for its code point. -/
theorem codePoint?_of_digits (h₁ : IsHexDigit d₁ v₁) (h₂ : IsHexDigit d₂ v₂)
    (h₃ : IsHexDigit d₃ v₃) (h₄ : IsHexDigit d₄ v₄) :
    codePoint? [d₁, d₂, d₃, d₄] = some (.ofNat (0x1000 * v₁ + 0x100 * v₂ + 0x10 * v₃ + v₄)) := by
  have hnumber : [v₁, v₂, v₃, v₄].foldl (fun n d => 16 * n + d) 0 =
      0x1000 * v₁ + 0x100 * v₂ + 0x10 * v₃ + v₄ := by
    simp only [List.foldl_cons, List.foldl_nil]
    omega
  simp [codePoint?, h₁.hexValue?, h₂.hexValue?, h₃.hexValue?, h₄.hexValue?, ← hnumber]

/-- An escape keeps its number, also if it is that of half a surrogate pair, so that no two numbers
are read as the same. -/
theorem toNat_of_digits (h₁ : IsHexDigit d₁ v₁) (h₂ : IsHexDigit d₂ v₂) (h₃ : IsHexDigit d₃ v₃)
    (h₄ : IsHexDigit d₄ v₄) :
    (codePoint? [d₁, d₂, d₃, d₄]).map CodePoint.toNat =
      some (0x1000 * v₁ + 0x100 * v₂ + 0x10 * v₃ + v₄) := by
  have hbound : 0x1000 * v₁ + 0x100 * v₂ + 0x10 * v₃ + v₄ < 0x110000 := by
    obtain ⟨hv₁, -⟩ := h₁
    obtain ⟨hv₂, -⟩ := h₂
    obtain ⟨hv₃, -⟩ := h₃
    obtain ⟨hv₄, -⟩ := h₄
    omega
  rw [codePoint?_of_digits h₁ h₂ h₃ h₄, Option.map_some, CodePoint.toNat_ofNat hbound]

end

theorem letterEscape_of_notMem {c : Char} (h : c ∉ ['t', 'n', 'r', 'f']) : letterEscape c = c := by
  simp only [List.mem_cons, List.not_mem_nil, not_or] at h
  unfold letterEscape
  split <;> simp_all

theorem unescape?_cons {c : Char} (h : c ≠ '\\') (cs : List Char) :
    unescape? (c :: cs) = (unescape? cs).map (.char c :: ·) := by
  rw [unescape?]
  · exact fun hslash => absurd hslash h
  · exact fun _ _ _ _ _ hslash => absurd hslash h
  · exact fun _ _ hslash => absurd hslash h

theorem unescape?_letter {c : Char} (h : c ≠ 'u') (cs : List Char) :
    unescape? ('\\' :: c :: cs) = (unescape? cs).map (.char (letterEscape c) :: ·) := by
  rw [unescape?]
  · simp only [beq_iff_eq, h, if_false]
  · exact fun _ _ _ _ _ hu => absurd hu h

theorem unescape?_code {a b c d : Char} {u : CodePoint} (h : codePoint? [a, b, c, d] = some u)
    (cs : List Char) :
    unescape? ('\\' :: 'u' :: a :: b :: c :: d :: cs) = (unescape? cs).map (u :: ·) := by
  rw [unescape?, h]
  cases unescape? cs <;> rfl

/-- What a character is written as is read as this character. -/
theorem unescape?_spelled {c : Char} {w : List Char} (h : SpellsChar c w) (cs : List Char) :
    unescape? (w ++ cs) = (unescape? cs).map (.char c :: ·) := by
  cases h with
  | plain hc => exact unescape?_cons (fun h => hc (by simp [h, special])) cs
  | escaped hc =>
    have hu : c ≠ 'u' := fun h => hc (by simp [h])
    have hletter : letterEscape c = c := letterEscape_of_notMem fun h => hc (by grind)
    rw [List.cons_append, List.singleton_append, unescape?_letter hu, hletter]
  | tab | lineFeed | carriageReturn | formFeed => rfl
  | code h₁ h₂ h₃ h₄ hc =>
    rw [← CodePoint.ofNat_toNat, hc]
    exact unescape?_code (codePoint?_of_digits h₁ h₂ h₃ h₄) cs

theorem unescape?_of_spells {cs w : List Char} (h : Spells cs w) :
    unescape? w = some (cs.map .char) := by
  induction h with
  | nil => rfl
  | cons hc _ ih => rw [unescape?_spelled hc, ih, Option.map_some, List.map_cons]

/-! ## Keys and values -/

/-- Digits are no signs of the format. -/
theorem digitChar_notMem_special : ∀ v < 16,
    v.digitChar ∉ special ∧ v.digitChar.toUpper ∉ special := by decide

theorem IsHexDigit.notMem_special {d : Char} {v : Nat} (h : IsHexDigit d v) : d ∉ special := by
  obtain ⟨hv, rfl | rfl⟩ := h
  · exact (digitChar_notMem_special v hv).1
  · exact (digitChar_notMem_special v hv).2

theorem isBlank_of_notMem_special {c : Char} (hc : c ∉ special) : isBlank c = false := by
  simp only [special, List.mem_cons, List.not_mem_nil, not_or] at hc
  simp [isBlank, hc]

theorem splitKey_plain {c : Char}
    (hc : c ∉ special) (cs : List Char) :
    splitKey (c :: cs) = (c :: (splitKey cs).1, (splitKey cs).2) := by
  simp only [special, List.mem_cons, List.not_mem_nil, not_or] at hc
  rw [splitKey]
  · simp [isSign, isBlank, hc]
  · exact fun h => absurd h hc.1
  · exact fun _ _ h => absurd h hc.1

/-- A key goes on with the characters that are written. -/
theorem splitKey_spelled {c : Char} {w : List Char} (h : SpellsChar c w) (cs : List Char) :
    splitKey (w ++ cs) = (w ++ (splitKey cs).1, (splitKey cs).2) := by
  cases h with
  | plain hc => exact splitKey_plain hc cs
  | escaped | tab | lineFeed | carriageReturn | formFeed => rfl
  | code h₁ h₂ h₃ h₄ _ =>
    simp only [List.cons_append, List.nil_append, splitKey, splitKey_plain h₁.notMem_special,
      splitKey_plain h₂.notMem_special, splitKey_plain h₃.notMem_special,
      splitKey_plain h₄.notMem_special]

theorem splitKey_of_spells {cs w : List Char} (h : Spells cs w) (rest : List Char) :
    splitKey (w ++ rest) = (w ++ (splitKey rest).1, (splitKey rest).2) := by
  induction h with
  | nil => rfl
  | cons hc _ ih =>
    rw [List.append_assoc, splitKey_spelled hc, ih, List.append_assoc]

theorem isBlank_of_mem {w : List Char} (h : Blanks w) {c : Char} (hc : c ∈ w) :
    isBlank c = true := by
  rcases h c hc with rfl | rfl | rfl <;> rfl

theorem dropWhile_isBlank_append {w : List Char} (h : Blanks w) (cs : List Char) :
    (w ++ cs).dropWhile isBlank = cs.dropWhile isBlank :=
  List.dropWhile_append_of_pos fun _ hc => isBlank_of_mem h hc

theorem blanks_takeWhile (cs : List Char) : Blanks (cs.takeWhile isBlank) := fun c hc => by
  simpa [isBlank, or_assoc] using List.mem_takeWhile_imp hc

theorem not_isBlank_head_dropWhile (cs : List Char) :
    ∀ c ∈ (cs.dropWhile isBlank).head?, isBlank c = false := fun c hc => by
  have hfirst := List.head?_dropWhile_not isBlank cs
  rw [Option.mem_def.1 hc] at hfirst
  simpa using hfirst

/-- A written character begins with neither a blank nor the mark of a comment. -/
theorem exists_cons_of_spelled {c : Char} {w : List Char} (h : SpellsChar c w) :
    ∃ d ds, w = d :: ds ∧ isBlank d = false ∧ d ≠ '#' ∧ d ≠ '!' := by
  cases h with
  | plain hc =>
    refine ⟨c, [], rfl, isBlank_of_notMem_special hc, ?_, ?_⟩ <;>
      exact fun h => hc (by simp [h, special])
  | escaped | tab | lineFeed | carriageReturn | formFeed | code =>
    exact ⟨'\\', _, rfl, rfl, by decide, by decide⟩

/-- A written text does not begin with a blank. -/
theorem dropWhile_isBlank_of_spells {cs w : List Char} (h : Spells cs w) :
    w.dropWhile isBlank = w := by
  cases h with
  | nil => rfl
  | cons hc _ =>
    obtain ⟨d, ds, rfl, hblank, -⟩ := exists_cons_of_spelled hc
    rw [List.cons_append, List.dropWhile_cons_of_neg (by simp [hblank])]

/-- A key ends at a blank or a sign. -/
theorem splitKey_blanks {w : List Char} (h : Blanks w) {sign : Char}
    (hsign : sign = '=' ∨ sign = ':') (rest : List Char) :
    splitKey (w ++ sign :: rest) = ([], w ++ sign :: rest) := by
  cases w with
  | nil => rcases hsign with rfl | rfl <;> rfl
  | cons c w => rcases h c (by simp) with rfl | rfl | rfl <;> rfl

theorem splitEntry_of_spells {key value k v w₂ w₃ : List Char} {sign : Char} (hk : Spells key k)
    (h₂ : Blanks w₂) (hsign : sign = '=' ∨ sign = ':') (h₃ : Blanks w₃) (hv : Spells value v) :
    splitEntry (k ++ (w₂ ++ sign :: (w₃ ++ v))) = (k, v) := by
  have hblank : isBlank sign = false := by rcases hsign with rfl | rfl <;> rfl
  have hisSign : isSign sign = true := by rcases hsign with rfl | rfl <;> rfl
  rw [splitEntry, splitKey_of_spells hk, splitKey_blanks h₂ hsign]
  simp only [List.append_nil, dropWhile_isBlank_append h₂, List.dropWhile_cons, hblank, dropSign,
    hisSign, if_true, if_false, Bool.false_eq_true, dropWhile_isBlank_append h₃,
    dropWhile_isBlank_of_spells hv]

theorem unescape_of_spells {text : String} {w : List Char} (h : Spells text.toList w) :
    unescape w = .ok text := by
  rw [unescape, unescape?_of_spells h, CodePoints.ofString]

/-! ## Line ends -/

/-- No line ends in the text. -/
def OneLine (line : List Char) : Prop := '\r' ∉ line ∧ '\n' ∉ line

theorem OneLine.append {a b : List Char} (ha : OneLine a) (hb : OneLine b) : OneLine (a ++ b) :=
  ⟨by simp [ha.1, hb.1], by simp [ha.2, hb.2]⟩

theorem OneLine.cons {c : Char} {cs : List Char} (hr : c ≠ '\r') (hn : c ≠ '\n')
    (h : OneLine cs) : OneLine (c :: cs) :=
  ⟨by simp [hr.symm, h.1], by simp [hn.symm, h.2]⟩

theorem oneLine_blanks {w : List Char} (h : Blanks w) : OneLine w := by
  constructor <;> intro hmem <;> simpa using h _ hmem

theorem oneLine_spelled {c : Char} {w : List Char} (h : SpellsChar c w) : OneLine w := by
  have hplain : ∀ {d : Char}, d ∉ special → OneLine [d] := fun hd => by
    simp only [special, List.mem_cons, List.not_mem_nil, not_or] at hd
    exact ⟨by simp [Ne.symm, hd], by simp [Ne.symm, hd]⟩
  cases h with
  | plain hc => exact hplain hc
  | escaped hc =>
    have hr : c ≠ '\r' := fun h => hc (by simp [h])
    have hn : c ≠ '\n' := fun h => hc (by simp [h])
    exact .cons (by decide) (by decide) (.cons hr hn ⟨by simp, by simp⟩)
  | tab | lineFeed | carriageReturn | formFeed => exact ⟨by decide, by decide⟩
  | code h₁ h₂ h₃ h₄ _ =>
    exact .append (a := ['\\', 'u']) ⟨by decide, by decide⟩ <|
      .append (hplain h₁.notMem_special) <| .append (hplain h₂.notMem_special) <|
        .append (hplain h₃.notMem_special) (hplain h₄.notMem_special)

theorem oneLine_of_spells {cs w : List Char} (h : Spells cs w) : OneLine w := by
  induction h with
  | nil => exact ⟨by simp, by simp⟩
  | cons hc _ ih => exact (oneLine_spelled hc).append ih

theorem IsLine.oneLine {e : Option (String × String)} {line : List Char} (h : IsLine e line) :
    OneLine line := by
  cases h with
  | empty hw => exact oneLine_blanks hw
  | comment hw hmark hr hn =>
    refine (oneLine_blanks hw).append (.cons ?_ ?_ ⟨hr, hn⟩) <;>
      rcases hmark with rfl | rfl <;> decide
  | entry h₁ hk h₂ hsign h₃ hv =>
    refine (oneLine_blanks h₁).append ((oneLine_of_spells hk).append
      ((oneLine_blanks h₂).append (.cons ?_ ?_ ((oneLine_blanks h₃).append
        (oneLine_of_spells hv))))) <;> rcases hsign with rfl | rfl <;> decide

/-- A text without line ends is the beginning of a line. -/
theorem naturalLines_append {line rest first : List Char} {lines : List (List Char)}
    (h : OneLine line) (hrest : naturalLines rest = first :: lines) :
    naturalLines (line ++ rest) = (line ++ first) :: lines := by
  induction line with
  | nil => exact hrest
  | cons c line ih =>
    obtain ⟨⟨hr, hlr⟩, ⟨hn, hln⟩⟩ : ('\r' ≠ c ∧ '\r' ∉ line) ∧ ('\n' ≠ c ∧ '\n' ∉ line) := by
      simpa [OneLine] using h
    rw [List.cons_append, naturalLines]
    · simp [hr.symm, hn.symm, ih ⟨hlr, hln⟩]
    · exact fun _ h => absurd h.symm hr

theorem naturalLines_of_oneLine {line : List Char} (h : OneLine line) :
    naturalLines line = [line] := by
  have happend : naturalLines (line ++ []) = [line ++ []] := naturalLines_append h rfl
  simpa using happend

/-- No carriage return stands before a line feed that it would take with it. -/
def Parted (before after : List Char) : Prop :=
  ¬ (before.getLast? = some '\r' ∧ after.head? = some '\n')

instance (before after : List Char) : Decidable (Parted before after) :=
  inferInstanceAs (Decidable (¬ _))

/-- A line end ends one line. -/
theorem naturalLines_of_parted {lineEnd rest : List Char} (hend : lineEnd ∈ lineEnds)
    (h : Parted lineEnd rest) : naturalLines (lineEnd ++ rest) = [] :: naturalLines rest := by
  simp only [lineEnds, List.mem_cons, List.not_mem_nil, or_false] at hend
  rcases hend with rfl | rfl | rfl
  · rfl
  · rw [List.singleton_append, naturalLines]
    · rfl
    · rintro cs - rfl
      exact h ⟨rfl, rfl⟩
  · rfl

/-- After a line end come the lines of the rest; a carriage return may take a line feed with it,
which would else end an empty line. -/
theorem naturalLines_lineEnd {lineEnd : List Char} (h : lineEnd ∈ lineEnds) (rest : List Char) :
    ∃ lines, naturalLines (lineEnd ++ rest) = [] :: lines ∧
      logicalLines none lines = logicalLines none (naturalLines rest) := by
  by_cases hparted : Parted lineEnd rest
  · exact ⟨naturalLines rest, naturalLines_of_parted h hparted, rfl⟩
  · obtain ⟨hreturn, hfeed⟩ := Decidable.not_not.1 hparted
    obtain ⟨cs, rfl⟩ := List.head?_eq_some_iff.1 hfeed
    obtain rfl : lineEnd = ['\r'] := by
      simp only [lineEnds, List.mem_cons, List.not_mem_nil, or_false] at h
      rcases h with rfl | rfl | rfl
      · cases hreturn
      · rfl
      · cases hreturn
    exact ⟨naturalLines cs, rfl, rfl⟩

/-! ## Logical lines -/

theorem continues_eq (line : List Char) : continues line = (slashesAtEnd line % 2 == 1) := by
  simp only [continues, slashesAtEnd, List.rtakeWhile, List.length_reverse]

theorem continues_eq_false_iff {line : List Char} :
    continues line = false ↔ slashesAtEnd line % 2 = 0 := by
  rw [continues_eq, beq_eq_false_iff_ne, ne_eq, Nat.mod_two_not_eq_one]

/-- A line that ends in no backslash of its own leaves the end to what follows. -/
theorem continues_append_eq {a : List Char} (ha : continues a = false) (b : List Char) :
    continues (a ++ b) = continues b := by
  rw [continues_eq, continues_eq, slashesAtEnd_append (continues_eq_false_iff.1 ha)]

theorem continues_append {a b : List Char} (ha : continues a = false) (hb : continues b = false) :
    continues (a ++ b) = false := (continues_append_eq ha b).trans hb

theorem continues_singleton {c : Char} (h : c ≠ '\\') : continues [c] = false := by
  simp [continues, h]

theorem continues_blanks {w : List Char} (h : Blanks w) : continues w = false := by
  induction w with
  | nil => rfl
  | cons c w ih =>
    have hc : c ≠ '\\' := by rcases h c (by simp) with rfl | rfl | rfl <;> decide
    exact continues_append (a := [c]) (continues_singleton hc)
      (ih fun d hd => h d (List.mem_cons_of_mem _ hd))

/-- Backslashes are written in pairs, or before something else. -/
theorem continues_spelled {c : Char} {w : List Char} (h : SpellsChar c w) :
    continues w = false := by
  cases h with
  | plain hc => exact continues_singleton fun h => hc (by simp [h, special])
  | escaped hc =>
    by_cases hslash : c = '\\'
    · subst hslash; rfl
    · simp [continues, hslash]
  | tab | lineFeed | carriageReturn | formFeed => rfl
  | @code c d₁ d₂ d₃ d₄ _ _ _ _ _ _ _ h₄ _ =>
    have hd : d₄ ≠ '\\' := fun h => h₄.notMem_special (by simp [h, special])
    simp [continues, hd]

theorem continues_of_spells {cs w : List Char} (h : Spells cs w) : continues w = false := by
  induction h with
  | nil => rfl
  | cons hc _ ih => exact continues_append (continues_spelled hc) ih

/-- Without the blanks before it an entry's line is no comment; if the key is empty, the blanks
before the sign go too. -/
theorem dropWhile_isBlank_entry {key w₁ k w₂ : List Char} {sign : Char} (h₁ : Blanks w₁)
    (hk : Spells key k) (h₂ : Blanks w₂) (hsign : sign = '=' ∨ sign = ':') (rest : List Char) :
    ∃ w, Blanks w ∧
      (w₁ ++ (k ++ (w₂ ++ sign :: rest))).dropWhile isBlank = k ++ (w ++ sign :: rest) ∧
      isComment (k ++ (w ++ sign :: rest)) = false := by
  rw [dropWhile_isBlank_append h₁]
  cases hk with
  | nil =>
    have hblank : ¬ isBlank sign = true := by rcases hsign with rfl | rfl <;> decide
    refine ⟨[], by simp [Blanks], ?_, by rcases hsign with rfl | rfl <;> rfl⟩
    rw [List.nil_append, dropWhile_isBlank_append h₂, List.dropWhile_cons_of_neg hblank]
    rfl
  | cons hc hcs =>
    obtain ⟨d, ds, rfl, hblank, hhash, hmark⟩ := exists_cons_of_spelled hc
    refine ⟨w₂, h₂, ?_, by simp [isComment, hhash, hmark]⟩
    rw [List.cons_append, List.cons_append, List.dropWhile_cons_of_neg (by simp [hblank])]

/-- The line of an entry is a logical line of its own. -/
theorem logicalLines_entry {key k value v w₁ w₂ w₃ : List Char} {sign : Char} (h₁ : Blanks w₁)
    (hk : Spells key k) (h₂ : Blanks w₂) (hsign : sign = '=' ∨ sign = ':') (h₃ : Blanks w₃)
    (hv : Spells value v) (lines : List (List Char)) :
    ∃ w, Blanks w ∧ logicalLines none ((w₁ ++ (k ++ (w₂ ++ sign :: (w₃ ++ v)))) :: lines) =
      (k ++ (w ++ sign :: (w₃ ++ v))) :: logicalLines none lines := by
  obtain ⟨w, hw, hline, hcomment⟩ := dropWhile_isBlank_entry h₁ hk h₂ hsign (w₃ ++ v)
  have hslash : sign ≠ '\\' := by rcases hsign with rfl | rfl <;> decide
  have hcontinues : continues (k ++ (w ++ sign :: (w₃ ++ v))) = false :=
    continues_append (continues_of_spells hk) <| continues_append (continues_blanks hw) <|
      continues_append (a := [sign]) (continues_singleton hslash) <|
        continues_append (continues_blanks h₃) (continues_of_spells hv)
  refine ⟨w, hw, ?_⟩
  simp only [logicalLines, hline, hcomment, hcontinues, Bool.false_eq_true, if_false]

/-- A line adds the entry that it holds, and nothing if it holds none. -/
theorem entriesOf_line {e : Option (String × String)} {line : List Char} (h : IsLine e line)
    (lines : List (List Char)) :
    entriesOf (logicalLines none (line :: lines)) =
      (e.toList.map CodePoints.ofPair ++ (entriesOf (logicalLines none lines)).1,
        (entriesOf (logicalLines none lines)).2) := by
  cases h with
  | empty hw =>
    have hline : line.dropWhile isBlank = [] := by
      simpa using dropWhile_isBlank_append hw []
    simp [logicalLines, hline, isComment]
  | @comment w text mark hw hmark _ _ =>
    have hline : (w ++ mark :: text).dropWhile isBlank = mark :: text := by
      rw [dropWhile_isBlank_append hw]
      rcases hmark with rfl | rfl <;> rfl
    have hcomment : isComment (mark :: text) = true := by rcases hmark with rfl | rfl <;> rfl
    simp [logicalLines, hline, hcomment]
  | entry h₁ hk h₂ hsign h₃ hv =>
    obtain ⟨w, hw, hlines⟩ := logicalLines_entry h₁ hk h₂ hsign h₃ hv lines
    rw [hlines, entriesOf, entry, splitEntry_of_spells hk hw hsign h₃ hv]
    simp only [unescape_of_spells hk, unescape_of_spells hv]
    rfl

/-! ## Documents -/

theorem exists_spellsChar (c : Char) : ∃ w, SpellsChar c w := by
  by_cases hspecial : c ∈ ['\t', '\n', '\r', '\x0c']
  · simp only [List.mem_cons, List.not_mem_nil, or_false] at hspecial
    rcases hspecial with rfl | rfl | rfl | rfl
    · exact ⟨_, .tab⟩
    · exact ⟨_, .lineFeed⟩
    · exact ⟨_, .carriageReturn⟩
    · exact ⟨_, .formFeed⟩
  by_cases hletter : c ∈ ['t', 'n', 'r', 'f', 'u']
  · refine ⟨[c], .plain ?_⟩
    simp only [List.mem_cons, List.not_mem_nil, or_false] at hletter
    rcases hletter with rfl | rfl | rfl | rfl | rfl <;> decide
  · refine ⟨['\\', c], .escaped ?_⟩
    simp only [List.mem_cons, List.not_mem_nil, not_or] at hspecial hletter ⊢
    simp [hspecial, hletter]

theorem exists_spells : ∀ cs : List Char, ∃ w, Spells cs w
  | [] => ⟨[], .nil⟩
  | c :: cs => by
    obtain ⟨w, hw⟩ := exists_spellsChar c
    obtain ⟨ws, hws⟩ := exists_spells cs
    exact ⟨w ++ ws, .cons hw hws⟩

theorem exists_writes : ∀ es : List (String × String), ∃ cs, Writes es cs
  | [] => ⟨[], .last (.empty (by simp [Blanks]))⟩
  | (key, value) :: es => by
    have hnone : Blanks [] := by simp [Blanks]
    obtain ⟨k, hk⟩ := exists_spells key.toList
    obtain ⟨v, hv⟩ := exists_spells value.toList
    obtain ⟨cs, hcs⟩ := exists_writes es
    have hend : ['\n'] ∈ lineEnds := by simp [lineEnds]
    exact ⟨_, .more (.entry hnone hk hnone (.inl rfl) hnone hv) hend hcs⟩

/-- **Every way of writing entries is read as these entries**, in their order and with repeated
keys; and whatever their characters are, there is a way. -/
theorem entries_of_writes :
    (∀ (es : List (String × String)) (text : String), Writes es text.toList →
      entries text = (es.map CodePoints.ofPair, none)) ∧
    ∀ es : List (String × String), ∃ text : String, Writes es text.toList := by
  constructor
  · intro es text h
    rw [entries]
    generalize text.toList = cs at h
    induction h with
    | last hline =>
      rw [naturalLines_of_oneLine hline.oneLine, entriesOf_line hline, logicalLines, entriesOf,
        List.append_nil]
    | more hline hend _ ih =>
      obtain ⟨lines, hlines, hsame⟩ := naturalLines_lineEnd hend _
      rw [naturalLines_append hline.oneLine hlines, List.append_nil, entriesOf_line hline, hsame,
        ih, List.map_append]
  · intro es
    obtain ⟨cs, hcs⟩ := exists_writes es
    exact ⟨String.ofList cs, by rwa [String.toList_ofList]⟩

/-- A comment that ends in a backslash, a carriage return before an empty line, and a key that is a
sign, once written by its number and once after a backslash. -/
theorem entries_of_writes_sample :
    Writes [("=", " \\"), ("=", "k")]
      "#c\\\n \\u003D :\x0c\\ \\\\\r\n\t\\==k".toList ∧
    entries "#c\\\n \\u003D :\x0c\\ \\\\\r\n\t\\==k" =
      ([("=", " \\"), ("=", "k")].map CodePoints.ofPair, none) := by
  have h0 : IsHexDigit '0' 0 := ⟨by decide, by decide⟩
  have h3 : IsHexDigit '3' 3 := ⟨by decide, by decide⟩
  have hD : IsHexDigit 'D' 13 := ⟨by decide, by decide⟩
  have hcode : Spells "=".toList ['\\', 'u', '0', '0', '3', 'D'] :=
    .cons (.code h0 h0 h3 hD (by decide)) .nil
  have hvalue : Spells " \\".toList ['\\', ' ', '\\', '\\'] :=
    .cons (.escaped (by decide)) (.cons (.escaped (by decide)) .nil)
  have hsign : Spells "=".toList ['\\', '='] := .cons (.escaped (by decide)) .nil
  have hplain : Spells "k".toList ['k'] := .cons (.plain (by decide)) .nil
  have hcomment : IsLine none ([] ++ '#' :: ['c', '\\']) :=
    .comment (by simp [Blanks]) (.inl rfl) (by decide) (by decide)
  have hfirst : IsLine (some ("=", " \\")) ([' '] ++ (['\\', 'u', '0', '0', '3', 'D'] ++
      ([' '] ++ ':' :: (['\x0c'] ++ ['\\', ' ', '\\', '\\'])))) :=
    .entry (by simp [Blanks]) hcode (by simp [Blanks]) (.inr rfl) (by simp [Blanks]) hvalue
  have hempty : IsLine none [] := .empty (by simp [Blanks])
  have hsecond : IsLine (some ("=", "k"))
      (['\t'] ++ (['\\', '='] ++ ([] ++ '=' :: ([] ++ ['k'])))) :=
    .entry (by simp [Blanks]) hsign (by simp [Blanks]) (.inl rfl) (by simp [Blanks]) hplain
  have hreturn : ['\r'] ∈ lineEnds := by decide
  have hfeed : ['\n'] ∈ lineEnds := by decide
  have hw : Writes [("=", " \\"), ("=", "k")]
      "#c\\\n \\u003D :\x0c\\ \\\\\r\n\t\\==k".toList :=
    .more hcomment hfeed (.more hfirst hreturn (.more hempty hfeed (.last hsecond)))
  exact ⟨hw, entries_of_writes.1 _ _ hw⟩

end PropertyDocs.FlatFormat
