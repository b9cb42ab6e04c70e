import PropertyDocs.Proofs.Decoding
import PropertyDocs.Proofs.LineNumbers

/-!
# Reading an XML declaration

What an XML declaration is made of, and that its scan reads it to its end and no further, whatever
stands behind it. The blanks in it may be line ends, so that what stands behind it is on some line
that depends on them.
-/
namespace PropertyDocs.Xml

/-! ## Placed texts -/

namespace Input

/-- The input of the characters, the first on line `n`. -/
def onLine (n : Nat) (cs : List Char) : Input :=
  ⟨(placed n cs).1, (placed n cs).2.1, (placed n cs).2.2⟩

/-- The input with one more character in front. -/
def cons (c : Char) (n : Nat) (i : Input) : Input := { i with rest := ⟨c, n⟩ :: i.rest }

theorem onLine_newline (n : Nat) (cs : List Char) :
    onLine n ('\n' :: cs) = cons '\n' n (onLine (n + 1) cs) := rfl

theorem onLine_return_newline (n : Nat) (cs : List Char) :
    onLine n ('\r' :: '\n' :: cs) = cons '\n' n (onLine (n + 1) cs) := rfl

theorem onLine_return {cs : List Char} (h : cs.head? ≠ some '\n') (n : Nat) :
    onLine n ('\r' :: cs) = cons '\n' n (onLine n cs) := by
  cases cs with
  | nil => rfl
  | cons c cs =>
    have hc : c ≠ '\n' := fun hc => h (by simp [hc])
    simp [onLine, cons, placed, placed.put, hc]

/-- A character that stays on its line. -/
def IsPlain (c : Char) : Prop := c ≠ '\n' ∧ c ≠ '\r' ∧ isXmlChar c = true

theorem onLine_plain {c : Char} (hc : IsPlain c) (n : Nat) (cs : List Char) :
    onLine n (c :: cs) = cons c n (onLine n cs) := by
  obtain ⟨hnewline, hreturn, hchar⟩ := hc
  simp [onLine, cons, placed, placed.put, hnewline, hreturn, hchar]

/-- More characters in front leave alike inputs alike. -/
theorem Alike.cons {i i' : Input} (h : i.Alike i') (c : Char) (m n : Nat) :
    (i.cons c m).Alike (i'.cons c n) where
  chars := congrArg (c :: ·) h.chars
  complete := h.complete

/-- The characters are the same from whatever line on. -/
theorem alike_onLine (m n : Nat) (cs : List Char) : (onLine m cs).Alike (onLine n cs) := by
  fun_induction placed m cs generalizing n with
  | case1 => exact ⟨rfl, rfl⟩
  | case2 m cs ih =>
    rw [onLine_return_newline, onLine_return_newline]
    exact (ih (n + 1)).cons '\n' m n
  | case3 m c cs hreturn hnewline ih =>
    obtain rfl : c = '\n' := by simpa using hnewline
    rw [onLine_newline, onLine_newline]
    exact (ih (n + 1)).cons '\n' m n
  | case4 m c cs hpair hnewline hreturn ih =>
    obtain rfl : c = '\r' := by simpa using hreturn
    have hhead : cs.head? ≠ some '\n' := fun hhead => by
      obtain ⟨cs, rfl⟩ := List.head?_eq_some_iff.1 hhead
      exact hpair cs rfl rfl
    rw [onLine_return hhead, onLine_return hhead]
    exact (ih n).cons '\n' m n
  | case5 m c cs hpair hnewline hreturn hchar ih =>
    have hplain : IsPlain c := ⟨by simpa using hnewline, by simpa using hreturn, hchar⟩
    rw [onLine_plain hplain, onLine_plain hplain]
    exact (ih n).cons c m n
  | case6 m c cs hpair hnewline hreturn hchar =>
    simp only [onLine, placed, hnewline, hreturn, hchar]
    exact ⟨rfl, rfl⟩

end Input

/-! ## Reading what is written -/

namespace Scan
open Input

section
variable {α β : Type} {m : Scan α} {f : α → Scan β} {a : α} {b : β} {cs ds rest : List Char}

/-- In front of `rest` the scan reads `cs` and no more, and gives `a`. -/
def Reads (m : Scan α) (cs rest : List Char) (a : α) : Prop :=
  ∀ n, ∃ n', m.run (onLine n (cs ++ rest)) = .ok (a, onLine n' rest)

theorem Reads.bind (hm : Reads m cs (ds ++ rest) a) (hf : Reads (f a) ds rest b) :
    Reads (m >>= f) (cs ++ ds) rest b := by
  intro n
  obtain ⟨n', hn'⟩ := hm n
  obtain ⟨n'', hn''⟩ := hf n'
  refine ⟨n'', ?_⟩
  rw [List.append_assoc, StateT.run_bind, hn']
  exact hn''

/-- A look ahead comes before what is read. -/
theorem Reads.ahead (hm : Reads m [] (cs ++ rest) a) (hf : Reads (f a) cs rest b) :
    Reads (m >>= f) cs rest b :=
  Reads.bind hm hf

theorem reads_pure (a : α) (rest : List Char) : Reads (pure a) [] rest a := fun n => ⟨n, rfl⟩

/-- The end of a scan that reads nothing more. -/
theorem Reads.last (hm : Reads m cs rest a) (hf : Reads (f a) [] rest b) :
    Reads (m >>= f) cs rest b := by
  have hbind : Reads (m >>= f) (cs ++ []) rest b := Reads.bind hm hf
  rwa [List.append_nil] at hbind

end

/-! ### Texts -/

theorem run_sees (text : List Char) (i : Input) :
    (sees text).run i = .ok (text.isPrefixOf ((i.rest.take text.length).map (·.char)), i) := rfl

theorem run_pass (n : Nat) (i : Input) :
    (pass n).run i = .ok ((), { i with rest := i.rest.drop n }) := rfl

theorem run_takeWhile (p : Char → Bool) (i : Input) :
    (takeWhile p).run i = .ok ((i.rest.takeWhile fun x => p x.char).map (·.char),
      { i with rest := i.rest.drop (i.rest.takeWhile fun x => p x.char).length }) := rfl

/-- The characters of a text, all on one line. -/
def placedOn (n : Nat) (text : List Char) : List Placed := text.map (⟨·, n⟩)

@[simp] theorem length_placedOn (n : Nat) (text : List Char) :
    (placedOn n text).length = text.length := List.length_map _

@[simp] theorem map_char_placedOn (n : Nat) (text : List Char) :
    (placedOn n text).map (·.char) = text := by
  simp [placedOn, Function.comp_def]

theorem onLine_append {text : List Char} (h : ∀ c ∈ text, IsPlain c) (n : Nat)
    (rest : List Char) : onLine n (text ++ rest) =
      { onLine n rest with rest := placedOn n text ++ (onLine n rest).rest } := by
  induction text with
  | nil => rfl
  | cons c text ih =>
    obtain ⟨hc, htext⟩ := List.forall_mem_cons.1 h
    rw [List.cons_append, onLine_plain hc, ih htext]
    rfl

theorem reads_sees {text : List Char} (h : ∀ c ∈ text, IsPlain c) (rest : List Char) :
    Reads (sees text) [] (text ++ rest) true := by
  refine fun n => ⟨n, ?_⟩
  have htaken : ((onLine n (text ++ rest)).rest.take text.length).map (·.char) = text := by
    rw [onLine_append h, List.take_left' (length_placedOn n text), map_char_placedOn]
  rw [run_sees, List.nil_append, htaken, List.isPrefixOf_iff_prefix.2 (List.prefix_refl text)]

/-- Another text is not seen. -/
theorem reads_not_sees {c d : Char} (h : c ≠ d) (hd : IsPlain d) (text rest : List Char) :
    Reads (sees (c :: text)) [] (d :: rest) false := by
  refine fun n => ⟨n, ?_⟩
  have hne : (c == d) = false := by simpa using h
  rw [run_sees, List.nil_append, onLine_plain hd, Input.cons, List.length_cons,
    List.take_succ_cons, List.map_cons, List.isPrefixOf, hne, Bool.false_and]

theorem reads_pass {text : List Char} (h : ∀ c ∈ text, IsPlain c) (rest : List Char) :
    Reads (pass text.length) text rest () := by
  refine fun n => ⟨n, ?_⟩
  rw [run_pass, onLine_append h]
  simp only [List.drop_left' (length_placedOn n text)]

theorem reads_accept {text : List Char} (h : ∀ c ∈ text, IsPlain c) (rest : List Char) :
    Reads (accept text) text rest true :=
  (reads_sees h rest).ahead ((reads_pass h rest).last (reads_pure true rest))

theorem reads_expect {text : List Char} (h : ∀ c ∈ text, IsPlain c) (rest : List Char) :
    Reads (expect text) text rest () :=
  (reads_accept h rest).last (reads_pure () rest)

/-! ### Blanks -/

def IsGap (cs : List Char) : Prop := ∀ c ∈ cs, isSpace c = true

/-- What is no blank comes next. -/
def NoGap (cs : List Char) : Prop := ∀ c ∈ cs.head?, isSpace c = false

theorem run_takeWhile_cons {p : Char → Bool} {c : Char} (hc : p c = true) {n : Nat} {i j : Input}
    {taken : List Char} (h : (takeWhile p).run i = .ok (taken, j)) :
    (takeWhile p).run (i.cons c n) = .ok (c :: taken, j) := by
  rw [run_takeWhile] at h ⊢
  cases h
  simp [Input.cons, hc]

theorem run_takeWhile_nil {p : Char → Bool} {i : Input} (h : ∀ x ∈ i.rest.head?, p x.char = false) :
    (takeWhile p).run i = .ok ([], i) := by
  have htaken : (i.rest.takeWhile fun x => p x.char) = [] := by
    cases hi : i.rest with
    | nil => rfl
    | cons x xs => simp [h x (by simp [hi])]
  rw [run_takeWhile, htaken]
  rfl

theorem isPlain_of_not_isSpace {c : Char} (h : isSpace c = false) : c ≠ '\n' ∧ c ≠ '\r' :=
  ⟨fun hc => by simp [hc, isSpace] at h, fun hc => by simp [hc, isSpace] at h⟩

theorem head_onLine_of_noGap {rest : List Char} (h : NoGap rest) (n : Nat) :
    ∀ x ∈ (onLine n rest).rest.head?, isSpace x.char = false := by
  cases rest with
  | nil => simp [onLine, placed]
  | cons c rest =>
    have hc : isSpace c = false := h c rfl
    obtain ⟨hnewline, hreturn⟩ := isPlain_of_not_isSpace hc
    by_cases hchar : isXmlChar c = true
    · rw [onLine_plain ⟨hnewline, hreturn, hchar⟩]
      simpa [Input.cons] using hc
    · simp [onLine, placed, hnewline, hreturn, hchar]

/-- The line ends of a text as they are read. -/
def lineEnds : List Char → List Char
  | [] => []
  | '\r' :: '\n' :: cs => '\n' :: lineEnds cs
  | c :: cs => (if c = '\r' then '\n' else c) :: lineEnds cs

theorem isEmpty_lineEnds (cs : List Char) : (lineEnds cs).isEmpty = cs.isEmpty := by
  fun_cases lineEnds cs <;> rfl

theorem reads_gap {gap rest : List Char} (hgap : IsGap gap) (hrest : NoGap rest) :
    Reads (takeWhile isSpace) gap rest (lineEnds gap) := by
  intro n
  fun_induction lineEnds gap generalizing n with
  | case1 => exact ⟨n, run_takeWhile_nil (head_onLine_of_noGap hrest n)⟩
  | case2 gap ih =>
    obtain ⟨-, -, hgap⟩ : _ ∧ _ ∧ IsGap gap := by simpa [IsGap] using hgap
    obtain ⟨n', hn'⟩ := ih hgap (n + 1)
    rw [List.cons_append, List.cons_append, onLine_return_newline]
    exact ⟨n', run_takeWhile_cons rfl hn'⟩
  | case3 c gap hpair ih =>
    obtain ⟨hc, hgap⟩ := List.forall_mem_cons.1 hgap
    by_cases hnewline : c = '\n'
    · obtain ⟨n', hn'⟩ := ih hgap (n + 1)
      subst hnewline
      rw [List.cons_append, onLine_newline]
      exact ⟨n', run_takeWhile_cons rfl hn'⟩
    obtain ⟨n', hn'⟩ := ih hgap n
    by_cases hreturn : c = '\r'
    · have hhead : (gap ++ rest).head? ≠ some '\n' := fun hhead => by
        cases gap with
        | nil => exact absurd rfl (isPlain_of_not_isSpace (hrest '\n' hhead)).1
        | cons d gap =>
          obtain rfl : d = '\n' := Option.some.inj hhead
          exact hpair gap hreturn rfl
      subst hreturn
      rw [List.cons_append, onLine_return hhead]
      exact ⟨n', run_takeWhile_cons rfl hn'⟩
    · have hplain : IsPlain c := ⟨hnewline, hreturn, by
        simp only [isSpace, hnewline, hreturn, Bool.or_eq_true, beq_iff_eq, or_false] at hc
        rcases hc with rfl | rfl <;> rfl⟩
      rw [List.cons_append, onLine_plain hplain, if_neg hreturn]
      exact ⟨n', run_takeWhile_cons hc hn'⟩

theorem reads_spaces {gap rest : List Char} (hgap : IsGap gap) (hrest : NoGap rest) :
    Reads spaces gap rest () :=
  (reads_gap hgap hrest).last (reads_pure () rest)

theorem reads_someSpace {gap rest : List Char} (hgap : IsGap gap) (hsome : gap ≠ [])
    (hrest : NoGap rest) : Reads someSpace gap rest () := by
  refine (reads_gap hgap hrest).last ?_
  rw [isEmpty_lineEnds, if_neg (by simpa using hsome)]
  exact reads_pure () rest

/-! ### Pseudo-attributes -/

/-- A pseudo-attribute of an XML declaration, with the blanks in front of it. -/
structure Part (name : String) (accepts : List Char → Bool) where
  value : List Char
  quote : Char
  before : List Char
  left : List Char
  right : List Char
  accepted : accepts value = true
  isQuote : quote = '"' ∨ quote = '\''
  spaced : before ≠ []
  gapBefore : IsGap before
  gapLeft : IsGap left
  gapRight : IsGap right

namespace Part
variable {name : String} {accepts : List Char → Bool}

/-- The value with its quotes. -/
def quoted (p : Part name accepts) : List Char := [p.quote] ++ (p.value ++ [p.quote])

/-- The pseudo-attribute from its name on. -/
def body (p : Part name accepts) : List Char :=
  name.toList ++ ((p.left ++ (['='] ++ p.right)) ++ p.quoted)

def text (p : Part name accepts) : List Char := p.before ++ p.body

end Part

/-- The ASCII characters that are no controls. -/
def IsPrintable (c : Char) : Prop := 0x20 ≤ c.toNat ∧ c.toNat < 0x7f

instance (c : Char) : Decidable (IsPrintable c) := inferInstanceAs (Decidable (_ ∧ _))

theorem IsPrintable.isPlain {c : Char} (h : IsPrintable c) : IsPlain c := by
  have hne {d : Char} (hd : ¬ IsPrintable d) : c ≠ d := fun hc => hd (hc ▸ h)
  refine ⟨hne (by decide), hne (by decide), ?_⟩
  have hmost : c ≠ '\ufffe' ∧ c ≠ '\uffff' := ⟨hne (by decide), hne (by decide)⟩
  simp [isXmlChar, h.1, hmost]

theorem isPlain_toList {text : String} (h : ∀ c ∈ text.toList, IsPrintable c) :
    ∀ c ∈ text.toList, IsPlain c := fun c hc => (h c hc).isPlain

theorem isPrintable_of_isAlphanum {c : Char} (h : c.isAlphanum = true) : IsPrintable c := by
  simp only [Char.isAlphanum, Char.isAlpha, Char.isUpper, Char.isLower, Char.isDigit,
    Bool.or_eq_true, Bool.and_eq_true, decide_eq_true_eq, ge_iff_le, UInt32.le_iff_toNat_le] at h
  simp only [IsPrintable, Char.toNat]
  change (65 ≤ _ ∧ _ ≤ 90 ∨ 97 ≤ _ ∧ _ ≤ 122) ∨ 48 ≤ _ ∧ _ ≤ 57 at h
  omega

/-- Printable and no quote. -/
def IsValueChar (c : Char) : Prop := IsPrintable c ∧ c ≠ '"' ∧ c ≠ '\''

theorem isValueChar_of_isAlphanum {c : Char} (h : c.isAlphanum = true) : IsValueChar c := by
  refine ⟨isPrintable_of_isAlphanum h, ?_, ?_⟩ <;> rintro rfl <;> exact absurd h (by decide)

/-- The name and all values of a pseudo-attribute are made of characters that the scan takes as they
are. -/
structure ReadsAsIs (name : String) (accepts : List Char → Bool) : Prop where
  name : ∀ c ∈ name.toList, IsPrintable c
  value {cs : List Char} : accepts cs = true → ∀ c ∈ cs, IsValueChar c

theorem before?_of_not_mem {q : Char} {value : List Char} (h : q ∉ value) (n : Nat)
    (rest : List Placed) :
    before? [q] (placedOn n value ++ ⟨q, n⟩ :: rest) = some value := by
  induction value with
  | nil => simp [placedOn, before?]
  | cons c value ih =>
    obtain ⟨hc, hvalue⟩ : q ≠ c ∧ q ∉ value := by simpa using h
    have hrest := ih hvalue
    simp only [placedOn, List.map_cons, List.cons_append, before?] at hrest ⊢
    simp [hc, hrest]

theorem run_upTo {terminator : List Char} {i : Input} {cs : List Char}
    (h : before? terminator i.rest = some cs) : (upTo terminator).run i =
      .ok (cs, { i with rest := i.rest.drop (cs.length + terminator.length) }) := by
  rw [upTo, StateT.run_bind, StateT.run_get, pure_bind]
  simp only [h]
  rfl

theorem reads_upTo {q : Char} {value : List Char} (hq : IsPlain q) (hvalue : ∀ c ∈ value, IsPlain c)
    (hmem : q ∉ value) (rest : List Char) : Reads (upTo [q]) (value ++ [q]) rest value := by
  refine fun n => ⟨n, ?_⟩
  have hall : ∀ c ∈ value ++ [q], IsPlain c := by
    simpa [or_imp, forall_and] using ⟨hvalue, hq⟩
  have hplaced : placedOn n (value ++ [q]) = placedOn n value ++ [⟨q, n⟩] := by simp [placedOn]
  have hbefore : before? [q] (onLine n (value ++ [q] ++ rest)).rest = some value := by
    rw [onLine_append hall, hplaced, List.append_assoc]
    exact before?_of_not_mem hmem n _
  have hlength : value.length + [q].length = (placedOn n (value ++ [q])).length := by simp
  rw [run_upTo hbefore, onLine_append hall, hlength]
  simp only [List.drop_left]

theorem reads_peek {c : Char} (hc : IsPlain c) (rest : List Char) :
    Reads peek [] (c :: rest) (some c) := by
  refine fun n => ⟨n, ?_⟩
  rw [List.nil_append, onLine_plain hc]
  rfl

section
variable {name : String} {accepts : List Char → Bool} (p : Part name accepts)

theorem Part.isPrintable_quote : IsPrintable p.quote := by
  rcases p.isQuote with h | h <;> rw [h] <;> decide

theorem reads_literal (h : ReadsAsIs name accepts) (rest : List Char) :
    Reads literal p.quoted rest p.value := by
  have hvalue : ∀ c ∈ p.value, IsValueChar c := h.value p.accepted
  have hquote : IsPlain p.quote := p.isPrintable_quote.isPlain
  have hmem : p.quote ∉ p.value := fun hmem => by
    obtain ⟨-, hdouble, hsingle⟩ := hvalue _ hmem
    exact p.isQuote.elim hdouble hsingle
  refine (reads_peek hquote _).ahead ?_
  have hcond : (p.quote == '"' || p.quote == '\'') = true := by simpa using p.isQuote
  simp only [hcond, if_true]
  have hpass (rest : List Char) : Reads (pass 1) [p.quote] rest () :=
    reads_pass (fun c hc => List.mem_singleton.1 hc ▸ hquote) rest
  exact (hpass _).bind (reads_upTo hquote (fun c hc => (hvalue c hc).1.isPlain) hmem rest)

theorem noGap_of_isPrintable {c : Char} (hc : IsPrintable c) (hblank : c ≠ ' ') (cs : List Char) :
    NoGap (c :: cs) := by
  intro d hd
  obtain rfl : c = d := Option.some.inj hd
  have hplain := hc.isPlain
  have htab : c ≠ '\t' := fun h => absurd (h ▸ hc) (by decide)
  simp [isSpace, hblank, htab, hplain.1, hplain.2.1]

theorem reads_sees_name (h : ReadsAsIs name accepts) (rest : List Char) :
    Reads (sees name.toList) [] (p.body ++ rest) true := by
  rw [Part.body, List.append_assoc]
  exact reads_sees (isPlain_toList h.name) _

theorem reads_declared (h : ReadsAsIs name accepts) (rest : List Char) :
    Reads (declared name accepts) p.body rest p.value := by
  have hquote : p.quote ≠ ' ' := by rcases p.isQuote with h | h <;> rw [h] <;> decide
  have hequals : IsPrintable '=' := by decide
  have hsign : Reads equalsSign (p.left ++ (['='] ++ p.right)) (p.quoted ++ rest) () :=
    (reads_spaces p.gapLeft (noGap_of_isPrintable (by decide) (by decide) _)).bind
      ((reads_expect (fun c hc => List.mem_singleton.1 hc ▸ hequals.isPlain) _).bind
        (reads_spaces p.gapRight (noGap_of_isPrintable p.isPrintable_quote hquote _)))
  refine (reads_expect (isPlain_toList h.name) _).bind (hsign.bind ?_)
  refine (reads_literal p h rest).last ?_
  rw [if_pos p.accepted]
  exact reads_pure p.value rest

end

/-! ### Declarations -/

theorem readsAsIs_version : ReadsAsIs "version" isVersion := by
  refine ⟨by simp [IsPrintable], fun {cs} h => ?_⟩
  simp only [isVersion, Bool.and_eq_true, List.isPrefixOf_iff_prefix, List.all_eq_true] at h
  obtain ⟨⟨rest, rfl⟩, hdigits⟩ := h
  intro c hc
  rcases List.mem_append.1 hc with hc | hc
  · obtain rfl | rfl : c = '1' ∨ c = '.' := by simpa using hc
    all_goals simp [IsValueChar, IsPrintable]
  · exact isValueChar_of_isAlphanum (by simp [Char.isAlphanum, hdigits c hc])

theorem readsAsIs_encoding : ReadsAsIs "encoding" isEncodingName := by
  refine ⟨by simp [IsPrintable], fun {cs} h => ?_⟩
  cases cs with
  | nil => cases h
  | cons first cs =>
    simp only [isEncodingName, Bool.and_eq_true, List.all_eq_true, Bool.or_eq_true,
      beq_iff_eq] at h
    refine List.forall_mem_cons.2 ⟨isValueChar_of_isAlphanum ?_, fun c hc => ?_⟩
    · simp [Char.isAlphanum, h.1]
    · rcases h.2 c hc with ((hc | rfl) | rfl) | rfl
      · exact isValueChar_of_isAlphanum hc
      all_goals simp [IsValueChar, IsPrintable]

def isAnswer (cs : List Char) : Bool := cs == "yes".toList || cs == "no".toList

theorem readsAsIs_standalone : ReadsAsIs "standalone" isAnswer := by
  refine ⟨by simp [IsPrintable], fun {cs} h => ?_⟩
  simp only [isAnswer, Bool.or_eq_true, beq_iff_eq] at h
  rcases h with rfl | rfl <;> simp [IsValueChar, IsPrintable]

/-- The scan of a declaration from the place after the encoding. -/
def afterEncoding (spaced : Bool) (encoding : Option (List Char)) : Scan Declaration := do
  let spaced := (!(← takeWhile isSpace).isEmpty) || (spaced && encoding.isNone)
  let standalone ←
    if spaced && (← sees "standalone".toList) then declared "standalone" isAnswer else pure []
  spaces
  expect "?>".toList
  return ⟨encoding.map String.ofList, standalone == "yes".toList⟩

theorem declaration_eq : declaration = (do
    expect "<?xml".toList
    someSpace
    let _ ← declared "version" isVersion
    let spaced := !(← takeWhile isSpace).isEmpty
    let encoding ←
      if spaced && (← sees "encoding".toList) then pure (some (← declared "encoding" isEncodingName))
      else pure none
    afterEncoding spaced encoding) := rfl

end Scan

/-- An XML declaration but for the name of the encoding. -/
structure XmlDeclaration where
  version : Scan.Part "version" Scan.isVersion
  standalone : Option (Scan.Part "standalone" Scan.isAnswer)
  gap : List Char
  isGap : Scan.IsGap gap

namespace XmlDeclaration
open Scan Input

/-- The blanks after the version or the encoding. -/
def firstGap (d : XmlDeclaration) : List Char :=
  match d.standalone with
  | some p => p.before
  | none => d.gap

/-- What comes after these blanks. -/
def ending (d : XmlDeclaration) : List Char :=
  match d.standalone with
  | some p => p.body ++ (d.gap ++ "?>".toList)
  | none => "?>".toList

/-- The declaration, with the encoding if there is one. -/
def text (d : XmlDeclaration) : Option (Part "encoding" isEncodingName) → List Char
  | some p => "<?xml".toList ++ (d.version.before ++ (d.version.body ++
      (p.before ++ (p.body ++ (d.firstGap ++ d.ending)))))
  | none => "<?xml".toList ++ (d.version.before ++ (d.version.body ++ (d.firstGap ++ d.ending)))

def isAlone (d : XmlDeclaration) : Bool :=
  match d.standalone with
  | some p => p.value == "yes".toList
  | none => false

variable (d : XmlDeclaration)

theorem isGap_firstGap : IsGap d.firstGap := by
  unfold firstGap
  split
  · exact Part.gapBefore _
  · exact d.isGap

theorem firstGap_ne_nil (h : d.standalone.isSome) : d.firstGap ≠ [] := by
  obtain ⟨p, hp⟩ := Option.isSome_iff_exists.1 h
  rw [firstGap, hp]
  exact p.spaced

theorem noGap_ending (rest : List Char) : NoGap (d.ending ++ rest) := by
  unfold ending
  split <;> exact noGap_of_isPrintable (by decide) (by decide) _

/-- The end of a declaration is read, if there are blanks where they have to be. -/
theorem reads_afterEncoding {gap : List Char} (hgap : IsGap gap) {spaced : Bool}
    {encoding : Option (List Char)}
    (hspaced : d.standalone.isSome → (!gap.isEmpty || (spaced && encoding.isNone)) = true)
    (rest : List Char) :
    Reads (afterEncoding spaced encoding) (gap ++ d.ending) rest
      ⟨encoding.map String.ofList, d.isAlone⟩ := by
  have hmark : ∀ c ∈ "?>".toList, IsPlain c := isPlain_toList (by simp [IsPrintable])
  have hquestion : IsPrintable '?' := by decide
  have hnothing : IsGap [] := by simp [IsGap]
  refine (reads_gap hgap (d.noGap_ending rest)).bind ?_
  rw [isEmpty_lineEnds]
  unfold ending isAlone
  cases hstandalone : d.standalone with
  | none =>
    refine (reads_not_sees (by decide) hquestion.isPlain _ _).ahead ?_
    rw [Bool.and_false]
    refine (reads_pure [] _).ahead ?_
    refine (reads_spaces hnothing (noGap_of_isPrintable hquestion (by decide) _)).ahead ?_
    exact (reads_expect hmark rest).last (reads_pure _ rest)
  | some p =>
    have hsees : Reads (sees "standalone".toList) [] (p.body ++ (d.gap ++ "?>".toList) ++ rest)
        true := by
      rw [List.append_assoc]
      exact reads_sees_name p readsAsIs_standalone _
    refine hsees.ahead ?_
    rw [hspaced (by simp [hstandalone]), Bool.and_true]
    refine (reads_declared p readsAsIs_standalone _).bind ?_
    refine (reads_spaces d.isGap (noGap_of_isPrintable hquestion (by decide) _)).bind ?_
    exact (reads_expect hmark rest).last (reads_pure _ rest)

/-- The beginning of a declaration, up to the version. -/
theorem reads_opening {f : Scan Declaration} {cs rest : List Char} {a : Declaration}
    (h : Reads f cs rest a) :
    Reads (do
      expect "<?xml".toList
      someSpace
      let _ ← declared "version" isVersion
      f) ("<?xml".toList ++ (d.version.before ++ (d.version.body ++ cs))) rest a := by
  have hmark : ∀ c ∈ "<?xml".toList, IsPlain c := isPlain_toList (by simp [IsPrintable])
  refine (reads_expect hmark _).bind ?_
  refine (reads_someSpace d.version.gapBefore d.version.spaced ?_).bind ?_
  · exact noGap_of_isPrintable (by decide) (by decide) _
  · exact (reads_declared d.version readsAsIs_version _).bind h

theorem reads_declaration_none (rest : List Char) :
    Reads declaration (d.text none) rest ⟨none, d.isAlone⟩ := by
  have hsees : Reads (sees "encoding".toList) [] (d.ending ++ rest) false := by
    unfold ending
    split <;> exact reads_not_sees (by decide) (IsPrintable.isPlain (by decide)) _ _
  have hnothing : IsGap [] := by simp [IsGap]
  rw [declaration_eq]
  refine d.reads_opening ((reads_gap d.isGap_firstGap (d.noGap_ending rest)).bind (hsees.ahead ?_))
  rw [Bool.and_false]
  refine d.reads_afterEncoding hnothing (fun h => ?_) rest
  rw [isEmpty_lineEnds]
  simp [d.firstGap_ne_nil h]

theorem reads_declaration_some (p : Part "encoding" isEncodingName) (rest : List Char) :
    Reads declaration (d.text (some p)) rest ⟨some (String.ofList p.value), d.isAlone⟩ := by
  have hblank : NoGap (p.body ++ (d.firstGap ++ d.ending) ++ rest) :=
    noGap_of_isPrintable (by decide) (by decide) _
  have hsees : Reads (sees "encoding".toList) [] (p.body ++ (d.firstGap ++ d.ending) ++ rest)
      true := by
    rw [List.append_assoc]
    exact reads_sees_name p readsAsIs_encoding _
  have hspaced : (!(lineEnds p.before).isEmpty && true) = true := by
    rw [isEmpty_lineEnds]
    simpa using p.spaced
  rw [declaration_eq]
  refine d.reads_opening ((reads_gap p.gapBefore hblank).bind (hsees.ahead ?_))
  simp only [hspaced, if_true]
  refine (reads_declared p readsAsIs_encoding _).bind ?_
  refine d.reads_afterEncoding d.isGap_firstGap (fun h => ?_) rest
  simp [d.firstGap_ne_nil h]

theorem reads_declaration (encoding : Option (Part "encoding" isEncodingName)) (rest : List Char) :
    Reads declaration (d.text encoding) rest
      ⟨encoding.map fun p => String.ofList p.value, d.isAlone⟩ := by
  cases encoding with
  | none => exact d.reads_declaration_none rest
  | some p => exact d.reads_declaration_some p rest

theorem head_onLine_of_isSpace {c : Char} (hc : isSpace c = true) (n : Nat) (cs : List Char) :
    ∃ x, (onLine n (c :: cs)).rest.head? = some x ∧ isSpace x.char = true := by
  by_cases hreturn : c = '\r'
  · subst hreturn
    cases cs with
    | nil => exact ⟨_, rfl, rfl⟩
    | cons d cs =>
      by_cases hd : d = '\n'
      · subst hd
        exact ⟨_, rfl, rfl⟩
      · rw [onLine_return (by simpa using hd)]
        exact ⟨_, rfl, rfl⟩
  · simp only [isSpace, hreturn, Bool.or_eq_true, beq_iff_eq, or_false] at hc
    obtain (rfl | rfl) | rfl := hc <;> exact ⟨_, rfl, rfl⟩

theorem exists_text_eq (encoding : Option (Part "encoding" isEncodingName)) :
    ∃ cs, d.text encoding = "<?xml".toList ++ (d.version.before ++ cs) := by
  cases encoding <;> exact ⟨_, rfl⟩

theorem run_seesDeclaration (i : Input) : seesDeclaration.run i =
    .ok ("<?xml".toList.isPrefixOf ((i.rest.take 5).map (·.char)) &&
      (((i.rest[5]?).map fun x => isSpace x.char).getD false), i) := rfl

theorem reads_seesDeclaration (encoding : Option (Part "encoding" isEncodingName))
    (rest : List Char) : Reads seesDeclaration [] (d.text encoding ++ rest) true := by
  have hmark : ∀ c ∈ "<?xml".toList, IsPlain c := isPlain_toList (by simp [IsPrintable])
  intro n
  refine ⟨n, ?_⟩
  obtain ⟨cs, hcs⟩ := d.exists_text_eq encoding
  obtain ⟨c, before, hbefore⟩ := List.exists_cons_of_ne_nil d.version.spaced
  have hc : isSpace c = true := d.version.gapBefore c (by simp [hbefore])
  obtain ⟨x, hx, hspace⟩ := head_onLine_of_isSpace hc n (before ++ cs ++ rest)
  have htext : d.text encoding ++ rest = "<?xml".toList ++ (c :: (before ++ cs ++ rest)) := by
    simp [hcs, hbefore]
  have hplaced : (onLine n (d.text encoding ++ rest)).rest =
      placedOn n "<?xml".toList ++ (onLine n (c :: (before ++ cs ++ rest))).rest := by
    rw [htext, onLine_append hmark]
  have hfive : (placedOn n "<?xml".toList).length = 5 := rfl
  rw [run_seesDeclaration, List.nil_append, hplaced, List.take_left' hfive,
    List.getElem?_append_right (Nat.le_of_eq hfive), hfive, Nat.sub_self, ← List.head?_eq_getElem?,
    hx, map_char_placedOn]
  simp [hspace]

theorem reads_header (encoding : Option (Part "encoding" isEncodingName)) (rest : List Char) :
    Reads header (d.text encoding) rest d.isAlone :=
  (d.reads_seesDeclaration encoding rest).ahead
    ((d.reads_declaration encoding rest).last (reads_pure _ rest))

/-- The encoding that a declaration names; it is UTF-8 if it names none. -/
def encoding? : Option (Part "encoding" isEncodingName) → Option Encoding
  | none => some .utf8
  | some p => Encoding.named? (String.ofList p.value)

theorem isAsciiBased_of_encoding? {encoding : Option (Part "encoding" isEncodingName)} {e : Encoding}
    (he : encoding? encoding = some e) : e.IsAsciiBased := by
  cases encoding with
  | none =>
    cases he
    trivial
  | some p => exact Encoding.isAsciiBased_of_named he

theorem reads_ofDeclaration {encoding : Option (Part "encoding" isEncodingName)} {e : Encoding}
    (he : encoding? encoding = some e) (rest : List Char) :
    Reads Encoding.ofDeclaration (d.text encoding) rest e := by
  refine (d.reads_seesDeclaration encoding rest).ahead
    ((d.reads_declaration encoding rest).last ?_)
  cases encoding with
  | none =>
    cases he
    exact reads_pure _ rest
  | some p =>
    simp only [encoding?] at he
    simp only [Option.map_some, he]
    exact reads_pure e rest

theorem isAscii_of_isPrintable {cs : List Char} (h : ∀ c ∈ cs, IsPrintable c) : IsAscii cs :=
  fun c hc => Nat.lt_succ_of_lt (h c hc).2

theorem isAscii_of_isGap {cs : List Char} (h : IsGap cs) : IsAscii cs := by
  intro c hc
  have hspace := h c hc
  simp only [isSpace, Bool.or_eq_true, beq_iff_eq] at hspace
  obtain ((rfl | rfl) | rfl) | rfl := hspace <;> decide

theorem isAscii_body {name : String} {accepts : List Char → Bool} (p : Part name accepts)
    (h : ReadsAsIs name accepts) : IsAscii p.body := by
  have hquote : IsAscii [p.quote] :=
    isAscii_of_isPrintable fun c hc => List.mem_singleton.1 hc ▸ p.isPrintable_quote
  have hequals : IsAscii ['='] := by simp [IsAscii]
  have hvalue : IsAscii p.value := isAscii_of_isPrintable fun c hc => (h.value p.accepted c hc).1
  have hsign := (isAscii_of_isGap p.gapLeft).append (hequals.append (isAscii_of_isGap p.gapRight))
  exact (isAscii_of_isPrintable h.name).append (hsign.append (hquote.append (hvalue.append hquote)))

theorem isAscii_ending : IsAscii (d.firstGap ++ d.ending) := by
  have hmark : IsAscii "?>".toList := by simp [IsAscii]
  refine (isAscii_of_isGap d.isGap_firstGap).append ?_
  unfold ending
  split
  · next p _ =>
    exact (isAscii_body p readsAsIs_standalone).append ((isAscii_of_isGap d.isGap).append hmark)
  · exact hmark

theorem isAscii_text (encoding : Option (Part "encoding" isEncodingName)) :
    IsAscii (d.text encoding) := by
  have hmark : IsAscii "<?xml".toList := by simp [IsAscii]
  have hversion := isAscii_body d.version readsAsIs_version
  have hbefore := isAscii_of_isGap d.version.gapBefore
  cases encoding with
  | none => exact hmark.append (hbefore.append (hversion.append d.isAscii_ending))
  | some p =>
    have hencoding := isAscii_body p readsAsIs_encoding
    exact hmark.append (hbefore.append (hversion.append
      ((isAscii_of_isGap p.gapBefore).append (hencoding.append d.isAscii_ending))))

end XmlDeclaration
end PropertyDocs.Xml
