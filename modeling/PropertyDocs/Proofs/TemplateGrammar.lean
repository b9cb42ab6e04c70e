import PropertyDocs.Grammar
import PropertyDocs.Proofs.Backslashes

/-!
# The grammar of template texts

A template text is a sequence of items: characters, characters after a backslash, dollar signs that
open nothing, and references. Such a sequence is read as its pieces (`Reads.pieces_eq`), what is
read is one (`exists_reads_of_pieces`), and no text is two of them (`Reads.unique`). A text outside
of this grammar either leaves a backslash at its end without a character or a reference without its
brace, and the run of backslashes at the end of the text tells which (`pieces_eq_error`).
-/
namespace PropertyDocs.Template

/-! ## Items -/

/-- A character that stands for itself, or one after a backslash. -/
inductive Letter where
  | plain (c : Char)
  | escape (c : Char)
deriving DecidableEq, Repr

/-- What the letters for control characters stand for after a backslash. -/
def controlLetters : List (Char × Char) :=
  [('t', '\t'), ('r', '\r'), ('n', '\n'), ('f', '\x0c')]

namespace Letter

/-- The character that is meant. -/
def char : Letter → Char
  | plain c => c
  | escape c => (controlLetters.lookup c).getD c

def written : Letter → List Char
  | plain c => [c]
  | escape c => ['\\', c]

/-- Whether the letter may stand before `delimiter`, the sign that ends a run of letters. -/
def Allowed (delimiter : Char) : Letter → Prop
  | plain c => c ≠ '\\' ∧ c ≠ delimiter
  | escape _ => True

instance (delimiter : Char) : DecidablePred (Allowed delimiter)
  | plain c => inferInstanceAs (Decidable (c ≠ '\\' ∧ c ≠ delimiter))
  | escape _ => inferInstanceAs (Decidable True)

end Letter

inductive Item where
  | letter (l : Letter)
  /-- A dollar sign that does not open a reference. -/
  | dollar
  | reference (name : List Letter)
deriving DecidableEq, Repr

/-- `Reads items cs`: the text `cs` is the sequence `items`. -/
inductive Reads : List Item → List Char → Prop
  | nil : Reads [] []
  | letter {l : Letter} {items : List Item} {cs : List Char} : l.Allowed '$' → Reads items cs →
      Reads (.letter l :: items) (l.written ++ cs)
  | dollar {items : List Item} {cs : List Char} : cs.head? ≠ some '{' → Reads items cs →
      Reads (.dollar :: items) ('$' :: cs)
  | reference {name : List Letter} {items : List Item} {cs : List Char} :
      (∀ l ∈ name, l.Allowed '}') → Reads items cs →
      Reads (.reference name :: items) ('$' :: '{' :: (name.flatMap Letter.written ++ '}' :: cs))

namespace Item

/-- The name of a reference. -/
def name? : Item → Option String
  | reference name => some (String.ofList (name.map Letter.char))
  | _ => none

/-- The character of a literal. -/
def char? : Item → Option Char
  | letter l => some l.char
  | dollar => some '$'
  | reference _ => none

def isReference (item : Item) : Bool := item.name?.isSome

/-- The names that are referred to, in order. -/
def names (items : List Item) : List String := items.filterMap name?

/-- The texts before, between and after the references. -/
def literals (items : List Item) : List String :=
  (items.splitOnP isReference).map fun run => String.ofList (run.filterMap char?)

/-- What the item is read as. -/
def piece : Item → Piece
  | letter l => .char l.char
  | dollar => .char '$'
  | reference name => .reference (name.map Letter.char)

end Item

/-! ## One reading -/

variable {l l' : Letter} {d : Char} {name name' : List Letter} {items items' : List Item}
  {cs cs' : List Char}

theorem Letter.written_append_inj (h : l.Allowed d) (h' : l'.Allowed d)
    (heq : l.written ++ cs = l'.written ++ cs') : l = l' ∧ cs = cs' := by
  cases l <;> cases l' <;> simp_all [Letter.written, Letter.Allowed, eq_comm]

/-- A letter does not begin with the sign that ends its run. -/
theorem Letter.written_append_ne (h : l.Allowed d) (hd : d ≠ '\\') :
    l.written ++ cs ≠ d :: cs' := by
  cases l with
  | plain c => simp_all [Letter.written, Letter.Allowed]
  | escape c => simp [Letter.written, hd.symm]

/-- The letters of a run are known from the text up to its end. -/
theorem Letter.run_inj (hd : d ≠ '\\') : ∀ {name name' : List Letter},
    (∀ l ∈ name, l.Allowed d) → (∀ l ∈ name', l.Allowed d) →
    name.flatMap Letter.written ++ d :: cs = name'.flatMap Letter.written ++ d :: cs' →
    name = name' ∧ cs = cs'
  | [], [], _, _, heq => by simpa using heq
  | [], l' :: name', _, h', heq => by
    rw [List.flatMap_cons, List.append_assoc] at heq
    exact absurd heq.symm (written_append_ne (h' l' (by simp)) hd)
  | l :: name, [], h, _, heq => by
    rw [List.flatMap_cons, List.append_assoc] at heq
    exact absurd heq (written_append_ne (h l (by simp)) hd)
  | l :: name, l' :: name', h, h', heq => by
    rw [List.flatMap_cons, List.append_assoc, List.flatMap_cons, List.append_assoc] at heq
    obtain ⟨rfl, hrest⟩ := written_append_inj (h l (by simp)) (h' l' (by simp)) heq
    obtain ⟨rfl, rfl⟩ := run_inj hd (fun l hl => h l (by simp [hl]))
      (fun l hl => h' l (by simp [hl])) hrest
    exact ⟨rfl, rfl⟩

/-- A text is read in one way only. -/
theorem Reads.unique (h : Reads items cs) (h' : Reads items' cs) : items = items' := by
  induction h generalizing items' with
  | nil =>
    generalize hcs : [] = cs at h'
    cases h' with
    | nil => rfl
    | @letter l => cases l <;> simp [Letter.written] at hcs
    | dollar | reference => cases hcs
  | @letter l items cs hl _ ih =>
    generalize hcs : l.written ++ cs = text at h'
    cases h' with
    | nil => cases l <;> simp [Letter.written] at hcs
    | letter hl' hitems =>
      obtain ⟨rfl, rfl⟩ := Letter.written_append_inj hl hl' hcs
      rw [ih hitems]
    | dollar | reference => exact absurd hcs (Letter.written_append_ne hl (by decide))
  | @dollar items cs hbrace _ ih =>
    generalize hcs : '$' :: cs = text at h'
    cases h' with
    | nil => cases hcs
    | letter hl => exact absurd hcs.symm (Letter.written_append_ne hl (by decide))
    | dollar _ hitems =>
      obtain rfl := (List.cons.inj hcs).2
      rw [ih hitems]
    | reference => exact absurd (by rw [(List.cons.inj hcs).2]; rfl) hbrace
  | @reference name items cs hname _ ih =>
    generalize hcs : '$' :: '{' :: (name.flatMap Letter.written ++ '}' :: cs) = text at h'
    cases h' with
    | nil => cases hcs
    | letter hl => exact absurd hcs.symm (Letter.written_append_ne hl (by decide))
    | dollar hbrace => exact absurd (by rw [← (List.cons.inj hcs).2]; rfl) hbrace
    | reference hname' hitems =>
      simp only [List.cons.injEq, true_and] at hcs
      obtain ⟨rfl, rfl⟩ := Letter.run_inj (by decide) hname hname' hcs
      rw [ih hitems]

/-! ## Readings are read -/

theorem unescaped_eq (c : Char) : unescaped c = (Letter.escape c).char := by
  unfold unescaped
  split
  · rfl
  · rfl
  · rfl
  · rfl
  · next ht hr hn hf =>
    have hnone : controlLetters.lookup c = none := by
      simp only [List.lookup_eq_none_iff, controlLetters, List.forall_mem_cons, bne_iff_ne]
      exact ⟨ht, hr, hn, hf, by simp⟩
    rw [Letter.char, hnone, Option.getD_none]

theorem pieces_letter (h : l.Allowed '$') :
    pieces none (l.written ++ cs) = (pieces none cs).map (.char l.char :: ·) := by
  cases l with
  | plain c =>
    rw [Letter.written, List.singleton_append, pieces]
    · cases pieces none cs <;> rfl
    · exact fun hc => absurd hc h.1
    · exact fun _ _ hc => absurd hc h.1
    · exact fun _ hc => absurd hc h.2
  | escape c =>
    rw [Letter.written, List.cons_append, List.singleton_append, pieces, unescaped_eq]
    cases pieces none cs <;> rfl

theorem pieces_letterInName (h : l.Allowed '}') (read : List Char) :
    pieces (some read) (l.written ++ cs) = pieces (some (l.char :: read)) cs := by
  cases l with
  | plain c =>
    rw [Letter.written, List.singleton_append, pieces]
    · rfl
    · exact fun hc => absurd hc h.1
    · exact fun _ _ hc => absurd hc h.1
    · exact fun hc => absurd hc h.2
  | escape c => rw [Letter.written, List.cons_append, List.singleton_append, pieces, unescaped_eq]

theorem pieces_letters (h : ∀ l ∈ name, l.Allowed '}') (read : List Char) :
    pieces (some read) (name.flatMap Letter.written ++ '}' :: cs) =
      (pieces none cs).map (.reference (read.reverse ++ name.map Letter.char) :: ·) := by
  induction name generalizing read with
  | nil =>
    rw [List.flatMap_nil, List.nil_append, pieces, List.map_nil, List.append_nil]
    cases pieces none cs <;> rfl
  | cons l name ih =>
    rw [List.flatMap_cons, List.append_assoc, pieces_letterInName (h l (by simp)),
      ih fun l hl => h l (by simp [hl])]
    simp

/-- A dollar sign in front of anything but a brace is a character. -/
theorem pieces_dollar (h : cs.head? ≠ some '{') :
    pieces none ('$' :: cs) = (pieces none cs).map (.char '$' :: ·) := by
  rw [pieces]
  · cases pieces none cs <;> rfl
  · exact fun hc => absurd hc (by decide)
  · exact fun _ _ hc => absurd hc (by decide)
  · rintro rest - rfl
    exact h rfl

theorem Reads.pieces_eq (h : Reads items cs) : pieces none cs = .ok (items.map Item.piece) := by
  induction h with
  | nil => rfl
  | letter hl _ ih => rw [pieces_letter hl, ih]; rfl
  | dollar hbrace _ ih => rw [pieces_dollar hbrace, ih]; rfl
  | reference hname _ ih => rw [pieces, pieces_letters hname, ih]; rfl

/-! ## What is read has a reading -/

/-- `cs` goes on with the rest of a name up to a brace, and then with `items`. -/
def ReadsRest (read : List Char) (ps : List Piece) (cs : List Char) : Prop :=
  ∃ (name : List Letter) (items : List Item) (rest : List Char),
    cs = name.flatMap Letter.written ++ '}' :: rest ∧ (∀ l ∈ name, l.Allowed '}') ∧
      Reads items rest ∧ ps = .reference (read.reverse ++ name.map Letter.char) ::
        items.map Item.piece

theorem ReadsRest.letter {read : List Char} {ps : List Piece} (hl : l.Allowed '}')
    (h : ReadsRest (l.char :: read) ps cs) : ReadsRest read ps (l.written ++ cs) := by
  obtain ⟨name, items, rest, rfl, hname, hitems, rfl⟩ := h
  refine ⟨l :: name, items, rest, by simp, ?_, hitems, by simp⟩
  simpa using ⟨hl, hname⟩

/-- A piece in front of others has to be followed by what can be read. -/
theorem map_cons_eq_ok {p : Piece} {r : Except TemplateError (List Piece)} {ps : List Piece}
    (h : (do return p :: (← r)) = Except.ok ps) : ∃ qs, r = .ok qs ∧ ps = p :: qs := by
  cases r with
  | error e => cases h
  | ok qs => exact ⟨qs, rfl, (Except.ok.inj h).symm⟩

/-- Only a backslash before nothing is neither a letter nor the end of a run. -/
theorem ne_slash_of_other (hlast : c = '\\' → cs = [] → False)
    (hmore : ∀ e rest, c = '\\' → cs = e :: rest → False) : c ≠ '\\' := by
  rintro rfl
  cases cs with
  | nil => exact hlast rfl rfl
  | cons e rest => exact hmore e rest rfl rfl

theorem exists_reads_of_pieces {state : Option (List Char)} {ps : List Piece}
    (h : pieces state cs = .ok ps) :
    match state with
    | none => ∃ items, Reads items cs ∧ ps = items.map Item.piece
    | some read => ReadsRest read ps cs := by
  induction state, cs using pieces.induct generalizing ps with
  | case1 =>
    obtain rfl := Except.ok.inj h
    exact ⟨[], .nil, rfl⟩
  | case2 | case3 => simp [pieces] at h
  | case4 c cs ih =>
    obtain ⟨qs, hqs, rfl⟩ := map_cons_eq_ok (by simpa only [pieces] using h)
    obtain ⟨items, hitems, rfl⟩ := ih hqs
    exact ⟨.letter (.escape c) :: items, .letter (l := .escape c) trivial hitems,
      by simp [Item.piece, unescaped_eq]⟩
  | case5 read c cs ih =>
    rw [pieces] at h
    exact ReadsRest.letter (l := .escape c) trivial (by simpa only [unescaped_eq] using ih h)
  | case6 cs ih =>
    rw [pieces] at h
    obtain ⟨name, items, rest, rfl, hname, hitems, rfl⟩ := ih h
    exact ⟨.reference name :: items, .reference hname hitems, rfl⟩
  | case7 c cs hlast hmore hopens ih =>
    have hslash := ne_slash_of_other hlast hmore
    rw [pieces.eq_7 c cs hlast hmore hopens] at h
    obtain ⟨qs, hqs, rfl⟩ := map_cons_eq_ok h
    obtain ⟨items, hitems, rfl⟩ := ih hqs
    by_cases hdollar : c = '$'
    · subst hdollar
      have hbrace : cs.head? ≠ some '{' := by
        intro hhead
        obtain ⟨rest, rfl⟩ := List.head?_eq_some_iff.1 hhead
        exact hopens rest rfl rfl
      exact ⟨.dollar :: items, .dollar hbrace hitems, rfl⟩
    · exact ⟨.letter (.plain c) :: items, .letter (l := .plain c) ⟨hslash, hdollar⟩ hitems, rfl⟩
  | case8 read cs ih =>
    rw [pieces] at h
    obtain ⟨qs, hqs, rfl⟩ := map_cons_eq_ok h
    obtain ⟨items, hitems, rfl⟩ := ih hqs
    exact ⟨[], items, cs, rfl, by simp, hitems, by simp⟩
  | case9 read c cs hlast hmore hbrace ih =>
    rw [pieces.eq_9 read c cs hlast hmore hbrace] at h
    exact ReadsRest.letter (l := .plain c) ⟨ne_slash_of_other hlast hmore, hbrace⟩ (ih h)

/-! ## Names and literals -/

theorem names_ofPieces (items : List Item) :
    (ofPieces (items.map Item.piece)).names = Item.names items := by
  rw [Template.names, ofPieces, List.map_map]
  induction items with
  | nil => rfl
  | cons item items ih =>
    cases item with
    | letter | dollar => exact ih
    | reference name => exact congrArg (String.ofList (name.map Letter.char) :: ·) ih

/-- The literals of what is read, as lists of characters. -/
def literalParts (ps : List Piece) : List (List Char) := (parts ps).1 :: (parts ps).2.map (·.2)

theorem literals_ofPieces (ps : List Piece) :
    (ofPieces ps).literals = (literalParts ps).map String.ofList := by
  simp [Template.literals, ofPieces, literalParts]

/-- A character is added to the first literal. -/
theorem literalParts_char (c : Char) (ps : List Piece) :
    literalParts (.char c :: ps) = (literalParts ps).modifyHead (c :: ·) := rfl

/-- A reference ends an empty literal. -/
theorem literalParts_reference (name : List Char) (ps : List Piece) :
    literalParts (.reference name :: ps) = [] :: literalParts ps := rfl

theorem literalParts_items (items : List Item) :
    literalParts (items.map Item.piece) =
      (items.splitOnP Item.isReference).map (·.filterMap Item.char?) := by
  induction items with
  | nil => rfl
  | cons item items ih =>
    rw [List.map_cons, List.splitOnP_cons_eq_if_modifyHead]
    cases item with
    | letter l =>
      rw [Item.piece, literalParts_char, ih]
      cases items.splitOnP Item.isReference <;> rfl
    | dollar =>
      rw [Item.piece, literalParts_char, ih]
      cases items.splitOnP Item.isReference <;> rfl
    | reference name => rw [Item.piece, literalParts_reference, ih]; rfl

theorem Reads.compile_eq {text : String} (h : Reads items text.toList) :
    ∃ t, compile text = .ok t ∧ t.names = Item.names items ∧ t.literals = Item.literals items := by
  refine ⟨ofPieces (items.map Item.piece), by rw [compile, h.pieces_eq]; rfl,
    names_ofPieces items, ?_⟩
  rw [literals_ofPieces, literalParts_items, Item.literals, List.map_map]
  rfl

theorem exists_reads_of_compile {text : String} {t : Template} (h : compile text = .ok t) :
    ∃ items, Reads items text.toList ∧ t = ofPieces (items.map Item.piece) := by
  rw [compile] at h
  cases hps : pieces none text.toList with
  | error e => rw [hps] at h; cases h
  | ok ps =>
    rw [hps] at h
    obtain ⟨items, hitems, rfl⟩ := exists_reads_of_pieces hps
    exact ⟨items, hitems, (Except.ok.inj h).symm⟩

/-! ## Texts outside of the grammar -/

/-- A piece in front of others does not fail by itself. -/
theorem eq_error_of_map_cons {p : Piece} {r : Except TemplateError (List Piece)}
    {e : TemplateError} (h : (do return p :: (← r)) = Except.error e) : r = .error e := by
  cases r with
  | error e' => exact h
  | ok ps => cases h

/-- A text that is not read ends in a backslash of its own, or else in a reference. -/
theorem pieces_eq_error {state : Option (List Char)} {e : TemplateError}
    (h : pieces state cs = .error e) : e = .trailingBackslash ↔ slashesAtEnd cs % 2 = 1 := by
  induction state, cs using pieces.induct with
  | case1 => cases h
  | case2 =>
    obtain rfl := Except.error.inj h
    simp [slashesAtEnd]
  | case3 state =>
    rw [pieces] at h
    obtain rfl := Except.error.inj h
    exact iff_of_true rfl rfl
  | case4 c cs ih =>
    rw [pieces] at h
    have hrest := ih (eq_error_of_map_cons h)
    rwa [slashesAtEnd_escape]
  | case5 read c cs ih =>
    rw [pieces] at h
    have hrest := ih h
    rwa [slashesAtEnd_escape]
  | case6 cs ih =>
    rw [pieces] at h
    have hrest := ih h
    rwa [slashesAtEnd_cons (by decide), slashesAtEnd_cons (by decide)]
  | case7 c cs hlast hmore hopens ih =>
    rw [pieces.eq_7 c cs hlast hmore hopens] at h
    have hrest := ih (eq_error_of_map_cons h)
    rwa [slashesAtEnd_cons (ne_slash_of_other hlast hmore)]
  | case8 read cs ih =>
    rw [pieces] at h
    have hrest := ih (eq_error_of_map_cons h)
    rwa [slashesAtEnd_cons (by decide)]
  | case9 read c cs hlast hmore hbrace ih =>
    rw [pieces.eq_9 read c cs hlast hmore hbrace] at h
    have hrest := ih h
    rwa [slashesAtEnd_cons (ne_slash_of_other hlast hmore)]

theorem pieces_of_compile_eq_error {text : String} {e : TemplateError}
    (h : compile text = .error e) : pieces none text.toList = .error e := by
  rw [compile] at h
  cases hps : pieces none text.toList with
  | error e' =>
    rw [hps] at h
    exact congrArg Except.error (Except.error.inj h)
  | ok ps => rw [hps] at h; cases h

/-! ## The grammar -/

/-- **The texts that are read are those of the grammar.** Each of them has one reading, whose names
and literals are those of the template. Any other text is refused as a whole: for its last
backslash if it ends in an odd run of them, and for a reference without end if not. -/
theorem compile_reads_grammar (text : String) :
    ((∃ t, compile text = .ok t) ↔ ∃ items, Reads items text.toList) ∧
    (∀ items, Reads items text.toList →
      (∀ items', Reads items' text.toList → items' = items) ∧
      ∃ t, compile text = .ok t ∧ t.names = Item.names items ∧
        t.literals = Item.literals items) ∧
    ((¬ ∃ items, Reads items text.toList) → ∃ cause,
      compile text = .error cause ∧
      (cause = .trailingBackslash ↔ slashesAtEnd text.toList % 2 = 1) ∧
      (cause = .unclosedReference ↔ slashesAtEnd text.toList % 2 = 0) ∧
      ∀ h : Xml.Head,
        Grammar.template h text = .error (.defect (.template cause text) (some h.line))) := by
  refine ⟨⟨fun ⟨t, ht⟩ => ?_, fun ⟨items, hitems⟩ => ?_⟩,
    fun items h => ⟨fun items' h' => h'.unique h, h.compile_eq⟩, fun hnone => ?_⟩
  · obtain ⟨items, hitems, -⟩ := exists_reads_of_compile ht
    exact ⟨items, hitems⟩
  · obtain ⟨t, ht, -⟩ := hitems.compile_eq
    exact ⟨t, ht⟩
  · cases hcompile : compile text with
    | ok t =>
      obtain ⟨items, hitems, -⟩ := exists_reads_of_compile hcompile
      exact absurd ⟨items, hitems⟩ hnone
    | error cause =>
      have hslash := pieces_eq_error (pieces_of_compile_eq_error hcompile)
      refine ⟨cause, rfl, hslash, ?_, fun h => by rw [Grammar.template, hcompile]; rfl⟩
      cases cause <;> simp_all

/-- A tab, a letter, two dollar signs of which the second opens a reference, and in its name a
closing brace and another dollar sign; and a text that ends inside a name in a single backslash. -/
theorem compile_reads_grammar_sample :
    (∃ t, compile "\\ta$$\x7bn\\\x7d$\x7d$" = .ok t ∧ t.names = ["n\x7d$"] ∧
      t.literals = ["\ta$", "$"]) ∧
    ∃ cause, compile "$\x7ba\\" = .error cause ∧ cause = .trailingBackslash := by
  constructor
  · let name : List Letter := [.plain 'n', .escape '}', .plain '$']
    have hname : ∀ l ∈ name, l.Allowed '}' := by decide
    have hreads : Reads [.letter (.escape 't'), .letter (.plain 'a'), .dollar, .reference name,
        .dollar] "\\ta$$\x7bn\\\x7d$\x7d$".toList :=
      .letter (l := .escape 't') trivial <| .letter (l := .plain 'a') (by decide) <|
        .dollar (by decide) <| .reference hname <| .dollar (by decide) .nil
    exact ((compile_reads_grammar _).2.1 _ hreads).2
  · have herror : compile "$\x7ba\\" = .error .trailingBackslash := by rfl
    have hnone : ¬ ∃ items, Reads items "$\x7ba\\".toList := by
      rw [← (compile_reads_grammar _).1, herror]
      simp
    obtain ⟨cause, hcause, hslash, -⟩ := (compile_reads_grammar _).2.2 hnone
    exact ⟨cause, hcause, hslash.2 (by decide)⟩

end PropertyDocs.Template
