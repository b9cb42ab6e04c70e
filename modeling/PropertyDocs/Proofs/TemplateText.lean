import Mathlib.Tactic.SplitIfs
import PropertyDocs.Proofs.TemplateGrammar

/-!
# The text form of a template

Reading the text form gives the template back, whatever characters its literals and its names
have. Outside of references a backslash and a dollar sign have to be escaped, inside them a
backslash and a closing brace; writing escapes a few characters more, and reading undoes that too.
-/
namespace PropertyDocs.Template

/-! ## Characters -/

/-- A character is written as itself or as a backslash with a character that stands for it. -/
theorem exists_letter_escaped (c : Char) :
    ∃ l : Letter, escaped c = l.written ∧ l.Allowed '$' ∧ l.char = c := by
  unfold escaped
  split_ifs with hslash hdollar htab hreturn hfeed hform
  · exact ⟨.escape '\\', rfl, trivial, hslash.symm⟩
  · exact ⟨.escape '$', rfl, trivial, hdollar.symm⟩
  · exact ⟨.escape 't', rfl, trivial, htab.symm⟩
  · exact ⟨.escape 'r', rfl, trivial, hreturn.symm⟩
  · exact ⟨.escape 'n', rfl, trivial, hfeed.symm⟩
  · exact ⟨.escape 'f', rfl, trivial, hform.symm⟩
  · exact ⟨.plain c, rfl, ⟨hslash, hdollar⟩, rfl⟩

theorem exists_letter_escapedInName (c : Char) :
    ∃ l : Letter, escapedInName c = l.written ∧ l.Allowed '}' ∧ l.char = c := by
  unfold escapedInName
  split_ifs with hbrace
  · exact ⟨.escape '}', rfl, trivial, hbrace.symm⟩
  · obtain ⟨l, hwritten, hallowed, rfl⟩ := exists_letter_escaped c
    cases l with
    | plain c => exact ⟨.plain c, hwritten, ⟨hallowed.1, hbrace⟩, rfl⟩
    | escape c => exact ⟨.escape c, hwritten, trivial, rfl⟩

/-- A character of a literal reads back. -/
theorem pieces_escaped (c : Char) (cs : List Char) :
    pieces none (escaped c ++ cs) = (pieces none cs).map (.char c :: ·) := by
  obtain ⟨l, hwritten, hallowed, rfl⟩ := exists_letter_escaped c
  rw [hwritten, pieces_letter hallowed]

/-- A character of a name reads back. -/
theorem pieces_escapedInName (c : Char) (name cs : List Char) :
    pieces (some name) (escapedInName c ++ cs) = pieces (some (c :: name)) cs := by
  obtain ⟨l, hwritten, hallowed, rfl⟩ := exists_letter_escapedInName c
  rw [hwritten, pieces_letterInName hallowed]

/-! ## Literals and references -/

theorem pieces_literal (literal cs : List Char) :
    pieces none (literal.flatMap escaped ++ cs) =
      (pieces none cs).map (literal.map .char ++ ·) := by
  induction literal with
  | nil =>
    rw [List.flatMap_nil, List.nil_append]
    cases pieces none cs <;> rfl
  | cons c literal ih =>
    rw [List.flatMap_cons, List.append_assoc, pieces_escaped, ih]
    cases pieces none cs <;> rfl

/-- Inside a reference the rest of the name is read up to the brace. -/
theorem pieces_name (rest name cs : List Char) :
    pieces (some name) (rest.flatMap escapedInName ++ '}' :: cs) =
      (pieces none cs).map (.reference (name.reverse ++ rest) :: ·) := by
  induction rest generalizing name with
  | nil =>
    rw [List.flatMap_nil, List.nil_append, List.append_nil, pieces]
    cases pieces none cs <;> rfl
  | cons c rest ih =>
    rw [List.flatMap_cons, List.append_assoc, pieces_escapedInName, ih, List.reverse_cons,
      List.append_assoc, List.singleton_append]

theorem pieces_reference (name : String) (cs : List Char) :
    pieces none (writtenReference name ++ cs) =
      (pieces none cs).map (.reference name.toList :: ·) := by
  have hopened : pieces none (writtenReference name ++ cs) =
      pieces (some []) (name.toList.flatMap escapedInName ++ '}' :: cs) := by
    simp only [writtenReference, List.cons_append, List.append_assoc, List.nil_append]
    rw [pieces]
  rw [hopened, pieces_name, List.reverse_nil, List.nil_append]

/-- What the written references and the literals after them are read as. -/
theorem pieces_rest (rest : List (String × String)) :
    pieces none
        (rest.flatMap fun part => writtenReference part.1 ++ part.2.toList.flatMap escaped) =
      .ok (rest.flatMap fun part => .reference part.1.toList :: part.2.toList.map .char) := by
  induction rest with
  | nil => rfl
  | cons part rest ih =>
    rw [List.flatMap_cons, List.append_assoc, pieces_reference, pieces_literal, ih]
    rfl

/-! ## Templates -/

/-- Characters before other pieces belong to the first literal. -/
theorem parts_literal (literal : List Char) (ps : List Piece) :
    parts (literal.map .char ++ ps) = (literal ++ (parts ps).1, (parts ps).2) := by
  induction literal with
  | nil => rfl
  | cons c literal ih => simp only [List.map_cons, List.cons_append, parts, ih]

theorem parts_rest (rest : List (String × String)) :
    parts (rest.flatMap fun part => .reference part.1.toList :: part.2.toList.map .char) =
      ([], rest.map fun part => (part.1.toList, part.2.toList)) := by
  induction rest with
  | nil => rfl
  | cons part rest ih =>
    rw [List.flatMap_cons, List.cons_append, parts, parts_literal, ih, List.append_nil,
      List.map_cons]

theorem compile_text (t : Template) : compile t.text = .ok t := by
  obtain ⟨first, rest⟩ := t
  rw [compile, text, String.toList_ofList, pieces_literal, pieces_rest]
  simp only [Except.map, ofPieces, parts_literal, parts_rest, List.append_nil, List.map_map,
    String.ofList_toList, Except.ok.injEq, mk.injEq, true_and]
  exact (List.map_congr_left fun part _ => by simp).trans (List.map_id rest)

/-- Literals and names make a template of these parts. -/
theorem exists_ofParts {literals names : List String} (h : literals.length = names.length + 1) :
    ∃ t, ofParts literals names = .ok t ∧ t.literals = literals ∧ t.names = names := by
  cases literals with
  | nil => simp at h
  | cons first literals =>
    have hlen : literals.length = names.length := by simpa using h
    refine ⟨⟨first, names.zip literals⟩, by simp [ofParts, hlen], ?_, ?_⟩
    · rw [Template.literals, List.map_snd_zip (by omega)]
    · rw [Template.names, List.map_fst_zip (by omega)]

/-- **The text form reads back.** Every template of literals and names, whatever their characters,
is what its text form is read as; so writing what was read and reading it again changes nothing. -/
theorem text_reads_back :
    (∀ literals names : List String, literals.length = names.length + 1 →
      ∃ t, ofParts literals names = .ok t ∧ t.literals = literals ∧ t.names = names ∧
        compile t.text = .ok t) ∧
    ∀ s : String, ((compile s).bind fun t => compile t.text) = compile s := by
  constructor
  · intro literals names h
    obtain ⟨t, ht, hliterals, hnames⟩ := exists_ofParts h
    exact ⟨t, ht, hliterals, hnames, compile_text t⟩
  · intro s
    cases compile s with
    | error e => rfl
    | ok t => exact compile_text t

/-- The first name is a closing brace with a line feed, the second is empty. -/
theorem text_reads_back_sample :
    ["a$\\", "", "\t"].length = ["\x7d\n", ""].length + 1 ∧
    (⟨"a$\\", [("\x7d\n", ""), ("", "\t")]⟩ : Template).text =
      "a\\$\\\\$\x7b\\\x7d\\n\x7d$\x7b\x7d\\t" ∧
    compile "a\\$\\\\$\x7b\\\x7d\\n\x7d$\x7b\x7d\\t" =
      .ok ⟨"a$\\", [("\x7d\n", ""), ("", "\t")]⟩ := by
  have hlen : ["a$\\", "", "\t"].length = ["\x7d\n", ""].length + 1 := rfl
  have htext : (⟨"a$\\", [("\x7d\n", ""), ("", "\t")]⟩ : Template).text =
      "a\\$\\\\$\x7b\\\x7d\\n\x7d$\x7b\x7d\\t" := by decide
  obtain ⟨t, ht, -, -, hread⟩ := text_reads_back.1 ["a$\\", "", "\t"] ["\x7d\n", ""] hlen
  obtain rfl : _ = t := Except.ok.inj ht
  exact ⟨hlen, htext, htext ▸ hread⟩

end PropertyDocs.Template
