import PropertyDocs.Chain
import PropertyDocs.Proofs.TemplateGrammar

/-!
# Template texts one after the other

A text that is read ends between two items, so the reading of a text with another one after it is
the one reading and then the other (`Reads.append`). Only at the seam can something new come about:
a dollar sign that opens nothing, at the end of the first text, and a brace at the beginning of the
second. Names are then put together, the two literals at the seam are one, and so are the expanded
texts.
-/
namespace PropertyDocs.Template

variable {items items' : List Item} {as bs cs : List Char}

/-! ## The seam -/

/-- Whether the text ends in a dollar sign that is not escaped. -/
def EndsInDollar (cs : List Char) : Prop :=
  ∃ before, cs = before ++ ['$'] ∧ slashesAtEnd before % 2 = 0

theorem EndsInDollar.append {w : List Char} (h : EndsInDollar cs)
    (hw : ∀ before, slashesAtEnd (w ++ before) % 2 = slashesAtEnd before % 2) :
    EndsInDollar (w ++ cs) := by
  obtain ⟨before, rfl, hslashes⟩ := h
  exact ⟨w ++ before, (List.append_assoc ..).symm, (hw before).trans hslashes⟩

theorem slashesAtEnd_letter {l : Letter} {d : Char} (h : l.Allowed d) (before : List Char) :
    slashesAtEnd (l.written ++ before) % 2 = slashesAtEnd before % 2 := by
  cases l with
  | plain c => exact slashesAtEnd_cons h.1 before
  | escape c => exact slashesAtEnd_escape c before

/-- A text with a reading goes on with the reading of what follows. -/
theorem Reads.append (h : Reads items as) (h' : Reads items' bs)
    (hseam : EndsInDollar as → bs.head? ≠ some '{') : Reads (items ++ items') (as ++ bs) := by
  induction h with
  | nil => exact h'
  | letter hl _ ih =>
    rw [List.append_assoc]
    exact .letter hl (ih fun hend => hseam (hend.append (slashesAtEnd_letter hl)))
  | @dollar items as hbrace _ ih =>
    have hnext : (as ++ bs).head? ≠ some '{' := by
      cases as with
      | nil => exact hseam ⟨[], rfl, rfl⟩
      | cons c as => exact hbrace
    have hrest : EndsInDollar as → EndsInDollar ('$' :: as) := fun hend =>
      hend.append (w := ['$']) (fun before => by
        rw [List.singleton_append, slashesAtEnd_cons (by decide)])
    exact .dollar hnext (ih fun hend => hseam (hrest hend))
  | @reference name items as hname _ ih =>
    let opened := '$' :: '{' :: name.flatMap Letter.written
    have hrest : EndsInDollar as → EndsInDollar (opened ++ '}' :: as) := fun hend => by
      rw [List.append_cons]
      exact hend.append fun before => by
        rw [List.append_assoc, List.singleton_append, slashesAtEnd_append_cons (by decide)]
    have hread := Reads.reference hname (ih fun hend => hseam (by simpa [opened] using hrest hend))
    simpa using hread

/-! ## Literals -/

/-- The last literal before other pieces goes on with their first one. -/
theorem exists_literalParts_append (ps : List Piece) :
    ∃ before last, literalParts ps = before ++ [last] ∧ ∀ qs first after,
      literalParts qs = first :: after →
        literalParts (ps ++ qs) = before ++ (last ++ first) :: after := by
  induction ps with
  | nil => exact ⟨[], [], rfl, fun qs first after h => h⟩
  | cons p ps ih =>
    obtain ⟨before, last, hparts, happend⟩ := ih
    cases p with
    | char c =>
      cases before with
      | nil =>
        refine ⟨[], c :: last, by rw [literalParts_char, hparts]; rfl, fun qs first after h => ?_⟩
        rw [List.cons_append, literalParts_char, happend qs first after h]
        rfl
      | cons text before =>
        refine ⟨(c :: text) :: before, last, by rw [literalParts_char, hparts]; rfl,
          fun qs first after h => ?_⟩
        rw [List.cons_append, literalParts_char, happend qs first after h]
        rfl
    | reference name =>
      refine ⟨[] :: before, last, by rw [literalParts_reference, hparts]; rfl,
        fun qs first after h => ?_⟩
      rw [List.cons_append, literalParts_reference, happend qs first after h]
      rfl

theorem literals_append (ps qs : List Piece) :
    ∃ before last first after, (ofPieces ps).literals = before ++ [last] ∧
      (ofPieces qs).literals = first :: after ∧
      (ofPieces (ps ++ qs)).literals = before ++ (last ++ first) :: after := by
  obtain ⟨before, last, hparts, happend⟩ := exists_literalParts_append ps
  refine ⟨before.map String.ofList, String.ofList last, String.ofList (parts qs).1,
    ((parts qs).2.map (·.2)).map String.ofList, ?_, ?_, ?_⟩
  · rw [literals_ofPieces, hparts, List.map_append, List.map_singleton]
  · rw [literals_ofPieces, literalParts, List.map_cons]
  · rw [literals_ofPieces, happend qs _ _ rfl, List.map_append, List.map_cons, String.ofList_append]

/-! ## Expanding -/

/-- The text that a piece stands for. -/
def Piece.expanded (value : String → String) : Piece → String
  | char c => String.ofList [c]
  | reference name => value (String.ofList name)

/-- What is expanded later comes after a text that is there already. -/
theorem expand_append_first (value : String → String) (text first : String)
    (rest : List (String × String)) :
    expand ⟨text ++ first, rest⟩ value = text ++ expand ⟨first, rest⟩ value := by
  simp only [expand]
  induction rest generalizing first with
  | nil => rfl
  | cons part rest ih =>
    have hassoc : text ++ first ++ value part.1 ++ part.2 =
        text ++ (first ++ value part.1 ++ part.2) := by simp only [String.append_assoc]
    rw [List.foldl_cons, List.foldl_cons, hassoc, ih]

/-- Expanding is putting together what the pieces stand for. -/
theorem expand_ofPieces (value : String → String) (ps : List Piece) :
    (ofPieces ps).expand value = String.join (ps.map (Piece.expanded value)) := by
  induction ps with
  | nil => rfl
  | cons p ps ih =>
    rw [List.map_cons, String.join_cons, ← ih]
    cases p with
    | char c =>
      rw [Piece.expanded, ofPieces, ofPieces, ← expand_append_first, ← String.ofList_append]
      rfl
    | reference name =>
      rw [Piece.expanded, ofPieces, ofPieces, ← expand_append_first]
      simp [parts, expand]

theorem expand_append (value : String → String) (ps qs : List Piece) :
    (ofPieces (ps ++ qs)).expand value =
      (ofPieces ps).expand value ++ (ofPieces qs).expand value := by
  simp only [expand_ofPieces, List.map_append, String.join_append]

/-! ## Texts -/

/-- **Reading a text after a text.** Where both are read and no reference opens at the seam, the
two together are read: the names are those of the one and then those of the other, the literals at
the seam are joined, and on every chain the expanded texts follow one another. -/
theorem compile_append {a b : String} {s t : Template} (ha : compile a = .ok s)
    (hb : compile b = .ok t)
    (hseam : ¬ (EndsInDollar a.toList ∧ b.toList.head? = some '{')) :
    ∃ u, compile (a ++ b) = .ok u ∧ u.names = s.names ++ t.names ∧
      (∃ before last first after, s.literals = before ++ [last] ∧ t.literals = first :: after ∧
        u.literals = before ++ (last ++ first) :: after) ∧
      ∀ c : Chain, u.expand c.value = s.expand c.value ++ t.expand c.value := by
  obtain ⟨items, hitems, rfl⟩ := exists_reads_of_compile ha
  obtain ⟨items', hitems', rfl⟩ := exists_reads_of_compile hb
  have htogether : Reads (items ++ items') (a ++ b).toList := by
    rw [String.toList_append]
    exact hitems.append hitems' fun hend hbrace => hseam ⟨hend, hbrace⟩
  refine ⟨ofPieces (items.map Item.piece ++ items'.map Item.piece), ?_, ?_,
    literals_append _ _, fun c => expand_append c.value _ _⟩
  · rw [compile, htogether.pieces_eq, List.map_append]
    rfl
  · rw [← List.map_append, names_ofPieces, names_ofPieces, names_ofPieces, Item.names,
      List.filterMap_append]
    rfl

/-- The dollar sign at the seam is escaped, so that the brace after it opens no reference. -/
theorem compile_append_sample :
    compile "$\x7bk\x7d\\$" = .ok ⟨"", [("k", "$")]⟩ ∧
    compile "\x7bn$\x7bm\x7d" = .ok ⟨"\x7bn", [("m", "")]⟩ ∧
    ∃ u, compile "$\x7bk\x7d\\$\x7bn$\x7bm\x7d" = .ok u ∧ u.names = ["k", "m"] ∧
      u.literals = ["", "$\x7bn", ""] := by
  have ha : compile "$\x7bk\x7d\\$" = .ok ⟨"", [("k", "$")]⟩ := rfl
  have hb : compile "\x7bn$\x7bm\x7d" = .ok ⟨"\x7bn", [("m", "")]⟩ := rfl
  have hescaped : ¬ EndsInDollar "$\x7bk\x7d\\$".toList := by
    rintro ⟨before, hends, hslashes⟩
    obtain rfl : "$\x7bk\x7d\\".toList = before := List.append_cancel_right hends
    exact absurd hslashes (by decide)
  obtain ⟨u, hu, hnames, ⟨before, last, first, after, hs, ht, hliterals⟩, -⟩ :=
    compile_append ha hb fun hseam => hescaped hseam.1
  have hparts : before ++ [last] = [""] ++ ["$"] := hs.symm
  obtain ⟨rfl, rfl⟩ : before = [""] ∧ last = "$" := by simpa using List.append_inj' hparts rfl
  obtain ⟨rfl, rfl⟩ : first = "\x7bn" ∧ after = [""] := List.cons.inj ht.symm
  exact ⟨ha, hb, u, hu, hnames, hliterals⟩

end PropertyDocs.Template
