import Mathlib
import PropertyDocs.Proofs.LineFeeds
import PropertyDocs.Proofs.PlainMatches

/-!
# Field boundaries

A row and the selectors it is matched with have a line feed where one field ends and the next
begins. A selector that matches has as many fields as the row wherever the expression of the row
takes up those line feeds and no other. This is read off the expression; it does not follow from the
text of the row, whose fields may hold line feeds in sets or be cut in the middle of a group.
-/
namespace PropertyDocs

namespace Pattern
variable {p : Pattern} {groups : Nat → Option Nat} {row selector : String}
  {separator : Option String} {caseSensitive : Bool}

/-- A pattern that takes up a known number of line feeds matches only selectors of one field
more. -/
theorem length_fields_eq {n : Nat} (hgroups : p.regex.agrees groups = true)
    (hn : p.regex.lineFeeds? groups = some n)
    (hselector : ∀ f ∈ fields separator selector, '\n' ∉ f)
    (hmatch : p.isMatch (splitSelector selector separator) = true) :
    (fields separator selector).length = n + 1 := by
  have hcount : (Text.joined ['\n'] (fields separator selector)).count '\n' = n := by
    rw [isMatch, fullMatch?, Option.isSome_map] at hmatch
    obtain ⟨c, hc⟩ := Option.isSome_iff_exists.1 hmatch
    rw [splitSelector, String.toList_ofList] at hc
    exact Regex.count_of_fullMatch? hgroups hn hc
  have hlength := Text.count_joined hselector (Text.cut_ne_nil _ _)
  omega

/-! ## Rows -/

theorem exists_ok_of_any {ε α : Type} {x : Except ε α} {p : α → Bool}
    (h : x.toOption.any p = true) : ∃ a, x = .ok a ∧ p a = true := by
  cases x with
  | error e => simp [Except.toOption] at h
  | ok a => exact ⟨a, rfl, by simpa [Except.toOption] using h⟩

/-- Whether a row compiles to an expression that takes up the line feeds between the fields of the
row, and no other; `groups` tells the line feeds of the groups that are referred to. -/
def keepsFields (groups : Nat → Option Nat) (row : String) (separator : Option String)
    (caseSensitive : Bool) : Bool :=
  match compileRow row separator caseSensitive with
  | .ok p =>
    p.regex.agrees groups &&
      p.regex.lineFeeds? groups == some ((fields separator row).length - 1)
  | .error _ => false

/-- **Field boundaries.** A selector without line feeds in its fields that matches the pattern of a
row has as many fields as the row, if the expression of the row takes up a line feed for each
boundary, and no other. -/
theorem isMatch_keeps_fields (hrow : compileRow row separator caseSensitive = .ok p)
    (hkeeps : keepsFields groups row separator caseSensitive = true)
    (hselector : ∀ f ∈ fields separator selector, '\n' ∉ f)
    (hmatch : p.isMatch (splitSelector selector separator) = true) :
    (fields separator selector).length = (fields separator row).length := by
  simp only [keepsFields, hrow, Bool.and_eq_true, beq_iff_eq] at hkeeps
  rw [length_fields_eq hkeeps.1 hkeeps.2 hselector hmatch]
  exact Nat.sub_add_cancel (List.length_pos_iff.2 (Text.cut_ne_nil _ _))

/-- In a row whose second field is to equal the first, the first takes up no line feeds. -/
def repeatedField (group : Nat) : Option Nat := if group = 1 then some 0 else none

theorem isMatch_keeps_fields_sample :
    keepsFields repeatedField "*,\\1" (some ",") false = true ∧
    (∀ f ∈ fields (some ",") "a,A", '\n' ∉ f) ∧
    (∃ p, compileRow "*,\\1" (some ",") false = .ok p ∧
      p.isMatch (splitSelector "a,A" (some ",")) = true) ∧
    (fields (some ",") "a,A").length = (fields (some ",") "*,\\1").length := by
  have hkeeps : keepsFields repeatedField "*,\\1" (some ",") false = true := by cbv
  have hselector : ∀ f ∈ fields (some ",") "a,A", '\n' ∉ f := by
    have hfields : fields (some ",") "a,A" = [['a'], ['A']] := by cbv
    simp [hfields]
  obtain ⟨p, hrow, hmatch⟩ := exists_ok_of_any (p := fun p =>
    p.isMatch (splitSelector "a,A" (some ","))) (x := compileRow "*,\\1" (some ",") false) (by cbv)
  exact ⟨hkeeps, hselector, ⟨p, hrow, hmatch⟩,
    isMatch_keeps_fields hrow hkeeps hselector hmatch⟩

/-- Whether a row matches a selector, of fields without line feeds, that has not as many fields. -/
def Crosses (row selector : String) (separator : Option String) (caseSensitive : Bool) : Prop :=
  ∃ p, compileRow row separator caseSensitive = .ok p ∧
    (∀ f ∈ fields separator selector, '\n' ∉ f) ∧
    p.isMatch (splitSelector selector separator) = true ∧
    (fields separator selector).length ≠ (fields separator row).length

/-- A lone star in a group whose dot stands for line feeds too crosses a boundary, and so does a set
that a line feed is not excluded from. -/
theorem star_and_set_cross :
    Crosses "(?s:(,*,))" ",a,b," (some ",") false ∧ Crosses "[^x]*" "a,b" (some ",") false := by
  constructor
  · obtain ⟨p, hrow, hmatch⟩ := exists_ok_of_any (p := fun p =>
      p.isMatch (splitSelector ",a,b," (some ",")))
      (x := compileRow "(?s:(,*,))" (some ",") false) (by cbv)
    have hselector : fields (some ",") ",a,b," = [[], ['a'], ['b'], []] := by cbv
    have hcount : (fields (some ",") "(?s:(,*,))").length = 3 := by cbv
    exact ⟨p, hrow, by simp [hselector], hmatch, by simp [hselector, hcount]⟩
  · obtain ⟨p, hrow, hmatch⟩ := exists_ok_of_any (p := fun p =>
      p.isMatch (splitSelector "a,b" (some ",")))
      (x := compileRow "[^x]*" (some ",") false) (by cbv)
    have hselector : fields (some ",") "a,b" = [['a'], ['b']] := by cbv
    have hcount : (fields (some ",") "[^x]*").length = 1 := by cbv
    exact ⟨p, hrow, by simp [hselector], hmatch, by simp [hselector, hcount]⟩

/-! ## Plain rows -/

variable (caseSensitive) in
/-- **Plain rows.** A row of lone stars and texts without special characters compiles, and matches
the selectors whose fields match those of the row one by one. -/
theorem isMatch_plainRow_iff (hrow : isPlainRow row separator = true)
    (hselector : ∀ f ∈ fields separator selector, '\n' ∉ f) :
    ∃ p, compileRow row separator caseSensitive = .ok p ∧
      (p.isMatch (splitSelector selector separator) = true ↔
        List.Forall₂ (FieldMatches (rowFolding caseSensitive)) (fields separator row)
          (fields separator selector)) := by
  refine ⟨_, compileRow_of_isPlainRow hrow, ?_⟩
  rw [isMatch, fullMatch?, Option.isSome_map]
  exact PatternReader.isSome_run_row (List.all_eq_true.1 hrow) (Text.cut_ne_nil _ _) hselector
    (Text.cut_ne_nil _ _) (by simp [splitSelector, Cursor.start])

/-- A lone star beside texts without special characters crosses no boundary. -/
theorem not_crosses_of_isPlainRow (hrow : isPlainRow row separator = true) :
    ¬ Crosses row selector separator caseSensitive := by
  rintro ⟨p, hp, hselector, hmatch, hne⟩
  obtain ⟨p', hp', hiff⟩ := isMatch_plainRow_iff caseSensitive hrow hselector
  obtain rfl : p = p' := by simpa [hp] using hp'
  exact hne (hiff.1 hmatch).length_eq.symm

example : isPlainRow "*-prod-*" (some "-") = true := by cbv

/-! ## Field by field -/

/-- A selector has a line feed in the place of every separator. -/
theorem splitSelector_eq_replaced (selector : String) (separator : Option String) :
    splitSelector selector separator =
      String.ofList (Text.replaced (separator.getD "").toList ['\n'] selector.toList) := by
  rw [splitSelector, fields, Text.joined_cut]

/-- A field says nothing but itself: none of its characters is special, and none a line feed. -/
def IsLiteral (field : List Char) : Prop :=
  ∀ c ∈ field, PatternReader.isSpecial c = false ∧ c ≠ '\n'

theorem isPlain_iff {field : List Char} :
    PatternReader.isPlain field = true ↔ field = ['*'] ∨ IsLiteral field := by
  simp only [PatternReader.isPlain, Bool.or_eq_true, beq_iff_eq, List.all_eq_true,
    Bool.and_eq_true, Bool.not_eq_true', bne_iff_ne, IsLiteral]

theorem isPlainRow_iff :
    isPlainRow row separator = true ↔ ∀ f ∈ fields separator row, f = ['*'] ∨ IsLiteral f := by
  rw [isPlainRow, List.all_eq_true]
  exact forall₂_congr fun f _ => isPlain_iff

theorem equates_exact_iff {field value : List Char} :
    Folding.exact.Equates field value ↔ value = field := by
  have hmates : ∀ x y : Char, x.toNat ∈ Folding.exact.mates y ↔ x = y := fun x y => by
    rw [Folding.mates, List.mem_singleton, Char.toNat_inj]
  rw [Folding.Equates, eq_comm, ← List.forall₂_eq_eq_eq]
  simp only [hmates]

/-- What a field other than a lone star asks of the field of a selector. -/
def SameText (caseSensitive : Bool) (field value : List Char) : Prop :=
  if caseSensitive then value = field else Folding.unicode.Equates field value

theorem equates_rowFolding_iff {field value : List Char} :
    (rowFolding caseSensitive).Equates field value ↔ SameText caseSensitive field value := by
  cases caseSensitive with
  | false => rfl
  | true => exact equates_exact_iff

variable (caseSensitive) in
/-- **Plain rows match field by field.** A row whose fields are lone stars and texts without special
characters compiles, whatever the separator is. Its pattern matches a selector of fields without
line feeds just if the selector has as many fields as the row and every field of the row that is no
lone star says the same as the field of the selector at its place. -/
theorem plainRow_matches_fieldwise
    (hrow : ∀ f ∈ fields separator row, f = ['*'] ∨ IsLiteral f)
    (hselector : ∀ v ∈ fields separator selector, '\n' ∉ v) :
    splitSelector selector separator =
      String.ofList (Text.replaced (separator.getD "").toList ['\n'] selector.toList) ∧
    ∃ p, compileRow row separator caseSensitive = .ok p ∧
      (p.isMatch (splitSelector selector separator) = true ↔
        (fields separator selector).length = (fields separator row).length ∧
        ∀ f v, (f, v) ∈ (fields separator row).zip (fields separator selector) → f ≠ ['*'] →
          SameText caseSensitive f v) := by
  obtain ⟨p, hp, hmatch⟩ := isMatch_plainRow_iff caseSensitive (isPlainRow_iff.2 hrow) hselector
  refine ⟨splitSelector_eq_replaced selector separator, p, hp, hmatch.trans ?_⟩
  rw [List.forall₂_iff_zip, eq_comm]
  refine and_congr_right fun _ => ⟨fun h f v hmem hstar => ?_, fun h f v hmem => ?_⟩
  · rcases h hmem with rfl | hequates
    · exact absurd rfl hstar
    · exact equates_rowFolding_iff.1 hequates
  · by_cases hstar : f = ['*']
    · exact .inl hstar
    · exact .inr (equates_rowFolding_iff.2 (h f v hmem hstar))

/-- The separator overlaps itself, so that one dash of three is left to a field. -/
theorem plainRow_matches_fieldwise_sample :
    (∀ f ∈ fields (some "--") "A--*---b", f = ['*'] ∨ IsLiteral f) ∧
    (∀ v ∈ fields (some "--") "a---x---B", '\n' ∉ v) ∧
    (∀ v ∈ fields (some "--") "a----x---B", '\n' ∉ v) ∧
    ∃ p, compileRow "A--*---b" (some "--") false = .ok p ∧
      p.isMatch (splitSelector "a---x---B" (some "--")) = true ∧
      p.isMatch (splitSelector "a----x---B" (some "--")) = false := by
  have hfields : fields (some "--") "A--*---b" = [['A'], ['*'], ['-', 'b']] := by cbv
  have hthree : fields (some "--") "a---x---B" = [['a'], ['-', 'x'], ['-', 'B']] := by cbv
  have hfour : fields (some "--") "a----x---B" = [['a'], [], ['x'], ['-', 'B']] := by cbv
  have hrow : ∀ f ∈ fields (some "--") "A--*---b", f = ['*'] ∨ IsLiteral f :=
    isPlainRow_iff.1 (by cbv)
  have hselector : ∀ v ∈ fields (some "--") "a---x---B", '\n' ∉ v := by simp [hthree]
  have hlonger : ∀ v ∈ fields (some "--") "a----x---B", '\n' ∉ v := by simp [hfour]
  obtain ⟨-, p, hp, hmatch⟩ := plainRow_matches_fieldwise false hrow hselector
  obtain ⟨-, p', hp', hmatch'⟩ := plainRow_matches_fieldwise false hrow hlonger
  obtain rfl : p = p' := Except.ok.inj (hp.symm.trans hp')
  refine ⟨hrow, hselector, hlonger, p, hp, hmatch.2 ⟨?_, ?_⟩, ?_⟩
  · rw [hthree, hfields]
    rfl
  · rw [hthree, hfields]
    have hfirst : SameText false ['A'] ['a'] := .cons (by decide +kernel) .nil
    have hlast : SameText false ['-', 'b'] ['-', 'B'] :=
      .cons (by decide +kernel) (.cons (by decide +kernel) .nil)
    intro f v hmem hstar
    simp only [List.zip_cons_cons, List.zip_nil_right, List.mem_cons, Prod.mk.injEq,
      List.not_mem_nil, or_false] at hmem
    rcases hmem with ⟨rfl, rfl⟩ | ⟨rfl, -⟩ | ⟨rfl, rfl⟩
    · exact hfirst
    · exact absurd rfl hstar
    · exact hlast
  · refine Bool.eq_false_iff.2 fun h => ?_
    have hlength := (hmatch'.1 h).1
    rw [hfour, hfields] at hlength
    simp at hlength

end Pattern

end PropertyDocs
