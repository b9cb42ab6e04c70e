import PropertyDocs.Document

/-!
# Why documents are refused

A text that is no document has a defect. The one other reason is a pattern that is refused without
a fault in its text: one that repeats something too often, one that names a character by too large
a number, or one that asks for ASCII and for Unicode letters at once. Each reader of the grammar
passes on what the readers it uses are refused for.
-/
namespace PropertyDocs

/-- A repetition asks for more than can be counted. -/
def PatternError.IsOverflow : PatternError → Prop
  | .repetitionTooLarge | .countTooLong _ => True
  | _ => False

/-- A pattern is refused for what it asks for, without a fault in its text. -/
def PatternError.IsUnreported : PatternError → Prop
  | .codeTooLarge | .conflictingTypes => True
  | _ => False

/-- The reasons there are to refuse a document. -/
def CompileError.IsKnown : CompileError → Prop
  | .defect _ _ => True
  | .pattern e => e.IsOverflow ∨ e.IsUnreported

namespace Grammar

open Xml (Head Node)

/-- The reader gives up for the known reasons only. -/
def Orderly {α : Type} (r : Read α) : Prop := ∀ e, r = .error e → e.IsKnown

/-! ## Readers put together -/

section
variable {α β : Type} {r : Read α} {h : Head}

theorem orderly_ok (a : α) : Orderly (.ok a) := by
  intro e he
  cases he

theorem orderly_pure (a : α) : Orderly (pure a) := orderly_ok a

theorem orderly_refuse (h : Head) (cause : Defect) : Orderly (refuse h cause : Read α) := by
  intro e he
  obtain rfl : CompileError.defect cause (some h.line) = e := Except.error.inj he
  trivial

theorem Orderly.bind {f : α → Read β} (hr : Orderly r) (hf : ∀ a, Orderly (f a)) :
    Orderly (r >>= f) := by
  intro e he
  cases hra : r with
  | error e' =>
    rw [hra] at he
    obtain rfl : e' = e := Except.error.inj he
    exact hr e' hra
  | ok a =>
    rw [hra] at he
    exact hf a e he

theorem Orderly.map (hr : Orderly r) (f : α → β) : Orderly (r.map f) := by
  intro e he
  cases hra : r with
  | error e' =>
    rw [hra] at he
    obtain rfl : e' = e := Except.error.inj he
    exact hr e' hra
  | ok a =>
    rw [hra] at he
    cases he

theorem Orderly.guard {c : Prop} [Decidable c] {cause : Defect} {f : PUnit → Read α}
    (hr : Orderly r) : Orderly (if c then refuse h cause >>= f else r) := by
  split
  · intro e he
    obtain rfl : CompileError.defect cause (some h.line) = e := Except.error.inj he
    trivial
  · exact hr

end

/-! ## Parts of elements -/

section
variable (h : Head) (content : List Node)

theorem orderly_required (name : String) : Orderly (required h name) := by
  unfold required
  split
  · exact orderly_ok _
  · exact orderly_refuse h _

theorem orderly_template (text : String) : Orderly (template h text) := by
  unfold template
  split
  · exact orderly_ok _
  · exact orderly_refuse h _

/-- What is left of the errors of a pattern, once those with a fault are defects. -/
theorem orderly_patternOf (cause : PatternError → Defect) (compiled : Except PatternError Pattern) :
    Orderly (patternOf h cause compiled) := by
  cases compiled with
  | ok p => exact orderly_ok p
  | error e =>
    cases e with
    | fault f place => exact orderly_refuse h _
    | repetitionTooLarge | countTooLong | codeTooLarge | conflictingTypes =>
      intro e he
      obtain rfl := Except.error.inj he
      simp [CompileError.IsKnown, PatternError.IsOverflow, PatternError.IsUnreported]

theorem orderly_blankText (text : String) : Orderly (blankText h text) := by
  unfold blankText
  dsimp only
  split
  · exact orderly_ok _
  · exact orderly_refuse h _

theorem orderly_textPieces : Orderly (textPieces h content) := by
  induction content with
  | nil => exact orderly_ok []
  | cons node rest ih =>
    cases node with
    | text s => exact ih.map _
    | element inner content => exact orderly_refuse inner _
    | comment | instruction | reference => exact ih

theorem orderly_attributeOrText (name : String) : Orderly (attributeOrText h name content) := by
  unfold attributeOrText
  refine ((orderly_textPieces h content).map _).bind fun body => ?_
  split
  · split
    · exact orderly_refuse h _
    · exact orderly_pure _
  · exact orderly_pure _

theorem orderly_assignment (defaultOnly : Bool) : Orderly (assignment h content defaultOnly) := by
  unfold assignment
  refine (orderly_required h "key").bind fun key => ?_
  refine (orderly_attributeOrText h content "value").bind fun value => ?_
  refine (orderly_template h key).bind fun _ => ?_
  exact (orderly_template h value).bind fun _ => orderly_pure _

theorem orderly_error : Orderly (error h content) := by
  unfold error
  refine (orderly_attributeOrText h content "message").bind fun text => ?_
  exact (orderly_template h text).bind fun _ => orderly_pure _

/-! ## Tables -/

theorem orderly_rowStatement (t : Columns) : Orderly (rowStatement t h content) := by
  unfold rowStatement
  refine (orderly_attributeOrText h content "value").bind fun text => ?_
  exact (orderly_template h text).bind fun _ => orderly_pure _

theorem orderly_row (t : Columns) : Orderly (row t h content) := by
  unfold row
  refine (orderly_required h "pattern").bind fun text => ?_
  refine (orderly_rowStatement h content t).bind fun statement => ?_
  exact (orderly_patternOf h _ _).bind fun _ => orderly_pure _

theorem orderly_rows (t : Columns) (last : Option Statement) : Orderly (rows t h last content) := by
  induction content generalizing last with
  | nil => exact orderly_ok _
  | cons node rest ih =>
    cases node with
    | text s => exact (orderly_blankText h s).bind fun _ => ih last
    | comment | instruction | reference => exact ih last
    | element inner content =>
      rw [rows]
      refine .guard (.guard ?_)
      split
      · refine (orderly_row inner content t).bind fun r => ?_
        exact (ih last).bind fun _ => orderly_pure _
      · exact (orderly_rowStatement inner content t).bind fun s => ih (some s)

theorem orderly_table (defaultOnly : Bool) : Orderly (table h content defaultOnly) := by
  unfold table
  refine (orderly_required h "key").bind fun key => ?_
  refine (orderly_template h key).bind fun _ => ?_
  refine (orderly_required h "selector").bind fun selector => ?_
  refine (orderly_template h selector).bind fun _ => ?_
  exact (orderly_rows h content _ none).bind fun _ => orderly_pure _

/-! ## Elements with a body -/

variable {body : Read Statement}

theorem orderly_branch (negated : Bool) (hbody : Orderly body) :
    Orderly (branch h negated body) := by
  unfold branch
  refine (orderly_required h "key").bind fun key => ?_
  refine .guard (hbody.bind fun inner => (orderly_template h key).bind fun key => ?_)
  dsimp only
  split
  · exact ((orderly_template h _).map _).bind fun _ => orderly_pure _
  · exact ((orderly_patternOf h _ _).map _).bind fun _ => orderly_pure _
  · exact (orderly_pure _).bind fun _ => orderly_pure _

theorem orderly_choice (negated : Bool) (hbody : Orderly body) : Orderly (choice h negated body) :=
  (orderly_branch h negated hbody).bind fun _ => orderly_pure _

theorem orderly_matchPattern (hbody : Orderly body) : Orderly (matchPattern h body) := by
  unfold matchPattern
  refine (orderly_required h "value").bind fun value => ?_
  refine (orderly_required h "match").bind fun pattern => ?_
  refine hbody.bind fun _ => (orderly_template h value).bind fun _ => ?_
  exact (orderly_patternOf h _ _).bind fun _ => orderly_pure _

theorem orderly_checkBranch (inner : Head) (last : Option Statement) :
    Orderly (checkBranch h inner last) := by
  unfold checkBranch
  refine .guard ?_
  split
  · exact orderly_refuse inner _
  · exact orderly_pure _

end

/-! ## Blocks and branches -/

mutual

theorem orderly_statement : ∀ node : Node, Orderly (statement node)
  | .element h content => by
    have hbody : Orderly ((block h content).map Statement.block) :=
      (orderly_block h content).map _
    rw [statement]
    split
    · exact (orderly_assignment h content false).map _
    · exact (orderly_assignment h content true).map _
    · exact (orderly_choice h false hbody).map _
    · exact (orderly_choice h true hbody).map _
    · exact (orderly_branches h none content).bind fun _ => orderly_pure _
    · exact (orderly_table h content false).map _
    · exact (orderly_table h content true).map _
    · exact (orderly_matchPattern h hbody).map _
    · exact (orderly_error h content).map _
    · exact orderly_ok none
    · exact orderly_refuse h _
  | .text _ | .comment _ | .instruction _ _ | .reference _ => orderly_ok none

theorem orderly_block (h : Head) : ∀ content : List Node, Orderly (block h content)
  | [] => orderly_ok []
  | .text s :: rest => (orderly_blankText h s).bind fun _ => orderly_block h rest
  | .element inner content :: rest =>
    (orderly_statement (.element inner content)).bind fun _ =>
      (orderly_block h rest).bind fun _ => orderly_pure _
  | .comment _ :: rest | .instruction _ _ :: rest | .reference _ :: rest =>
    (orderly_ok none).bind fun _ => (orderly_block h rest).bind fun _ => orderly_pure _

theorem orderly_branches (h : Head) (last : Option Statement) :
    ∀ content : List Node, Orderly (branches h last content)
  | [] => orderly_ok _
  | .text s :: rest => (orderly_blankText h s).bind fun _ => orderly_branches h last rest
  | .element inner content :: rest => by
    have hblock := orderly_block inner content
    rw [branches]
    refine (orderly_checkBranch h inner last).bind fun _ => ?_
    split
    · exact hblock.bind fun body => orderly_branches h (some (.block body)) rest
    · refine (orderly_branch inner _ (hblock.map _)).bind fun _ => ?_
      exact (orderly_branches h last rest).bind fun _ => orderly_pure _
  | .comment _ :: rest | .instruction _ _ :: rest | .reference _ :: rest => orderly_branches h last rest

end

end Grammar

namespace Document

end Document

end PropertyDocs
