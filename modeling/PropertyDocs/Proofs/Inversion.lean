import PropertyDocs.Proofs.Merging
import PropertyDocs.Proofs.Origins

/-!
# Conditionals turned round

A conditional can be written in several ways: with the opposite tag, if it is inverted where it was
not, and an `if` also as a choice with one branch. Whatever conditionals of a tree are written in
another way, at any depth, the tree is accepted as before and gives the same statements.
-/
namespace PropertyDocs.Grammar

open Xml (Head Node)
open Schema

/-! ## Trees that are written in another way -/

/-- Where an element stands: among the branches of a choice, or anywhere else. -/
inductive Place where
  | block
  | choice
deriving DecidableEq, Repr

namespace Place

/-- The place of what stands in an element of the tag. -/
def within (tag : String) : Place := if tag = "choose" then .choice else .block

/-- The tag of a conditional that counts if its test holds. -/
def plainTag : Place → String
  | block => "if"
  | choice => "when"

end Place

/-- The same tag and attributes; the lines may be others. -/
structure SameHead (h h' : Head) : Prop where
  tag : h'.tag = h.tag
  attributes (name : String) : h'.attribute? name = h.attribute? name

/-- The one head is that of a conditional at the place, and the other has the opposite tag and is
inverted where the first is not. -/
structure Inverse (p : Place) (h h' : Head) : Prop where
  tag : h.tag = p.plainTag ∧ h'.tag = "unless" ∨ h.tag = "unless" ∧ h'.tag = p.plainTag
  invert : h'.attribute? "invert" = if isTrue (h.attribute? "invert") then none else some "true"
  attributes (name : String) : name ≠ "invert" → h'.attribute? name = h.attribute? name

/-- `Rewritten p content content'`: some of the conditionals of a content that stands at the place
are written in another way, at any depth and all at once. -/
inductive Rewritten : Place → List Node → List Node → Prop
  | nil (p : Place) : Rewritten p [] []
  | other {p : Place} {node : Node} {rest rest' : List Node} :
      (∀ h content, node ≠ .element h content) → Rewritten p rest rest' →
      Rewritten p (node :: rest) (node :: rest')
  | kept {p : Place} {h h' : Head} {content content' rest rest' : List Node} : SameHead h h' →
      Rewritten (.within h.tag) content content' → Rewritten p rest rest' →
      Rewritten p (.element h content :: rest) (.element h' content' :: rest')
  | inverted {p : Place} {h h' : Head} {content content' rest rest' : List Node} :
      Inverse p h h' → Rewritten .block content content' → Rewritten p rest rest' →
      Rewritten p (.element h content :: rest) (.element h' content' :: rest')
  /-- An `if` as a choice whose only branch has its attributes and its content. -/
  | chosen {h outer inner : Head} {content content' rest rest' : List Node} : h.tag = "if" →
      outer.tag = "choose" → inner.tag = "when" →
      (∀ name, inner.attribute? name = h.attribute? name) →
      Rewritten .block content content' → Rewritten .block rest rest' →
      Rewritten .block (.element h content :: rest)
        (.element outer [.element inner content'] :: rest')

/-! ## Readers that do not look at the line -/

section
variable {h h' : Head}

theorem toOption_required (name : String) : (required h name).toOption = h.attribute? name := by
  unfold required
  cases h.attribute? name <;> rfl

theorem SameHead.toOption_required {h h' : Head} (hhead : SameHead h h') (name : String) :
    (required h' name).toOption = (required h name).toOption := by
  rw [Grammar.toOption_required, Grammar.toOption_required, hhead.attributes]

theorem toOption_template_head (h h' : Head) (text : String) :
    (template h' text).toOption = (template h text).toOption := by
  unfold template
  cases Template.compile text <;> rfl

theorem toOption_patternOf_head (h h' : Head) (cause cause' : PatternError → Defect)
    (compiled : Except PatternError Pattern) :
    (patternOf h' cause' compiled).toOption = (patternOf h cause compiled).toOption := by
  unfold patternOf
  split <;> rfl

/-- With the same text, and with elements or without. -/
structure SameText (content content' : List Node) : Prop where
  elements : elements content' = [] ↔ elements content = []
  texts : texts content' = texts content

theorem Rewritten.sameText {p : Place} {content content' : List Node}
    (hcontent : Rewritten p content content') : SameText content content' := by
  induction hcontent with
  | nil => exact ⟨Iff.rfl, rfl⟩
  | @other p node rest rest' hnode _ ih =>
    cases node with
    | element h content => exact absurd rfl (hnode h content)
    | text s => exact ⟨ih.elements, congrArg (s :: ·) ih.texts⟩
    | comment | instruction | reference => exact ⟨ih.elements, ih.texts⟩
  | kept _ _ _ _ ih => exact ⟨by simp, ih.texts⟩
  | inverted _ _ _ _ ih => exact ⟨by simp, ih.texts⟩
  | chosen _ _ _ _ _ _ _ ih => exact ⟨by simp, ih.texts⟩

variable {content content' : List Node} (hcontent : SameText content content')
include hcontent

theorem toOption_attributeOrText {name : String} (hname : h'.attribute? name = h.attribute? name) :
    (attributeOrText h' name content').toOption = (attributeOrText h name content).toOption := by
  rw [toOption_eq_iff]
  intro value
  simp only [attributeOrText_eq_ok_iff, hname, hcontent.elements, NoText, body, hcontent.texts]

variable (hhead : SameHead h h')
include hhead

theorem toOption_assignment (defaultOnly : Bool) :
    (assignment h' content' defaultOnly).toOption =
      (assignment h content defaultOnly).toOption := by
  unfold assignment
  rw [hhead.attributes]
  refine toOption_bind_congr (hhead.toOption_required "key") fun key => ?_
  refine toOption_bind_congr (toOption_attributeOrText hcontent (hhead.attributes _))
    fun value => ?_
  refine toOption_bind_congr (toOption_template_head h h' key) fun _ => ?_
  exact toOption_bind_congr (toOption_template_head h h' value) fun _ => rfl

theorem toOption_error : (error h' content').toOption = (error h content).toOption :=
  toOption_bind_congr (toOption_attributeOrText hcontent (hhead.attributes _)) fun text =>
    toOption_bind_congr (toOption_template_head h h' text) fun _ => rfl

theorem toOption_rowStatement (t : Columns) :
    (rowStatement t h' content').toOption = (rowStatement t h content).toOption := by
  unfold rowStatement
  rw [hhead.attributes]
  refine toOption_bind_congr (toOption_attributeOrText hcontent (hhead.attributes _)) fun text => ?_
  exact toOption_bind_congr (toOption_template_head h h' text) fun _ => rfl

theorem toOption_row (t : Columns) : (row t h' content').toOption = (row t h content).toOption := by
  refine toOption_bind_congr (hhead.toOption_required "pattern") fun text => ?_
  refine toOption_bind_congr (toOption_rowStatement hcontent hhead t) fun _ => ?_
  exact toOption_bind_congr (toOption_patternOf_head ..) fun _ => rfl

end

/-! ## Readers of elements with a body -/

section
variable {h h' : Head} {negated negated' : Bool} {r r' : Read Statement}

/-- Only which of the two inversions are there can be told from a branch, and of these whether both
or neither are. -/
theorem toOption_branch (hattributes : ∀ name ≠ "invert", h'.attribute? name = h.attribute? name)
    (hnegated : (negated' != isTrue (h'.attribute? "invert")) =
      (negated != isTrue (h.attribute? "invert")))
    (hr : r'.toOption = r.toOption) :
    (branch h' negated' r').toOption = (branch h negated r).toOption := by
  unfold branch
  rw [hnegated, hattributes "value" (by decide), hattributes "match" (by decide),
    hattributes "casesensitive" (by decide)]
  have hkey : (required h' "key").toOption = (required h "key").toOption := by
    rw [toOption_required, toOption_required, hattributes "key" (by decide)]
  refine toOption_bind_congr hkey fun key => toOption_guard_congr ?_
  refine toOption_bind_congr hr fun _ => ?_
  refine toOption_bind_congr (toOption_template_head h h' key) fun _ => ?_
  cases h.attribute? "value" with
  | some value =>
    exact toOption_bind_congr (toOption_map_congr (toOption_template_head h h' value) _)
      fun _ => rfl
  | none =>
    cases h.attribute? "match" with
    | some pattern =>
      exact toOption_bind_congr (toOption_map_congr (toOption_patternOf_head ..) _) fun _ => rfl
    | none => rfl

theorem toOption_choice (hattributes : ∀ name ≠ "invert", h'.attribute? name = h.attribute? name)
    (hnegated : (negated' != isTrue (h'.attribute? "invert")) =
      (negated != isTrue (h.attribute? "invert")))
    (hr : r'.toOption = r.toOption) :
    (choice h' negated' r').toOption = (choice h negated r).toOption :=
  toOption_bind_congr (toOption_branch hattributes hnegated hr) fun _ => rfl

theorem toOption_matchPattern (hhead : SameHead h h') (hr : r'.toOption = r.toOption) :
    (matchPattern h' r').toOption = (matchPattern h r).toOption := by
  unfold matchPattern
  rw [hhead.attributes]
  refine toOption_bind_congr (hhead.toOption_required "value") fun value => ?_
  refine toOption_bind_congr (hhead.toOption_required "match") fun _ => ?_
  refine toOption_bind_congr hr fun _ => ?_
  refine toOption_bind_congr (toOption_template_head h h' value) fun _ => ?_
  exact toOption_bind_congr (toOption_patternOf_head ..) fun _ => rfl

end

/-! ## Contents -/

namespace PassesOver
variable {α : Type} {h h' : Head} {read read' : List Node → Read α}

/-- What is no element is passed over alike. -/
theorem toOption_cons_congr (hread : PassesOver h read) (hread' : PassesOver h' read') {node : Node}
    (hnode : ∀ h content, node ≠ .element h content) {rest rest' : List Node}
    (hrest : (read' rest').toOption = (read rest).toOption) :
    (read' (node :: rest')).toOption = (read (node :: rest)).toOption := by
  cases node with
  | element h content => exact absurd rfl (hnode h content)
  | text s =>
    rw [hread.text, hread'.text]
    exact toOption_bind_congr (toOption_blankText_head h' h s) fun _ => hrest
  | comment s => rw [hread.comment, hread'.comment, hrest]
  | instruction target data => rw [hread.instruction, hread'.instruction, hrest]
  | reference name => rw [hread.reference, hread'.reference, hrest]

end PassesOver

section
variable {p : Place} {content content' : List Node}

/-- The tags of conditionals and of the choices that they are written as. -/
def conditionalTags : List String := ["if", "unless", "when", "choose"]

theorem Inverse.tags {h h' : Head} (hinverse : Inverse p h h') :
    (h.tag = p.plainTag ∨ h.tag = "unless") ∧ (h'.tag = p.plainTag ∨ h'.tag = "unless") := by
  rcases hinverse.tag with ⟨htag, htag'⟩ | ⟨htag, htag'⟩
  · exact ⟨.inl htag, .inr htag'⟩
  · exact ⟨.inr htag, .inl htag'⟩

theorem mem_conditionalTags {h : Head} (htag : h.tag = p.plainTag ∨ h.tag = "unless") :
    h.tag ∈ conditionalTags := by
  rcases htag with htag | htag <;> cases p <;> simp [htag, conditionalTags, Place.plainTag]

/-- They are no rows. -/
theorem toOption_rows_of_tag {t : Columns} {h inner : Head} {last : Option Statement}
    {rest : List Node} (htag : inner.tag ∈ conditionalTags) :
    (rows t h last (.element inner content :: rest)).toOption = none := by
  simp only [conditionalTags, List.mem_cons, List.not_mem_nil, or_false] at htag
  rcases htag with htag | htag | htag | htag <;>
    simp [rows, htag, refuse, bind, Except.bind, Except.toOption]

theorem Rewritten.toOption_rows (hcontent : Rewritten p content content') (t : Columns)
    (h h' : Head) :
    ∀ last, (rows t h' last content').toOption = (rows t h last content).toOption := by
  induction hcontent with
  | nil => exact fun _ => rfl
  | other hnode _ ih =>
    exact fun last =>
      (passesOver_rows t h last).toOption_cons_congr (passesOver_rows t h' last) hnode (ih last)
  | kept hhead hcontent _ _ ih =>
    intro last
    rw [rows, rows, hhead.tag]
    refine toOption_guard_congr (toOption_guard_congr ?_)
    split
    · exact toOption_bind_congr (toOption_row hcontent.sameText hhead t) fun _ =>
        toOption_bind_congr (ih last) fun _ => rfl
    · exact toOption_bind_congr (toOption_rowStatement hcontent.sameText hhead t)
        fun s => ih (some s)
  | inverted hinverse =>
    intro last
    rw [toOption_rows_of_tag (mem_conditionalTags hinverse.tags.1),
      toOption_rows_of_tag (mem_conditionalTags hinverse.tags.2)]
  | chosen hif hchoose =>
    intro last
    rw [toOption_rows_of_tag (by simp [hchoose, conditionalTags]),
      toOption_rows_of_tag (by simp [hif, conditionalTags])]

theorem toOption_table {h h' : Head} (hhead : SameHead h h')
    (hcontent : Rewritten p content content') (defaultOnly : Bool) :
    (table h' content' defaultOnly).toOption = (table h content defaultOnly).toOption := by
  unfold table
  rw [hhead.attributes "separator", hhead.attributes "casesensitive"]
  refine toOption_bind_congr (hhead.toOption_required "key") fun key => ?_
  refine toOption_bind_congr (toOption_template_head h h' key) fun _ => ?_
  refine toOption_bind_congr (hhead.toOption_required "selector") fun selector => ?_
  refine toOption_bind_congr (toOption_template_head h h' selector) fun _ => ?_
  exact toOption_bind_congr (hcontent.toOption_rows _ h h' none) fun _ => rfl

end

/-! ## Conditionals -/

section
variable {p : Place} {h h' : Head} {content : List Node}

/-- Turning round both the tag and the attribute leaves the test. -/
theorem Inverse.negated (hinverse : Inverse p h h') :
    ((h'.tag == "unless") != isTrue (h'.attribute? "invert")) =
      ((h.tag == "unless") != isTrue (h.attribute? "invert")) := by
  have hplain : (p.plainTag == "unless") = false := by cases p <;> rfl
  have htrue : isTrue (some "true") = true := by cbv
  have hnone : isTrue none = false := rfl
  rw [hinverse.invert]
  rcases hinverse.tag with ⟨htag, htag'⟩ | ⟨htag, htag'⟩ <;>
    cases isTrue (h.attribute? "invert") <;> simp [htag, htag', hplain, htrue, hnone]

theorem statement_conditional (htag : h.tag = "if" ∨ h.tag = "unless") :
    statement (.element h content) =
      (choice h (h.tag == "unless") ((block h content).map .block)).map some := by
  rcases htag with htag | htag <;> simp [statement, htag]

theorem branches_conditional {inner : Head} {last : Option Statement} {rest : List Node}
    (htag : inner.tag = "when" ∨ inner.tag = "unless") :
    branches h last (.element inner content :: rest) =
      checkBranch h inner last >>= fun _ =>
        branch inner (inner.tag == "unless") ((block inner content).map .block) >>= fun b =>
          branches h last rest >>= fun r => pure (b :: r.1, r.2) := by
  rcases htag with htag | htag <;> simp [branches, htag]

/-- A choice with one branch is a conditional. -/
theorem statement_chosen {outer inner : Head} (houter : outer.tag = "choose")
    (hinner : inner.tag = "when") :
    statement (.element outer [.element inner content]) =
      (choice inner false ((block inner content).map .block)).map some := by
  have hcheck : checkBranch outer inner none = .ok () := by
    simp [checkBranch, hinner, pure, Except.pure]
  have hnegated : (inner.tag == "unless") = false := by simp [hinner]
  have hbranches : branches outer none [.element inner content] =
      branch inner false ((block inner content).map .block) >>= fun b => pure ([b], none) := by
    rw [branches_conditional (.inl hinner), hcheck, hnegated, branches]
    rfl
  simp only [statement, houter, hbranches, choice]
  cases branch inner false ((block inner content).map .block) <;> rfl

end

/-! ## Blocks and choices -/

/-- A reader of what stands at the place gives the same for both contents. -/
def ReadAlike : Place → List Node → List Node → Prop
  | .block, content, content' => ∀ h h', (block h' content').toOption = (block h content).toOption
  | .choice, content, content' => ∀ h h' last,
      (branches h' last content').toOption = (branches h last content).toOption

theorem ReadAlike.block {h : Head} {content content' : List Node}
    (halike : ReadAlike (.within h.tag) content content') (htag : h.tag ≠ "choose") :
    ReadAlike .block content content' := by
  rwa [Place.within, if_neg htag] at halike

theorem ReadAlike.body {content content' : List Node} (halike : ReadAlike .block content content')
    (h h' : Head) :
    ((Grammar.block h' content').map Statement.block).toOption =
      ((Grammar.block h content).map Statement.block).toOption :=
  toOption_map_congr (halike h h') Statement.block

theorem toOption_statement {h h' : Head} (hhead : SameHead h h') {content content' : List Node}
    (hcontent : Rewritten (.within h.tag) content content')
    (halike : ReadAlike (.within h.tag) content content') :
    (statement (.element h' content')).toOption = (statement (.element h content)).toOption := by
  have hsame := hcontent.sameText
  have hbody : h.tag ≠ "choose" → ((block h' content').map Statement.block).toOption =
      ((block h content).map Statement.block).toOption := fun htag => (halike.block htag).body h h'
  have hchoice : h.tag ≠ "choose" → ∀ negated,
      (choice h' negated ((block h' content').map .block)).toOption =
        (choice h negated ((block h content).map .block)).toOption := fun htag negated =>
    toOption_choice (fun name _ => hhead.attributes name) (by rw [hhead.attributes]) (hbody htag)
  rw [statement, statement, hhead.tag]
  split
  · exact toOption_map_congr (toOption_assignment hsame hhead false) some
  · exact toOption_map_congr (toOption_assignment hsame hhead true) some
  · rename_i htag
    exact toOption_map_congr (hchoice (by simp [htag]) false) some
  · rename_i htag
    exact toOption_map_congr (hchoice (by simp [htag]) true) some
  · rename_i htag
    rw [htag] at halike
    exact toOption_bind_congr (halike h h' none) fun _ => rfl
  · exact toOption_map_congr (toOption_table hhead hcontent false) some
  · exact toOption_map_congr (toOption_table hhead hcontent true) some
  · rename_i htag
    exact toOption_map_congr (toOption_matchPattern hhead (hbody (by simp [htag]))) some
  · exact toOption_map_congr (toOption_error hsame hhead) some
  · rfl
  · rfl

section
variable {h h' : Head} {content content' rest rest' : List Node}

/-- The first elements of two blocks give the same statement. -/
theorem ReadAlike.cons_block (hstatement : (statement (.element h' content')).toOption =
      (statement (.element h content)).toOption) (hrest : ReadAlike .block rest rest') :
    ReadAlike .block (.element h content :: rest) (.element h' content' :: rest') := by
  intro o o'
  simp only [Grammar.block]
  exact toOption_bind_congr hstatement fun _ => toOption_bind_congr (hrest o o') fun _ => rfl

theorem toOption_checkBranch {o o' inner inner' : Head} {last : Option Statement}
    (htag : (inner'.tag = "when" ∨ inner'.tag = "unless" ∨ inner'.tag = "otherwise") ↔
      (inner.tag = "when" ∨ inner.tag = "unless" ∨ inner.tag = "otherwise")) :
    (checkBranch o' inner' last).toOption = (checkBranch o inner last).toOption := by
  refine toOption_eq_of_accepts_iff ?_
  rw [accepts_checkBranch, accepts_checkBranch, htag]

/-- The branches of the same head are read alike. -/
theorem ReadAlike.cons_choice (hhead : SameHead h h')
    (halike : ReadAlike (.within h.tag) content content') (hrest : ReadAlike .choice rest rest') :
    ReadAlike .choice (.element h content :: rest) (.element h' content' :: rest') := by
  intro o o' last
  have hcheck : (checkBranch o' h' last).toOption = (checkBranch o h last).toOption :=
    toOption_checkBranch (by rw [hhead.tag])
  by_cases htag : h.tag = "choose"
  · -- a choice is no branch, so its content is not read
    have hrefused : (checkBranch o h last).toOption = none := by
      simp [checkBranch, htag, refuse, bind, Except.bind, Except.toOption]
    rw [branches, branches, toOption_bind, toOption_bind, hcheck, hrefused]
    rfl
  · have hblock := halike.block htag
    rw [branches, branches, hhead.tag]
    refine toOption_bind_congr hcheck fun _ => ?_
    split
    · exact toOption_bind_congr (hblock h h') fun body => hrest o o' (some (.block body))
    · have hbranch :
          (branch h' (h.tag == "unless") ((Grammar.block h' content').map .block)).toOption =
            (branch h (h.tag == "unless") ((Grammar.block h content).map .block)).toOption :=
        toOption_branch (fun name _ => hhead.attributes name) (by rw [hhead.attributes])
          (hblock.body h h')
      exact toOption_bind_congr hbranch fun _ => toOption_bind_congr (hrest o o' last) fun _ => rfl

end

/-- **Whatever conditionals of a content are rewritten, it is read alike.** -/
theorem Rewritten.readAlike {p : Place} {content content' : List Node}
    (hcontent : Rewritten p content content') : ReadAlike p content content' := by
  induction hcontent with
  | nil p =>
    cases p with
    | block => exact fun h h' => by rw [block, block]
    | choice => exact fun h h' last => by rw [branches, branches]
  | @other p _ _ _ hnode _ ih =>
    cases p with
    | block =>
      exact fun h h' =>
        (passesOver_block h).toOption_cons_congr (passesOver_block h') hnode (ih h h')
    | choice =>
      exact fun h h' last => (passesOver_branches h last).toOption_cons_congr
        (passesOver_branches h' last) hnode (ih h h' last)
  | @kept p _ _ _ _ _ _ hhead hcontent _ ih ihRest =>
    cases p with
    | block => exact .cons_block (toOption_statement hhead hcontent ih) ihRest
    | choice => exact .cons_choice hhead ih ihRest
  | @inverted p h h' _ _ _ _ hinverse _ _ ih ihRest =>
    obtain ⟨htag, htag'⟩ := hinverse.tags
    cases p with
    | block =>
      refine .cons_block ?_ ihRest
      rw [statement_conditional htag, statement_conditional htag']
      exact toOption_map_congr
        (toOption_choice hinverse.attributes hinverse.negated (ih.body h h')) some
    | choice =>
      intro o o' last
      have hcheck : (checkBranch o' h' last).toOption = (checkBranch o h last).toOption :=
        toOption_checkBranch (iff_of_true (htag'.imp id .inl) (htag.imp id .inl))
      rw [branches_conditional htag, branches_conditional htag']
      refine toOption_bind_congr hcheck fun _ => ?_
      refine toOption_bind_congr
        (toOption_branch hinverse.attributes hinverse.negated (ih.body h h')) fun _ => ?_
      exact toOption_bind_congr (ihRest o o' last) fun _ => rfl
  | @chosen h outer inner _ _ _ _ hif hchoose hwhen hattributes _ _ ih ihRest =>
    refine .cons_block ?_ ihRest
    rw [statement_chosen hchoose hwhen, statement_conditional (.inl hif)]
    have hnegated : (false != isTrue (inner.attribute? "invert")) =
        ((h.tag == "unless") != isTrue (h.attribute? "invert")) := by
      rw [hattributes, hif]
      rfl
    exact toOption_map_congr
      (toOption_choice (fun name _ => hattributes name) hnegated (ih.body h inner)) some

/-! ## Documents -/

/-- What is rewritten once or again and again is read alike. -/
theorem toOption_block_of_rewritten {content content' : List Node}
    (hcontent : Relation.ReflTransGen (Rewritten .block) content content') (h h' : Head) :
    (block h' content').toOption = (block h content).toOption := by
  induction hcontent with
  | refl => exact toOption_block_head h' h content
  | tail _ hstep ih => rw [hstep.readAlike h' h', ih]

/-- Of the two inversions of a branch each undoes the other. -/
theorem isNot_of_branch_iff {h : Head} {negated : Bool} {r : Read Statement} {test : Test}
    {s : Statement} (hr : branch h negated r = .ok (test, s)) :
    (∃ t, test = .not t) ↔ negated ≠ isTrue (h.attribute? "invert") := by
  obtain ⟨plain, -, hplain, htest, -⟩ := exists_test_of_branch hr
  rw [← bne_iff_ne, show test = _ from htest]
  split
  · exact iff_of_true ⟨plain, rfl⟩ ‹_›
  · exact iff_of_false (fun ⟨t, ht⟩ => hplain t ht) ‹_›

/-- **Conditionals may be turned round.** Any of the conditionals in a document, at any depth, may
be given the opposite tag and be inverted where they were not, and any `if` may be written as a
choice with one branch, all at once and again and again. The document is accepted as before and
gives the same statements. A test is negated if one of the two inversions is there and the other is
not, and never twice. -/
theorem document_rewritten {h h' : Head} (htag : h'.tag = h.tag) {content content' : List Node}
    (hcontent : Relation.ReflTransGen (Rewritten .block) content content') :
    (∀ body, document (.element h' content') = .ok body ↔
      document (.element h content) = .ok body) ∧
    (∀ (inner : Head) (negated : Bool) (r : Read Statement) (test : Test) (s : Statement),
      branch inner negated r = .ok (test, s) →
        ((∃ t, test = .not t) ↔ negated ≠ isTrue (inner.attribute? "invert"))) ∧
    ∀ body, document (.element h content) = .ok body →
      ∀ whens otherwise, (Statement.block body).Contains (.choose whens otherwise) →
        ∀ w ∈ whens, ∀ test, w.1 ≠ .not (.not test) := by
  refine ⟨?_, fun _ _ _ _ _ hr => isNot_of_branch_iff hr, ?_⟩
  · rw [← toOption_eq_iff, document, document, htag]
    split
    · exact toOption_block_of_rewritten hcontent h h'
    · rfl
  · rintro body hbody whens otherwise hcontains w hw test htest
    have hnegated : w.1.NegatedOnce := (allIn_of_document hbody _ hcontains).negatedOnce w hw
    rw [htest] at hnegated
    exact hnegated test rfl

/-- An inverted `if` around a choice, and one that is not inverted. -/
def conditionalSample : List Node :=
  [.element ⟨"if", [("key", "a"), ("invert", "True")], 1⟩
    [.text " ", .element ⟨"choose", [], 1⟩ [.element ⟨"when", [("key", "b")], 1⟩ []]],
   .element ⟨"if", [("key", "c")], 1⟩ []]

/-- The first is turned round, with the branch inside it, and the other is written as a choice. -/
def rewrittenSample : List Node :=
  [.element ⟨"unless", [("key", "a")], 1⟩
    [.text " ", .element ⟨"choose", [], 1⟩
      [.element ⟨"unless", [("key", "b"), ("invert", "true")], 1⟩ []]],
   .element ⟨"choose", [], 2⟩ [.element ⟨"when", [("key", "c")], 3⟩ []]]

theorem rewritten_sample : Rewritten .block conditionalSample rewrittenSample := by
  have htrue : isTrue (some "True") = true := by cbv
  have hfalse : isTrue none = false := rfl
  refine .inverted ⟨.inl ⟨rfl, rfl⟩, ?_, ?_⟩
    (.other (by simp) (.kept ⟨rfl, fun _ => rfl⟩ ?_ (.nil _)))
    (.chosen rfl rfl rfl (fun _ => rfl) (.nil _) (.nil _))
  · simp [Head.attribute?, Level.lookup_cons_if, htrue]
  · exact fun name hname => by simp [Head.attribute?, Level.lookup_cons_if, hname]
  · refine .inverted ⟨.inl ⟨rfl, rfl⟩, ?_, ?_⟩ (.nil _) (.nil _)
    · simp [Head.attribute?, Level.lookup_cons_if, hfalse]
    · exact fun name hname => by simp [Head.attribute?, Level.lookup_cons_if, hname]

theorem document_rewritten_sample :
    let test (key : String) : Test := .truthy (.template ⟨key, []⟩)
    Relation.ReflTransGen (Rewritten .block) conditionalSample rewrittenSample ∧
    document (.element ⟨"properties", [], 1⟩ rewrittenSample) =
      .ok [.choose [(.not (test "a"), .block [.choose [(test "b", .block [])] none])] none,
        .choose [(test "c", .block [])] none] := by
  intro test
  have hrewritten : Relation.ReflTransGen (Rewritten .block) conditionalSample rewrittenSample :=
    .single rewritten_sample
  have hroot : (⟨"properties", [], 1⟩ : Head).tag = (⟨"properties", [], 1⟩ : Head).tag := rfl
  exact ⟨hrewritten, ((document_rewritten hroot hrewritten).1 _).2 (by cbv)⟩

end PropertyDocs.Grammar
