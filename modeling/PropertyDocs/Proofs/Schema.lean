import PropertyDocs.Grammar

/-!
# The schema of XML documents

Which trees are documents, said of the elements and the texts that stand in an element and not of
the order in which they are read. Comments, instructions and references stand between texts and
mean nothing, so a schema does not see them.
-/
namespace PropertyDocs.Schema

open Xml (Head Node)

/-- An element with its content. -/
abbrev Element := Head × List Node

/-- The elements that stand directly in a content. -/
@[simp] def elements : List Node → List Element
  | [] => []
  | .element h content :: rest => (h, content) :: elements rest
  | _ :: rest => elements rest

/-- The texts that stand directly in a content. -/
@[simp] def texts : List Node → List String
  | [] => []
  | .text s :: rest => s :: texts rest
  | _ :: rest => texts rest

def Blank (s : String) : Prop := ∀ c ∈ s.toList, Text.isBlank c = true

/-- Nothing but blanks stands between the elements. -/
def NoText (content : List Node) : Prop := ∀ s ∈ texts content, Blank s

@[simp] theorem noText_nil : NoText [] := by simp [NoText]

@[simp] theorem noText_text {s : String} {rest : List Node} :
    NoText (.text s :: rest) ↔ Blank s ∧ NoText rest := by
  simp [NoText]

/-- The text of a content without the blanks around it. -/
def body (content : List Node) : String := Text.trim (String.join (texts content))

def IsTemplate (text : String) : Prop := ∃ t, Template.compile text = .ok t

/-- Whether the letter case of an element is told apart. -/
def caseSensitive (h : Head) : Bool := Grammar.isTrue (h.attribute? "casesensitive")

def IsRegex (h : Head) (text : String) : Prop :=
  ∃ p, Pattern.compile text (!caseSensitive h) = .ok p

/-- The separator of a table; an empty one is none. -/
def separator (h : Head) : Option String := (h.attribute? "separator").filter (· != "")

/-- Whether the text is a pattern for the rows of the table `h`. -/
def IsRowPattern (h : Head) (text : String) : Prop :=
  ∃ p, Pattern.compileRow text (separator h) (caseSensitive h) = .ok p

/-- The element has the attribute, with a value as wanted. -/
def Has (h : Head) (name : String) (P : String → Prop) : Prop :=
  ∃ value, h.attribute? name = some value ∧ P value

/-- A template stands in the attribute or in the body, not in both. -/
structure HoldsTemplate (name : String) (e : Element) : Prop where
  noElement : elements e.2 = []
  notBoth : (e.1.attribute? name).isSome → NoText e.2
  template : IsTemplate ((e.1.attribute? name).getD (body e.2))

/-- What the attributes of an element with a test have to be. -/
structure IsCondition (h : Head) : Prop where
  key : Has h "key" IsTemplate
  notBoth : ¬ ((h.attribute? "value").isSome ∧ (h.attribute? "match").isSome)
  value : ∀ text, h.attribute? "value" = some text → IsTemplate text
  regex : ∀ text, h.attribute? "match" = some text → IsRegex h text

/-- Elements of one kind, perhaps with one of another kind as the last. -/
def Closed (P Q : Element → Prop) (es : List Element) : Prop :=
  ∃ (init : List Element) (last : Option Element), es = init ++ last.toList ∧
    (∀ e ∈ init, P e) ∧ ∀ e ∈ last, Q e

section
variable {P Q P' Q' : Element → Prop}

theorem closed_nil : Closed P Q [] := ⟨[], none, by simp⟩

theorem closed_cons {e : Element} {es : List Element} :
    Closed P Q (e :: es) ↔ (P e ∧ Closed P Q es) ∨ (Q e ∧ es = []) := by
  constructor
  · rintro ⟨init, last, heq, hinit, hlast⟩
    cases init with
    | nil =>
      cases last with
      | none => simp at heq
      | some l =>
        obtain ⟨rfl, rfl⟩ : e = l ∧ es = [] := by simpa using heq
        exact .inr ⟨hlast e rfl, rfl⟩
    | cons a init =>
      obtain ⟨rfl, rfl⟩ : e = a ∧ es = init ++ last.toList := by simpa using heq
      exact .inl ⟨hinit e (by simp), init, last, rfl, fun b hb => hinit b (by simp [hb]), hlast⟩
  · rintro (⟨he, init, last, rfl, hinit, hlast⟩ | ⟨he, rfl⟩)
    · exact ⟨e :: init, last, rfl, List.forall_mem_cons.2 ⟨he, hinit⟩, hlast⟩
    · exact ⟨[], some e, rfl, by simp, by simpa using he⟩

theorem closed_congr {es : List Element} (hP : ∀ e ∈ es, P e ↔ P' e) (hQ : ∀ e ∈ es, Q e ↔ Q' e) :
    Closed P Q es ↔ Closed P' Q' es := by
  induction es with
  | nil => exact iff_of_true closed_nil closed_nil
  | cons e es ih =>
    obtain ⟨hPe, hPs⟩ := List.forall_mem_cons.1 hP
    obtain ⟨hQe, hQs⟩ := List.forall_mem_cons.1 hQ
    rw [closed_cons, closed_cons, hPe, hQe, ih hPs hQs]

end

/-- A row of the table `h`. -/
structure IsRow (h : Head) (e : Element) : Prop where
  tag : e.1.tag = "match"
  pattern : Has e.1 "pattern" (IsRowPattern h)
  value : HoldsTemplate "value" e

/-- The last row of a table, which takes what no other row does. -/
structure IsLastRow (e : Element) : Prop where
  tag : e.1.tag = "nomatch"
  value : HoldsTemplate "value" e

structure IsTable (e : Element) : Prop where
  key : Has e.1 "key" IsTemplate
  selector : Has e.1 "selector" IsTemplate
  noText : NoText e.2
  rows : Closed (IsRow e.1) IsLastRow (elements e.2)

mutual

/-- The elements that may stand in a block. -/
inductive IsStatement : Element → Prop
  | assignment {e : Element} : e.1.tag = "entry" ∨ e.1.tag = "default" →
      Has e.1 "key" IsTemplate → HoldsTemplate "value" e → IsStatement e
  | conditional {e : Element} : e.1.tag = "if" ∨ e.1.tag = "unless" →
      IsCondition e.1 → IsBlock e.2 → IsStatement e
  | choice {e : Element} (branches : List Element) (last : Option Element) :
      e.1.tag = "choose" → NoText e.2 → elements e.2 = branches ++ last.toList →
      (∀ b ∈ branches, b.1.tag = "when" ∨ b.1.tag = "unless") →
      (∀ b ∈ branches, IsCondition b.1) → (∀ b ∈ branches, IsBlock b.2) →
      (∀ b ∈ last, b.1.tag = "otherwise") → (∀ b ∈ last, IsBlock b.2) → IsStatement e
  | table {e : Element} : e.1.tag = "entryTable" ∨ e.1.tag = "defaultTable" →
      IsTable e → IsStatement e
  | matchPattern {e : Element} : e.1.tag = "matchPattern" →
      Has e.1 "value" IsTemplate → Has e.1 "match" (IsRegex e.1) → IsBlock e.2 → IsStatement e
  | error {e : Element} : e.1.tag = "error" → HoldsTemplate "message" e → IsStatement e
  /-- Whatever it has and holds. -/
  | comment {e : Element} : e.1.tag = "comment" → IsStatement e

/-- The contents of blocks. -/
inductive IsBlock : List Node → Prop
  | intro {content : List Node} : NoText content → (∀ e ∈ elements content, IsStatement e) →
      IsBlock content

end

/-- A branch with a test. -/
structure IsBranch (e : Element) : Prop where
  tag : e.1.tag = "when" ∨ e.1.tag = "unless"
  condition : IsCondition e.1
  block : IsBlock e.2

/-- The branch that is taken when no other is. -/
structure IsLastBranch (e : Element) : Prop where
  tag : e.1.tag = "otherwise"
  block : IsBlock e.2

/-- The trees that are documents. -/
def IsDocument (root : Node) : Prop :=
  ∃ h content, root = .element h content ∧ h.tag = "properties" ∧ IsBlock content

/-! ## Elements are smaller than what they stand in -/

theorem mem_of_mem_elements {content : List Node} {e : Element} (he : e ∈ elements content) :
    Node.element e.1 e.2 ∈ content := by
  induction content with
  | nil => cases he
  | cons node rest ih =>
    cases node with
    | element inner content =>
      rcases List.mem_cons.1 he with rfl | he
      · exact List.mem_cons_self
      · exact List.mem_cons_of_mem _ (ih he)
    | text | comment | instruction | reference => exact List.mem_cons_of_mem _ (ih he)

theorem sizeOf_lt_of_mem_elements {content : List Node} {e : Element} (he : e ∈ elements content) :
    sizeOf (Node.element e.1 e.2) < sizeOf content :=
  List.sizeOf_lt_of_mem (mem_of_mem_elements he)

theorem sizeOf_content_lt {h : Head} {content : List Node} :
    sizeOf content < sizeOf (Node.element h content) := by
  rw [Node.element.sizeOf_spec]
  omega

/-! ## The statement of an element is read off its tag -/

section
variable {e : Element}

theorem isStatement_iff_assignment (htag : e.1.tag = "entry" ∨ e.1.tag = "default") :
    IsStatement e ↔ Has e.1 "key" IsTemplate ∧ HoldsTemplate "value" e := by
  refine ⟨fun hs => ?_, fun ⟨hk, hv⟩ => .assignment htag hk hv⟩
  cases hs with
  | assignment _ hk hv => exact ⟨hk, hv⟩
  | _ => rcases htag with htag | htag <;> simp_all

theorem isStatement_iff_conditional (htag : e.1.tag = "if" ∨ e.1.tag = "unless") :
    IsStatement e ↔ IsCondition e.1 ∧ IsBlock e.2 := by
  refine ⟨fun hs => ?_, fun ⟨hc, hb⟩ => .conditional htag hc hb⟩
  cases hs with
  | conditional _ hc hb => exact ⟨hc, hb⟩
  | _ => rcases htag with htag | htag <;> simp_all

theorem isStatement_iff_choice (htag : e.1.tag = "choose") :
    IsStatement e ↔ NoText e.2 ∧ Closed IsBranch IsLastBranch (elements e.2) := by
  constructor
  · intro hs
    cases hs with
    | choice bs last _ hn heq htags hconds hblocks hltag hlblock =>
      exact ⟨hn, bs, last, heq, fun b hb => ⟨htags b hb, hconds b hb, hblocks b hb⟩,
        fun b hb => ⟨hltag b hb, hlblock b hb⟩⟩
    | _ => simp_all
  · rintro ⟨hn, bs, last, heq, hbs, hlast⟩
    exact .choice bs last htag hn heq (fun b hb => (hbs b hb).tag)
      (fun b hb => (hbs b hb).condition) (fun b hb => (hbs b hb).block)
      (fun b hb => (hlast b hb).tag) fun b hb => (hlast b hb).block

theorem isStatement_iff_table (htag : e.1.tag = "entryTable" ∨ e.1.tag = "defaultTable") :
    IsStatement e ↔ IsTable e := by
  refine ⟨fun hs => ?_, fun ht => .table htag ht⟩
  cases hs with
  | table _ ht => exact ht
  | _ => rcases htag with htag | htag <;> simp_all

theorem isStatement_iff_matchPattern (htag : e.1.tag = "matchPattern") :
    IsStatement e ↔
      Has e.1 "value" IsTemplate ∧ Has e.1 "match" (IsRegex e.1) ∧ IsBlock e.2 := by
  refine ⟨fun hs => ?_, fun ⟨hv, hm, hb⟩ => .matchPattern htag hv hm hb⟩
  cases hs with
  | matchPattern _ hv hm hb => exact ⟨hv, hm, hb⟩
  | _ => simp_all

theorem isStatement_iff_error (htag : e.1.tag = "error") :
    IsStatement e ↔ HoldsTemplate "message" e := by
  refine ⟨fun hs => ?_, fun hm => .error htag hm⟩
  cases hs with
  | error _ hm => exact hm
  | _ => simp_all

theorem isBranch_iff : IsBranch e ↔
    (e.1.tag = "when" ∨ e.1.tag = "unless") ∧ IsCondition e.1 ∧ IsBlock e.2 :=
  ⟨fun hb => ⟨hb.tag, hb.condition, hb.block⟩, fun ⟨ht, hc, hb⟩ => ⟨ht, hc, hb⟩⟩

theorem isLastBranch_iff : IsLastBranch e ↔ e.1.tag = "otherwise" ∧ IsBlock e.2 :=
  ⟨fun hl => ⟨hl.tag, hl.block⟩, fun ⟨ht, hb⟩ => ⟨ht, hb⟩⟩

theorem isBlock_iff {content : List Node} :
    IsBlock content ↔ NoText content ∧ ∀ e ∈ elements content, IsStatement e :=
  ⟨fun ⟨hn, hs⟩ => ⟨hn, hs⟩, fun ⟨hn, hs⟩ => ⟨hn, hs⟩⟩

end

end PropertyDocs.Schema
