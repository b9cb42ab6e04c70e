import Mathlib
import PropertyDocs.Proofs.Acceptance

/-!
# Comments and instructions mean nothing

Without its comments and instructions, at any depth, a tree is read as it is with them: it is
accepted or not, and gives the same statements. What is next to a comment is joined by its removal,
so the pieces of a text become one text. Only the error may be another one, since it can quote a
piece.
-/
namespace PropertyDocs

namespace Xml

/-- The content with a text in front of it. Texts that come to stand next to each other are one. -/
def consText (s : String) : List Node → List Node
  | .text t :: rest => .text (s ++ t) :: rest
  | content => .text s :: content

mutual

/-- The node without the comments and instructions in it, at any depth. -/
def Node.stripped : Node → Node
  | .element h content => .element h (strippedIn content)
  | node => node

def strippedIn : List Node → List Node
  | [] => []
  | .text s :: rest => consText s (strippedIn rest)
  | .comment _ :: rest => strippedIn rest
  | .instruction _ _ :: rest => strippedIn rest
  | node :: rest => node.stripped :: strippedIn rest

end

section
variable (rest : List Node)

@[simp] theorem strippedIn_nil : strippedIn [] = [] := by rw [strippedIn]

@[simp] theorem strippedIn_text (s : String) :
    strippedIn (.text s :: rest) = consText s (strippedIn rest) := by rw [strippedIn]

@[simp] theorem strippedIn_comment (s : String) :
    strippedIn (.comment s :: rest) = strippedIn rest := by rw [strippedIn]

@[simp] theorem strippedIn_instruction (target data : String) :
    strippedIn (.instruction target data :: rest) = strippedIn rest := by rw [strippedIn]

@[simp] theorem strippedIn_reference (name : String) :
    strippedIn (.reference name :: rest) = .reference name :: strippedIn rest := by
  simp [strippedIn, Node.stripped]

@[simp] theorem strippedIn_element (h : Head) (content : List Node) :
    strippedIn (.element h content :: rest) =
      .element h (strippedIn content) :: strippedIn rest := by
  simp [strippedIn, Node.stripped]

end

mutual

/-- There are no comments and instructions in the node, at any depth. -/
def Node.Bare : Node → Prop
  | .element _ content => BareIn content
  | .comment _ | .instruction _ _ => False
  | .text _ | .reference _ => True

def BareIn : List Node → Prop
  | [] => True
  | node :: rest => node.Bare ∧ BareIn rest

end

theorem bareIn_consText {s : String} {content : List Node} (h : BareIn content) :
    BareIn (consText s content) := by
  unfold consText
  split
  · rw [BareIn, Node.Bare] at h ⊢
    exact h
  · rw [BareIn, Node.Bare]
    exact ⟨trivial, h⟩

theorem bareIn_strippedIn : ∀ content : List Node, BareIn (strippedIn content)
  | [] => by
    rw [strippedIn_nil, BareIn]
    trivial
  | .text s :: rest => by
    rw [strippedIn_text]
    exact bareIn_consText (bareIn_strippedIn rest)
  | .comment s :: rest => by
    rw [strippedIn_comment]
    exact bareIn_strippedIn rest
  | .instruction target data :: rest => by
    rw [strippedIn_instruction]
    exact bareIn_strippedIn rest
  | .reference name :: rest => by
    rw [strippedIn_reference, BareIn, Node.Bare]
    exact ⟨trivial, bareIn_strippedIn rest⟩
  | .element h content :: rest => by
    rw [strippedIn_element, BareIn, Node.Bare]
    exact ⟨bareIn_strippedIn content, bareIn_strippedIn rest⟩

end Xml

/-! ## The stripped content -/

namespace Schema

open Xml (Head Node)

@[simp] theorem elements_consText (s : String) (content : List Node) :
    elements (Xml.consText s content) = elements content := by
  unfold Xml.consText
  split <;> simp

theorem join_texts_consText (s : String) (content : List Node) :
    String.join (texts (Xml.consText s content)) = s ++ String.join (texts content) := by
  unfold Xml.consText
  split <;> simp [String.append_assoc]

/-- The same elements are left, themselves stripped. -/
theorem elements_strippedIn (content : List Node) :
    elements (Xml.strippedIn content) =
      (elements content).map fun e => (e.1, Xml.strippedIn e.2) := by
  induction content with
  | nil => simp
  | cons node rest ih => cases node <;> simp [ih]

/-- All the text is left. -/
theorem join_texts_strippedIn (content : List Node) :
    String.join (texts (Xml.strippedIn content)) = String.join (texts content) := by
  induction content with
  | nil => simp
  | cons node rest ih => cases node <;> simp [join_texts_consText, ih]

theorem body_strippedIn (content : List Node) : body (Xml.strippedIn content) = body content := by
  rw [body, body, join_texts_strippedIn]

theorem noText_strippedIn {content : List Node} :
    NoText (Xml.strippedIn content) ↔ NoText content := by
  rw [← Grammar.body_eq_empty_iff, ← Grammar.body_eq_empty_iff, body_strippedIn]

end Schema

namespace Grammar

open Xml (Head Node)
open Schema

/-! ## Results alone -/

section
variable {α β : Type}

theorem toOption_eq_some_iff {r : Read α} {a : α} : r.toOption = some a ↔ r = .ok a := by
  cases r <;> simp [Except.toOption]

theorem toOption_eq_iff {r r' : Read α} :
    r.toOption = r'.toOption ↔ ∀ a, r = .ok a ↔ r' = .ok a := by
  constructor
  · intro h a
    rw [← toOption_eq_some_iff, ← toOption_eq_some_iff, h]
  · intro h
    refine Option.ext fun a => ?_
    rw [toOption_eq_some_iff, toOption_eq_some_iff, h]

theorem toOption_eq_of_accepts_iff {r r' : Read Unit} (h : Accepts r ↔ Accepts r') :
    r.toOption = r'.toOption := by
  rw [toOption_eq_iff]
  intro u
  constructor
  · intro hr
    obtain ⟨_, hr'⟩ := h.1 ⟨u, hr⟩
    exact hr'
  · intro hr
    obtain ⟨_, hr'⟩ := h.2 ⟨u, hr⟩
    exact hr'

theorem toOption_bind (r : Read α) (f : α → Read β) :
    (r >>= f).toOption = r.toOption.bind fun a => (f a).toOption := by
  cases r <;> rfl

theorem toOption_map (r : Read α) (f : α → β) : (r.map f).toOption = r.toOption.map f := by
  cases r <;> rfl

/-- Readers of the same result go on to the same result. -/
theorem toOption_bind_congr {r r' : Read α} {f f' : α → Read β} (hr : r.toOption = r'.toOption)
    (hf : ∀ a, (f a).toOption = (f' a).toOption) :
    (r >>= f).toOption = (r' >>= f').toOption := by
  simp only [toOption_bind, hr, hf]

theorem toOption_map_congr {r r' : Read α} (hr : r.toOption = r'.toOption) (f : α → β) :
    (r.map f).toOption = (r'.map f).toOption := by
  rw [toOption_map, toOption_map, hr]

/-- After the same check, the same result, whatever the check reports. -/
theorem toOption_guard_congr {c : Prop} [Decidable c] {h h' : Head} {cause cause' : Defect}
    {f f' : α → Read β} {r r' : Read β} (hr : r.toOption = r'.toOption) :
    (if c then refuse h cause >>= f else r).toOption =
      (if c then refuse h' cause' >>= f' else r').toOption := by
  by_cases hc : c
  · rw [if_pos hc, if_pos hc]
    rfl
  · rw [if_neg hc, if_neg hc, hr]

end

/-! ## Contents -/

theorem toOption_blankText_head (h h' : Head) (s : String) :
    (blankText h s).toOption = (blankText h' s).toOption := by
  refine toOption_eq_of_accepts_iff ?_
  rw [accepts_blankText, accepts_blankText]

/-- A text is blank if its parts are. -/
theorem toOption_blankText_append (h : Head) (s t : String) :
    (blankText h (s ++ t)).toOption = (blankText h s >>= fun _ => blankText h t).toOption := by
  have happend : Blank (s ++ t) ↔ Blank s ∧ Blank t := by
    simp only [Blank, String.toList_append, List.mem_append, or_imp, forall_and]
  refine toOption_eq_of_accepts_iff ?_
  rw [accepts_bind_const fun _ => accepts_blankText, accepts_blankText, accepts_blankText, happend]

/-- The reader wants texts to be blank, and passes over what is neither text nor element. -/
structure PassesOver {α : Type} (h : Head) (read : List Node → Read α) : Prop where
  text (s : String) (rest : List Node) :
    (read (.text s :: rest)).toOption = (blankText h s >>= fun _ => read rest).toOption
  comment (s : String) (rest : List Node) :
    (read (.comment s :: rest)).toOption = (read rest).toOption
  instruction (target data : String) (rest : List Node) :
    (read (.instruction target data :: rest)).toOption = (read rest).toOption
  reference (name : String) (rest : List Node) :
    (read (.reference name :: rest)).toOption = (read rest).toOption

namespace PassesOver
variable {α : Type} {h h' : Head}

/-- Two families of such readers, in which each reader goes on with others of its family, give the
same if they do on the elements. -/
theorem toOption_congr {σ : Type} {read read' : σ → List Node → Read α}
    (hread : ∀ s, PassesOver h (read s)) (hread' : ∀ s, PassesOver h' (read' s))
    (hnil : ∀ s, (read s []).toOption = (read' s []).toOption) {content : List Node}
    (helement : ∀ e ∈ elements content, ∀ (rest : List Node),
      (∀ s, (read s rest).toOption = (read' s rest).toOption) → ∀ s,
        (read s (.element e.1 e.2 :: rest)).toOption =
          (read' s (.element e.1 e.2 :: rest)).toOption) :
    ∀ s, (read s content).toOption = (read' s content).toOption := by
  induction content with
  | nil => exact hnil
  | cons node rest ih =>
    intro s
    cases node with
    | text t =>
      rw [(hread s).text, (hread' s).text]
      exact toOption_bind_congr (toOption_blankText_head h h' t) fun _ => ih helement s
    | comment t =>
      rw [(hread s).comment, (hread' s).comment]
      exact ih helement s
    | instruction target data =>
      rw [(hread s).instruction, (hread' s).instruction]
      exact ih helement s
    | reference name =>
      rw [(hread s).reference, (hread' s).reference]
      exact ih helement s
    | element inner content =>
      obtain ⟨hfirst, hrest⟩ := List.forall_mem_cons.1 helement
      exact hfirst rest (ih hrest) s

variable {read : List Node → Read α} (hread : PassesOver h read)
include hread

/-- To such a reader it does not matter whether a text is one or two. -/
theorem toOption_consText (s : String) (content : List Node) :
    (read (Xml.consText s content)).toOption = (read (.text s :: content)).toOption := by
  unfold Xml.consText
  split
  · rename_i t rest
    rw [hread.text, hread.text, toOption_bind, toOption_bind, hread.text, toOption_bind,
      toOption_blankText_append, toOption_bind]
    cases (blankText h s).toOption <;> rfl
  · rfl

/-- And neither does what it passes over. -/
theorem stripped : PassesOver h fun content => read (Xml.strippedIn content) where
  text s rest := by rw [Xml.strippedIn_text, hread.toOption_consText, hread.text]
  comment s rest := by rw [Xml.strippedIn_comment]
  instruction target data rest := by rw [Xml.strippedIn_instruction]
  reference name rest := by rw [Xml.strippedIn_reference, hread.reference]

end PassesOver

/-! ## Elements that hold text -/

section
variable (h : Head) (content : List Node)

theorem toOption_attributeOrText_stripped (name : String) :
    (attributeOrText h name (Xml.strippedIn content)).toOption =
      (attributeOrText h name content).toOption := by
  rw [toOption_eq_iff]
  intro value
  rw [attributeOrText_eq_ok_iff, attributeOrText_eq_ok_iff, elements_strippedIn,
    noText_strippedIn, body_strippedIn, List.map_eq_nil_iff]

theorem toOption_assignment_stripped (defaultOnly : Bool) :
    (assignment h (Xml.strippedIn content) defaultOnly).toOption =
      (assignment h content defaultOnly).toOption :=
  toOption_bind_congr rfl fun _ =>
    toOption_bind_congr (toOption_attributeOrText_stripped h content "value") fun _ => rfl

theorem toOption_error_stripped :
    (error h (Xml.strippedIn content)).toOption = (error h content).toOption :=
  toOption_bind_congr (toOption_attributeOrText_stripped h content "message") fun _ => rfl

theorem toOption_rowStatement_stripped (t : Columns) :
    (rowStatement t h (Xml.strippedIn content)).toOption = (rowStatement t h content).toOption :=
  toOption_bind_congr (toOption_attributeOrText_stripped h content "value") fun _ => rfl

theorem toOption_row_stripped (t : Columns) :
    (row t h (Xml.strippedIn content)).toOption = (row t h content).toOption :=
  toOption_bind_congr rfl fun _ =>
    toOption_bind_congr (toOption_rowStatement_stripped h content t) fun _ => rfl

end

/-! ## Tables -/

theorem passesOver_rows (t : Columns) (h : Head) (last : Option Statement) :
    PassesOver h (rows t h last) where
  text s rest := by rw [rows]
  comment s rest := by rw [rows] <;> simp
  instruction target data rest := by rw [rows] <;> simp
  reference name rest := by rw [rows] <;> simp

theorem toOption_rows_stripped (t : Columns) (h : Head) (content : List Node) :
    ∀ last, (rows t h last (Xml.strippedIn content)).toOption =
      (rows t h last content).toOption := by
  refine PassesOver.toOption_congr (fun last => (passesOver_rows t h last).stripped)
    (passesOver_rows t h) (fun _ => by rw [Xml.strippedIn_nil]) fun e _ rest hrest last => ?_
  rw [Xml.strippedIn_element, rows, rows]
  refine toOption_guard_congr (toOption_guard_congr ?_)
  split
  · exact toOption_bind_congr (toOption_row_stripped e.1 e.2 t) fun _ =>
      toOption_bind_congr (hrest last) fun _ => rfl
  · exact toOption_bind_congr (toOption_rowStatement_stripped e.1 e.2 t) fun s => hrest (some s)

theorem toOption_table_stripped (h : Head) (content : List Node) (defaultOnly : Bool) :
    (table h (Xml.strippedIn content) defaultOnly).toOption =
      (table h content defaultOnly).toOption := by
  refine toOption_bind_congr rfl fun _ => toOption_bind_congr rfl fun _ =>
    toOption_bind_congr rfl fun _ => toOption_bind_congr rfl fun _ => ?_
  exact toOption_bind_congr (toOption_rows_stripped _ h content none) fun _ => rfl

/-! ## Elements with a body -/

section
variable {h : Head} {r r' : Read Statement}

theorem toOption_branch_congr (hr : r.toOption = r'.toOption) (negated : Bool) :
    (branch h negated r).toOption = (branch h negated r').toOption := by
  refine toOption_bind_congr rfl fun _ => toOption_guard_congr ?_
  exact toOption_bind_congr hr fun _ => rfl

theorem toOption_choice_congr (hr : r.toOption = r'.toOption) (negated : Bool) :
    (choice h negated r).toOption = (choice h negated r').toOption :=
  toOption_bind_congr (toOption_branch_congr hr negated) fun _ => rfl

theorem toOption_matchPattern_congr (hr : r.toOption = r'.toOption) :
    (matchPattern h r).toOption = (matchPattern h r').toOption :=
  toOption_bind_congr rfl fun _ => toOption_bind_congr rfl fun _ =>
    toOption_bind_congr hr fun _ => rfl

end

/-! ## Blocks and branches -/

theorem passesOver_block (h : Head) : PassesOver h (block h) := by
  have hskip : ∀ (node : Node) (rest : List Node), statement node = .ok none →
      (∀ s, node ≠ .text s) → (block h (node :: rest)).toOption = (block h rest).toOption := by
    intro node rest hnode htext
    rw [block, hnode]
    · cases block h rest <;> rfl
    · exact htext
  constructor
  · intro s rest
    rw [block]
  · intro s rest
    exact hskip _ rest (statement_eq_none (by simp)) (by simp)
  · intro target data rest
    exact hskip _ rest (statement_eq_none (by simp)) (by simp)
  · intro name rest
    exact hskip _ rest (statement_eq_none (by simp)) (by simp)

theorem passesOver_branches (h : Head) (last : Option Statement) :
    PassesOver h (branches h last) where
  text s rest := by rw [branches]
  comment s rest := by rw [branches] <;> simp
  instruction target data rest := by rw [branches] <;> simp
  reference name rest := by rw [branches] <;> simp

/-- Branches are read as before if the blocks in them are. -/
theorem toOption_branches_stripped (h : Head) {content : List Node}
    (hblock : ∀ e ∈ elements content,
      (block e.1 (Xml.strippedIn e.2)).toOption = (block e.1 e.2).toOption) :
    ∀ last, (branches h last (Xml.strippedIn content)).toOption =
      (branches h last content).toOption := by
  refine PassesOver.toOption_congr (fun last => (passesOver_branches h last).stripped)
    (passesOver_branches h) (fun _ => by rw [Xml.strippedIn_nil]) fun e he rest hrest last => ?_
  have hbody := toOption_map_congr (hblock e he) Statement.block
  rw [Xml.strippedIn_element, branches, branches]
  refine toOption_bind_congr rfl fun _ => ?_
  split
  · exact toOption_bind_congr (hblock e he) fun body => hrest (some (.block body))
  · exact toOption_bind_congr (toOption_branch_congr hbody _) fun _ =>
      toOption_bind_congr (hrest last) fun _ => rfl

mutual

theorem toOption_statement_stripped (h : Head) (content : List Node) :
    (statement (.element h (Xml.strippedIn content))).toOption =
      (statement (.element h content)).toOption := by
  have hbody := toOption_map_congr (toOption_block_stripped h content) Statement.block
  have hinner : ∀ e ∈ elements content,
      (block e.1 (Xml.strippedIn e.2)).toOption = (block e.1 e.2).toOption := fun e _ =>
    toOption_block_stripped e.1 e.2
  rw [statement, statement]
  split
  · exact toOption_map_congr (toOption_assignment_stripped h content false) some
  · exact toOption_map_congr (toOption_assignment_stripped h content true) some
  · exact toOption_map_congr (toOption_choice_congr hbody false) some
  · exact toOption_map_congr (toOption_choice_congr hbody true) some
  · exact toOption_bind_congr (toOption_branches_stripped h hinner none) fun _ => rfl
  · exact toOption_map_congr (toOption_table_stripped h content false) some
  · exact toOption_map_congr (toOption_table_stripped h content true) some
  · exact toOption_map_congr (toOption_matchPattern_congr hbody) some
  · exact toOption_map_congr (toOption_error_stripped h content) some
  · rfl
  · rfl
termination_by sizeOf (Node.element h content)
decreasing_by
  · exact sizeOf_content_lt
  · exact Nat.lt_trans (Nat.lt_trans sizeOf_content_lt (sizeOf_lt_of_mem_elements ‹_›))
      sizeOf_content_lt

theorem toOption_block_stripped (h : Head) (content : List Node) :
    (block h (Xml.strippedIn content)).toOption = (block h content).toOption := by
  have hstatement : ∀ e ∈ elements content,
      (statement (.element e.1 (Xml.strippedIn e.2))).toOption =
        (statement (.element e.1 e.2)).toOption := fun e _ =>
    toOption_statement_stripped e.1 e.2
  refine PassesOver.toOption_congr (σ := Unit) (fun _ => (passesOver_block h).stripped)
    (fun _ => passesOver_block h) (fun _ => by rw [Xml.strippedIn_nil])
    (fun e he rest hrest _ => ?_) ()
  simp only [Xml.strippedIn_element, block]
  exact toOption_bind_congr (hstatement e he) fun _ => toOption_bind_congr (hrest ()) fun _ => rfl
termination_by sizeOf content
decreasing_by exact sizeOf_lt_of_mem_elements ‹_›

end

theorem toOption_document_stripped (root : Node) :
    (document root.stripped).toOption = (document root).toOption := by
  cases root with
  | element h content =>
    rw [Node.stripped, document, document]
    split
    · exact toOption_block_stripped h content
    · rfl
  | text | comment | instruction | reference => simp [Node.stripped]

/-- **Comments and instructions are invisible.** Without them a tree is accepted if and only if it
is with them, and both give the same statements; so two files whose trees are the same without them
are both accepted, with the same statements, or both refused. -/
theorem document_reads_stripped :
    (∀ (h : Head) (content : List Node), Xml.BareIn (Xml.strippedIn content) ∧
      ∀ body, document (.element h (Xml.strippedIn content)) = .ok body ↔
        document (.element h content) = .ok body) ∧
    ∀ (bytes bytes' : List UInt8) (root root' : Node), Xml.parse bytes = .ok root →
      Xml.parse bytes' = .ok root' → root.stripped = root'.stripped →
      ∀ body, Document.xmlBody bytes = .ok body ↔ Document.xmlBody bytes' = .ok body := by
  constructor
  · intro h content
    refine ⟨Xml.bareIn_strippedIn content, toOption_eq_iff.1 ?_⟩
    have hroot := toOption_document_stripped (.element h content)
    rwa [Node.stripped] at hroot
  · intro bytes bytes' root root' hparse hparse' hsame
    rw [Document.xmlBody, Document.xmlBody, hparse, hparse']
    refine toOption_eq_iff.1 ?_
    rw [← toOption_document_stripped root, hsame, toOption_document_stripped root']

/-- The bytes of an entry whose text is cut by a comment and an instruction. -/
def commentedSample : List UInt8 :=
  "<properties><entry key='k'>1<!--,-->2<?p?></entry><!--.--></properties>".toUTF8.toList

set_option maxRecDepth 10000 in
/-- Its value is the text without them. -/
theorem document_reads_stripped_sample : Document.xmlBody commentedSample =
    .ok [.assign { key := .template ⟨"k", []⟩, value := .template ⟨"12", []⟩, defaultOnly := false,
                   encrypted := false }] := by
  have hparse : Xml.parse commentedSample = .ok (.element ⟨"properties", [], 1⟩
      [.element ⟨"entry", [("key", "k")], 1⟩
        [.text "1", .comment ",", .text "2", .instruction "p" ""], .comment "."]) := by cbv
  have hbare : Xml.parse "<properties><entry key='k'>12</entry></properties>".toUTF8.toList =
      .ok (.element ⟨"properties", [], 1⟩
        [.element ⟨"entry", [("key", "k")], 1⟩ [.text "12"]]) := by cbv
  refine (document_reads_stripped.2 _ _ _ _ hparse hbare ?_ _).2 ?_
  · simp [Node.stripped, Xml.consText]
  rw [Document.xmlBody, hbare]
  rfl

end Grammar

end PropertyDocs
