import Mathlib
import PropertyDocs.Proofs.Acceptance
import PropertyDocs.Proofs.Execution

/-!
# Where statements come from

Every statement of a document that was read, at any depth, stands for an element of the tree with a
tag for statements of its form, has no foreign parts and no test that is negated twice. Each reader
of the grammar says which statements it gives; an induction over elements in elements joins them.
-/
namespace PropertyDocs

namespace Xml

mutual

/-- The tags of the elements in a node, at any depth. -/
def Node.tags : Node → List String
  | .element h content => h.tag :: tagsIn content
  | _ => []

def tagsIn : List Node → List String
  | [] => []
  | n :: rest => n.tags ++ tagsIn rest

end

theorem mem_tagsIn {n : Node} {content : List Node} (hn : n ∈ content) {tag : String}
    (htag : tag ∈ n.tags) : tag ∈ tagsIn content := by
  induction content with
  | nil => simp at hn
  | cons m rest ih =>
    rw [tagsIn]
    rcases List.mem_cons.1 hn with rfl | hn
    · exact List.mem_append_left _ htag
    · exact List.mem_append_right _ (ih hn)

end Xml

/-! ## Forms that an evaluation knows -/

def Expression.Known : Expression → Prop
  | .template _ | .literal _ => True
  | .foreign _ => False

def Test.Known : Test → Prop
  | .truthy key => key.Known
  | .equals key value _ => key.Known ∧ value.Known
  | .matchesPattern key _ => key.Known
  | .not test => test.Known
  | .foreign _ => False

/-- No negation stands directly in another one. -/
def Test.NegatedOnce : Test → Prop
  | .not test => ∀ t, test ≠ .not t
  | _ => True

namespace Statement

/-- The statement is not foreign, and neither are the expressions and tests in it; the statements
in it do not count. -/
def Known : Statement → Prop
  | .assign a => a.key.Known ∧ a.value.Known
  | .block _ => True
  | .choose whens _ => ∀ w ∈ whens, w.1.Known
  | .table selector _ _ _ => selector.Known
  | .matchPattern value _ _ => value.Known
  | .error message => message.Known
  | .foreign _ => False

/-- The tests of the statement are negated once at most; the statements in it do not count. -/
def NegatedOnce : Statement → Prop
  | .choose whens _ => ∀ w ∈ whens, w.1.NegatedOnce
  | _ => True

/-- The tags of the elements that hold blocks. -/
def blockTags : List String :=
  ["properties", "if", "unless", "when", "otherwise", "matchPattern"]

/-- The tags of the elements that a statement of this form can come from. -/
def tags : Statement → List String
  | .assign a => if a.defaultOnly then ["default", "defaultTable"] else ["entry", "entryTable"]
  | .block _ => blockTags
  | .choose .. => ["if", "unless", "choose"]
  | .table .. => ["entryTable", "defaultTable"]
  | .matchPattern .. => ["matchPattern"]
  | .error _ => ["error"]
  | .foreign _ => []

/-- The tree has an element that the statement can come from, and the statement is known and has no
test that is negated twice. -/
structure IsIn (t : Statement) (root : Xml.Node) : Prop where
  known : t.Known
  negatedOnce : t.NegatedOnce
  tag : ∃ tag ∈ root.tags, tag ∈ t.tags

/-- The statement and all those in it come from elements of the tree. -/
def AllIn (s : Statement) (root : Xml.Node) : Prop := ∀ t, s.Contains t → t.IsIn root

theorem AllIn.inner {s : Statement} {n : Xml.Node} {h : Xml.Head} {content : List Xml.Node}
    (hs : s.AllIn n) (hn : n ∈ content) : s.AllIn (.element h content) := by
  intro t ht
  obtain ⟨hknown, hnegated, tag, hroot, htag⟩ := hs t ht
  refine ⟨hknown, hnegated, tag, ?_, htag⟩
  rw [Xml.Node.tags]
  exact List.mem_cons_of_mem _ (Xml.mem_tagsIn hn hroot)

/-- All is in the tree if the statement is, and all in the statements in it is. -/
theorem AllIn.of_children {s : Statement} {root : Xml.Node} (hs : s.IsIn root)
    (hchild : ∀ t ∈ s.children, t.AllIn root) : s.AllIn root := by
  intro t ht
  cases ht with
  | self => exact hs
  | inner hu hc => exact hchild _ hu t hc

/-- A statement that comes from the element at hand. -/
theorem isIn_of_tag {s : Statement} {h : Xml.Head} {content : List Xml.Node} (hknown : s.Known)
    (hnegated : s.NegatedOnce) (htag : h.tag ∈ s.tags) : s.IsIn (.element h content) :=
  ⟨hknown, hnegated, h.tag, by simp [Xml.Node.tags], htag⟩

end Statement

namespace Grammar

open Xml (Head Node)
open Schema (sizeOf_content_lt)

/-! ## Results of readers -/

section
variable {α β : Type}

theorem bind_eq_ok_iff {r : Read α} {f : α → Read β} {b : β} :
    (r >>= f) = .ok b ↔ ∃ a, r = .ok a ∧ f a = .ok b := by
  cases r with
  | error e => simp [bind, Except.bind]
  | ok a => simp [bind, Except.bind]

theorem map_eq_ok_iff {r : Read α} {f : α → β} {b : β} :
    r.map f = .ok b ↔ ∃ a, r = .ok a ∧ f a = b := by
  cases r <;> simp [Except.map]

theorem map_some_eq_ok_iff {r : Read α} {a : α} : r.map some = .ok (some a) ↔ r = .ok a := by
  simp [map_eq_ok_iff]

theorem guard_eq_ok_iff {c : Prop} [Decidable c] {h : Head} {cause : Defect} {f : α → Read β}
    {r : Read β} {b : β} : (if c then refuse h cause >>= f else r) = .ok b ↔ ¬ c ∧ r = .ok b := by
  split
  · rename_i hc
    simp [bind_eq_ok_iff, refuse, hc]
  · rename_i hc
    simp [hc]

@[simp] theorem pure_eq_ok_iff {a b : α} : (pure a : Read α) = .ok b ↔ a = b := by
  simp [pure, Except.pure]

end

section
variable {h : Head} {content : List Node}

theorem known_of_template {text : String} {e : Expression} (hr : template h text = .ok e) :
    e.Known := by
  unfold template at hr
  split at hr
  · obtain rfl : _ = e := Except.ok.inj hr
    trivial
  · simp [refuse] at hr

/-- An assignment of the given kind, of known expressions. -/
def IsAssignment (defaultOnly : Bool) (s : Statement) : Prop :=
  ∃ a, s = .assign a ∧ a.defaultOnly = defaultOnly ∧ s.Known

theorem isAssignment_of_assignment {defaultOnly : Bool} {s : Statement}
    (hr : assignment h content defaultOnly = .ok s) : IsAssignment defaultOnly s := by
  simp only [assignment, bind_eq_ok_iff, pure_eq_ok_iff] at hr
  obtain ⟨_, -, _, -, key, hkey, value, hvalue, rfl⟩ := hr
  exact ⟨_, rfl, rfl, known_of_template hkey, known_of_template hvalue⟩

theorem isAssignment_of_rowStatement {t : Columns} (ht : t.key.Known) {s : Statement}
    (hr : rowStatement t h content = .ok s) : IsAssignment t.defaultOnly s := by
  simp only [rowStatement, bind_eq_ok_iff, pure_eq_ok_iff] at hr
  obtain ⟨_, -, value, hvalue, rfl⟩ := hr
  exact ⟨_, rfl, rfl, ht, known_of_template hvalue⟩

theorem isAssignment_of_row {t : Columns} (ht : t.key.Known) {r : Pattern × Statement}
    (hr : row t h content = .ok r) : IsAssignment t.defaultOnly r.2 := by
  simp only [row, bind_eq_ok_iff, pure_eq_ok_iff] at hr
  obtain ⟨_, -, s, hs, _, -, rfl⟩ := hr
  exact isAssignment_of_rowStatement ht hs

/-- The rows of a table are assignments of its kind. -/
theorem isAssignment_of_rows {t : Columns} (ht : t.key.Known) {last last' : Option Statement}
    {rs : List (Pattern × Statement)} (hlast : ∀ s ∈ last, IsAssignment t.defaultOnly s)
    (hr : rows t h last content = .ok (rs, last')) :
    ∀ s ∈ rs.map (·.2) ++ last'.toList, IsAssignment t.defaultOnly s := by
  induction content generalizing last rs with
  | nil =>
    obtain ⟨rfl, rfl⟩ : [] = rs ∧ last = last' := by simpa [rows] using hr
    simpa using hlast
  | cons node rest ih =>
    cases node with
    | text s =>
      simp only [rows, bind_eq_ok_iff] at hr
      obtain ⟨_, -, hr⟩ := hr
      exact ih hlast hr
    | comment | instruction | reference =>
      simp only [rows] at hr
      exact ih hlast hr
    | element inner content =>
      simp only [rows, guard_eq_ok_iff] at hr
      obtain ⟨-, -, hr⟩ := hr
      split at hr
      · simp only [bind_eq_ok_iff, pure_eq_ok_iff, Prod.mk.injEq, Prod.exists] at hr
        obtain ⟨pattern, s, hrow, rs, _, hrest, rfl, rfl⟩ := hr
        intro s' hs'
        rcases List.mem_cons.1 hs' with rfl | hs'
        · exact isAssignment_of_row ht hrow
        · exact ih hlast hrest s' hs'
      · simp only [bind_eq_ok_iff] at hr
        obtain ⟨s, hs, hrest⟩ := hr
        have hrow := isAssignment_of_rowStatement ht hs
        exact ih (by simpa using hrow) hrest

theorem known_of_table {defaultOnly : Bool} {s : Statement}
    (hr : table h content defaultOnly = .ok s) :
    (∃ selector separator rs last, s = .table selector separator rs last) ∧ s.Known ∧
      ∀ t ∈ s.children, IsAssignment defaultOnly t := by
  simp only [table, bind_eq_ok_iff, pure_eq_ok_iff, Prod.exists] at hr
  obtain ⟨_, -, key, hkey, _, -, selector, hselector, rs, last, hrows, rfl⟩ := hr
  exact ⟨⟨selector, _, rs, last, rfl⟩, known_of_template hselector,
    isAssignment_of_rows (known_of_template hkey) (by simp) hrows⟩

theorem known_of_error {s : Statement} (hr : error h content = .ok s) :
    ∃ message, s = .error message ∧ s.Known := by
  simp only [error, bind_eq_ok_iff, pure_eq_ok_iff] at hr
  obtain ⟨_, -, message, hmessage, rfl⟩ := hr
  exact ⟨message, rfl, known_of_template hmessage⟩

variable {body : Read Statement}

/-- The test of a branch is one that is no negation, or the negation of such a test. -/
theorem exists_test_of_branch {negated : Bool} {b : Test × Statement}
    (hr : branch h negated body = .ok b) : ∃ test : Test, test.Known ∧ (∀ t, test ≠ .not t) ∧
      b.1 = (if negated != isTrue (h.attribute? "invert") then .not test else test) ∧
      body = .ok b.2 := by
  simp only [branch, bind_eq_ok_iff, guard_eq_ok_iff] at hr
  obtain ⟨_, -, -, inner, hbody, key, hkey, hr⟩ := hr
  split at hr
  · simp only [bind_eq_ok_iff, map_eq_ok_iff, pure_eq_ok_iff] at hr
    obtain ⟨_, ⟨value, hvalue, rfl⟩, rfl⟩ := hr
    have hknown := And.intro (known_of_template hkey) (known_of_template hvalue)
    exact ⟨.equals key value _, hknown, nofun, rfl, hbody⟩
  · simp only [bind_eq_ok_iff, map_eq_ok_iff, pure_eq_ok_iff] at hr
    obtain ⟨_, ⟨pattern, -, rfl⟩, rfl⟩ := hr
    exact ⟨.matchesPattern key pattern, known_of_template hkey, nofun, rfl, hbody⟩
  · simp only [bind_eq_ok_iff, pure_eq_ok_iff] at hr
    obtain ⟨_, rfl, rfl⟩ := hr
    exact ⟨.truthy key, known_of_template hkey, nofun, rfl, hbody⟩

theorem known_of_branch {negated : Bool} {b : Test × Statement}
    (hr : branch h negated body = .ok b) : b.1.Known ∧ b.1.NegatedOnce ∧ body = .ok b.2 := by
  obtain ⟨test, hknown, hplain, hb, hbody⟩ := exists_test_of_branch hr
  rw [hb]
  split
  · exact ⟨hknown, hplain, hbody⟩
  · refine ⟨hknown, ?_, hbody⟩
    cases test with
    | not test => exact absurd rfl (hplain test)
    | truthy | equals | matchesPattern | foreign => trivial

theorem known_of_choice {negated : Bool} {s : Statement} (hr : choice h negated body = .ok s) :
    ∃ test inner, s = .choose [(test, inner)] none ∧ s.Known ∧ s.NegatedOnce ∧
      body = .ok inner := by
  simp only [choice, bind_eq_ok_iff, pure_eq_ok_iff] at hr
  obtain ⟨b, hb, rfl⟩ := hr
  obtain ⟨hknown, hnegated, hbody⟩ := known_of_branch hb
  exact ⟨b.1, b.2, rfl, by simpa [Statement.Known] using hknown,
    by simpa [Statement.NegatedOnce] using hnegated, hbody⟩

theorem known_of_matchPattern {s : Statement} (hr : matchPattern h body = .ok s) :
    ∃ value pattern inner, s = .matchPattern value pattern inner ∧ s.Known ∧ body = .ok inner := by
  simp only [matchPattern, bind_eq_ok_iff, pure_eq_ok_iff] at hr
  obtain ⟨_, -, _, -, inner, hbody, value, hvalue, pattern, -, rfl⟩ := hr
  exact ⟨value, pattern, inner, rfl, known_of_template hvalue, hbody⟩

/-! ## Blocks and branches -/

/-- The statements of a block are those of the elements in it. -/
theorem exists_element_of_block {ss : List Statement} (hr : block h content = .ok ss)
    {s : Statement} (hs : s ∈ ss) :
    ∃ inner c, .element inner c ∈ content ∧ statement (.element inner c) = .ok (some s) := by
  induction content generalizing ss with
  | nil =>
    obtain rfl : [] = ss := by simpa [block] using hr
    simp at hs
  | cons node rest ih =>
    have hlater : ∀ {ss : List Statement}, block h rest = .ok ss → s ∈ ss →
        ∃ inner c, .element inner c ∈ node :: rest ∧
          statement (.element inner c) = .ok (some s) := fun hrest hs => by
      obtain ⟨inner, c, hmem, hstatement⟩ := ih hrest hs
      exact ⟨inner, c, List.mem_cons_of_mem _ hmem, hstatement⟩
    cases node with
    | text s =>
      simp only [block, bind_eq_ok_iff] at hr
      obtain ⟨_, -, hrest⟩ := hr
      exact hlater hrest hs
    | comment | instruction | reference =>
      simp only [block, statement, bind_eq_ok_iff, pure_eq_ok_iff] at hr
      obtain ⟨first, hfirst, rest, hrest, rfl⟩ := hr
      obtain rfl : none = first := Except.ok.inj hfirst
      exact hlater hrest (by simpa using hs)
    | element inner c =>
      simp only [block, bind_eq_ok_iff, pure_eq_ok_iff] at hr
      obtain ⟨first, hfirst, rest, hrest, rfl⟩ := hr
      rcases List.mem_append.1 hs with hs | hs
      · obtain rfl : first = some s := Option.mem_toList.1 hs
        exact ⟨inner, c, List.mem_cons_self, hfirst⟩
      · exact hlater hrest hs

/-- What holds of the blocks of the branches in an element, holds of the branches read from it. -/
theorem forall_of_branches {P : Statement → Prop} {last last' : Option Statement}
    {bs : List (Test × Statement)} (hlast : ∀ s ∈ last, P s)
    (hblock : ∀ inner c ss, .element inner c ∈ content →
      inner.tag = "when" ∨ inner.tag = "unless" ∨ inner.tag = "otherwise" →
      block inner c = .ok ss → P (.block ss))
    (hr : branches h last content = .ok (bs, last')) :
    (∀ b ∈ bs, b.1.Known ∧ b.1.NegatedOnce) ∧ ∀ s ∈ bs.map (·.2) ++ last'.toList, P s := by
  induction content generalizing last bs with
  | nil =>
    obtain ⟨rfl, rfl⟩ : [] = bs ∧ last = last' := by simpa [branches] using hr
    exact ⟨by simp, by simpa using hlast⟩
  | cons node rest ih =>
    have hlater := fun inner c ss hmem => hblock inner c ss (List.mem_cons_of_mem node hmem)
    cases node with
    | text s =>
      simp only [branches, bind_eq_ok_iff] at hr
      obtain ⟨_, -, hrest⟩ := hr
      exact ih hlast hlater hrest
    | comment | instruction | reference =>
      simp only [branches] at hr
      exact ih hlast hlater hr
    | element inner c =>
      simp only [branches, bind_eq_ok_iff] at hr
      obtain ⟨_, hcheck, hr⟩ := hr
      have htag := (accepts_checkBranch.1 ⟨_, hcheck⟩).1
      split at hr
      · simp only [bind_eq_ok_iff] at hr
        obtain ⟨ss, hss, hrest⟩ := hr
        refine ih ?_ hlater hrest
        simpa using hblock inner c ss List.mem_cons_self htag hss
      · simp only [bind_eq_ok_iff, pure_eq_ok_iff, Prod.mk.injEq, Prod.exists] at hr
        obtain ⟨test, s, hbranch, bs, _, hrest, rfl, rfl⟩ := hr
        obtain ⟨hknown, hnegated, hbody⟩ := known_of_branch hbranch
        obtain ⟨ss, hss, rfl⟩ := map_eq_ok_iff.1 hbody
        obtain ⟨htests, hbodies⟩ := ih hlast hlater hrest
        refine ⟨List.forall_mem_cons.2 ⟨⟨hknown, hnegated⟩, htests⟩, ?_⟩
        exact List.forall_mem_cons.2 ⟨hblock inner c ss List.mem_cons_self htag hss, hbodies⟩

end

/-! ## Documents -/

/-- A block and what is in it comes from the element that holds it. -/
theorem allIn_block_of {h : Head} {content : List Node} (htag : h.tag ∈ Statement.blockTags)
    {ss : List Statement} (hss : ∀ s ∈ ss, s.AllIn (.element h content)) :
    (Statement.block ss).AllIn (.element h content) :=
  .of_children (Statement.isIn_of_tag trivial trivial htag) hss

/-- An assignment comes from an element of its own, or from the table that it is a row of. -/
theorem allIn_of_isAssignment {defaultOnly : Bool} {s : Statement} {h : Head} {content : List Node}
    (hs : IsAssignment defaultOnly s)
    (htag : h.tag ∈ if defaultOnly then ["default", "defaultTable"] else ["entry", "entryTable"]) :
    s.AllIn (.element h content) := by
  obtain ⟨a, rfl, hdefault, hknown⟩ := hs
  exact .of_children (Statement.isIn_of_tag hknown trivial (by rwa [Statement.tags, hdefault]))
    (by simp [Statement.children])

theorem allIn_of_table {defaultOnly : Bool} {s : Statement} {h : Head} {content : List Node}
    (htag : h.tag = if defaultOnly then "defaultTable" else "entryTable")
    (hr : table h content defaultOnly = .ok s) : s.AllIn (.element h content) := by
  obtain ⟨⟨selector, separator, rs, last, rfl⟩, hknown, hrows⟩ := known_of_table hr
  refine .of_children (Statement.isIn_of_tag hknown trivial ?_) fun t ht =>
    allIn_of_isAssignment (hrows t ht) ?_
  · cases defaultOnly <;> simp [htag, Statement.tags]
  · cases defaultOnly <;> simp [htag]

theorem allIn_of_choice {negated : Bool} {s : Statement} {h : Head} {content : List Node}
    (htag : h.tag = "if" ∨ h.tag = "unless")
    (hblock : ∀ ss, block h content = .ok ss → (Statement.block ss).AllIn (.element h content))
    (hr : choice h negated ((block h content).map .block) = .ok s) :
    s.AllIn (.element h content) := by
  obtain ⟨test, inner, rfl, hknown, hnegated, hbody⟩ := known_of_choice hr
  obtain ⟨ss, hss, rfl⟩ := map_eq_ok_iff.1 hbody
  refine .of_children (Statement.isIn_of_tag hknown hnegated ?_) ?_
  · rcases htag with htag | htag <;> simp [htag, Statement.tags]
  · simpa [Statement.children] using hblock ss hss

theorem allIn_of_matchPattern {s : Statement} {h : Head} {content : List Node}
    (htag : h.tag = "matchPattern")
    (hblock : ∀ ss, block h content = .ok ss → (Statement.block ss).AllIn (.element h content))
    (hr : matchPattern h ((block h content).map .block) = .ok s) :
    s.AllIn (.element h content) := by
  obtain ⟨value, pattern, inner, rfl, hknown, hbody⟩ := known_of_matchPattern hr
  obtain ⟨ss, hss, rfl⟩ := map_eq_ok_iff.1 hbody
  refine .of_children (Statement.isIn_of_tag hknown trivial (by simp [htag, Statement.tags])) ?_
  simpa [Statement.children] using hblock ss hss

mutual

theorem allIn_of_statement (h : Head) (content : List Node) (s : Statement)
    (hr : statement (.element h content) = .ok (some s)) : s.AllIn (.element h content) := by
  have hown : h.tag ∈ Statement.blockTags → ∀ ss, block h content = .ok ss →
      (Statement.block ss).AllIn (.element h content) := fun htag ss hss =>
    allIn_of_block h content htag ss hss
  rw [statement] at hr
  split at hr
  · rename_i htag
    exact allIn_of_isAssignment (isAssignment_of_assignment (map_some_eq_ok_iff.1 hr))
      (by simp [htag])
  · rename_i htag
    exact allIn_of_isAssignment (isAssignment_of_assignment (map_some_eq_ok_iff.1 hr))
      (by simp [htag])
  · rename_i htag
    exact allIn_of_choice (.inl htag) (hown (by simp [htag, Statement.blockTags]))
      (map_some_eq_ok_iff.1 hr)
  · rename_i htag
    exact allIn_of_choice (.inr htag) (hown (by simp [htag, Statement.blockTags]))
      (map_some_eq_ok_iff.1 hr)
  · rename_i htag
    simp only [bind_eq_ok_iff, pure_eq_ok_iff, Prod.exists, Option.some.injEq] at hr
    obtain ⟨bs, last, hbranches, rfl⟩ := hr
    -- a branch is a block of an element inside this one
    have hinner : ∀ inner c ss, .element inner c ∈ content →
        inner.tag = "when" ∨ inner.tag = "unless" ∨ inner.tag = "otherwise" →
        block inner c = .ok ss → (Statement.block ss).AllIn (.element h content) := by
      intro inner c ss hmem hbranch hss
      have hholds : inner.tag ∈ Statement.blockTags := by
        rcases hbranch with hbranch | hbranch | hbranch <;> simp [hbranch, Statement.blockTags]
      exact (allIn_of_block inner c hholds ss hss).inner hmem
    obtain ⟨htests, hbodies⟩ := forall_of_branches
      (P := (·.AllIn (.element h content))) (by simp) hinner hbranches
    exact .of_children (Statement.isIn_of_tag (fun b hb => (htests b hb).1)
      (fun b hb => (htests b hb).2) (by simp [htag, Statement.tags])) hbodies
  · exact allIn_of_table ‹_› (map_some_eq_ok_iff.1 hr)
  · exact allIn_of_table ‹_› (map_some_eq_ok_iff.1 hr)
  · rename_i htag
    exact allIn_of_matchPattern htag (hown (by simp [htag, Statement.blockTags]))
      (map_some_eq_ok_iff.1 hr)
  · rename_i htag
    obtain ⟨message, rfl, hknown⟩ := known_of_error (map_some_eq_ok_iff.1 hr)
    exact .of_children (Statement.isIn_of_tag hknown trivial (by simp [htag, Statement.tags]))
      (by simp [Statement.children])
  · simp at hr
  · simp [refuse] at hr
termination_by sizeOf (Node.element h content)
decreasing_by
  · exact sizeOf_content_lt
  · exact Nat.lt_trans (Nat.lt_trans sizeOf_content_lt (List.sizeOf_lt_of_mem hmem))
      sizeOf_content_lt

theorem allIn_of_block (h : Head) (content : List Node) (htag : h.tag ∈ Statement.blockTags)
    (ss : List Statement) (hr : block h content = .ok ss) :
    (Statement.block ss).AllIn (.element h content) := by
  refine allIn_block_of htag fun s hs => ?_
  obtain ⟨inner, c, hmem, hstatement⟩ := exists_element_of_block hr hs
  exact (allIn_of_statement inner c s hstatement).inner hmem
termination_by sizeOf content
decreasing_by exact List.sizeOf_lt_of_mem hmem

end

theorem allIn_of_document {root : Node} {body : List Statement} (hr : document root = .ok body) :
    (Statement.block body).AllIn root := by
  cases root with
  | element h content =>
    rw [document] at hr
    split at hr
    · rename_i htag
      exact allIn_of_block h content (by simp [beq_iff_eq.1 htag, Statement.blockTags]) body hr
    · simp [refuse] at hr
  | text | comment | instruction | reference => simp [document] at hr

/-- **The statements of an XML document come from elements of its tree** and have no foreign
parts. -/
theorem exists_root_of_xmlBody {bytes : List UInt8} {body : List Statement}
    (hr : Document.xmlBody bytes = .ok body) :
    ∃ root, Xml.parse bytes = .ok root ∧ (Statement.block body).AllIn root := by
  unfold Document.xmlBody at hr
  cases hparse : Xml.parse bytes with
  | error e => simp [hparse] at hr
  | ok root =>
    rw [hparse] at hr
    exact ⟨root, rfl, allIn_of_document hr⟩

end Grammar

/-! ## A sample -/

/-- A default of a numeral and an error. -/
def Document.Content.sample : Document.Content :=
  .text "<properties><default key='1'/><error/></properties>"

def Xml.Node.sample : Xml.Node :=
  .element ⟨"properties", [], 1⟩
    [.element ⟨"default", [("key", "1")], 1⟩ [], .element ⟨"error", [], 1⟩ []]

def Document.sampleBody : List Statement :=
  [.assign { key := .template ⟨"1", []⟩, value := .template ⟨"", []⟩, defaultOnly := true,
             encrypted := false },
   .error (.template ⟨"", []⟩)]

set_option maxRecDepth 10000 in
theorem Xml.parse_sample : Xml.parse Document.Content.sample.toBytes = .ok .sample := by cbv

theorem Document.xmlBody_sample :
    Document.xmlBody Document.Content.sample.toBytes = .ok Document.sampleBody := by
  rw [Document.xmlBody, Xml.parse_sample]
  rfl

end PropertyDocs
