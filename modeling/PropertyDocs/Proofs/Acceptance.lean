import PropertyDocs.Document
import PropertyDocs.Proofs.Schema

/-!
# Exactly the trees of the schema are read

Each reader of the grammar accepts what the schema asks of the part it reads. Readers go through a
content from left to right, the schema speaks of its elements and its texts; one lemma for each
reader joins the two, and an induction over elements in elements joins the lemmas.
-/
namespace PropertyDocs.Grammar

open Xml (Head Node)
open Schema

/-- Whether the reader gives a result. -/
def Accepts {α : Type} (r : Read α) : Prop := ∃ a, r = .ok a

section
variable {α β : Type}

@[simp] theorem accepts_ok (a : α) : Accepts (.ok a) := ⟨a, rfl⟩

@[simp] theorem accepts_pure (a : α) : Accepts (pure a : Read α) := ⟨a, rfl⟩

@[simp] theorem not_accepts_error (e : CompileError) : ¬ Accepts (.error e : Read α) := by
  rintro ⟨a, h⟩
  cases h

instance (r : Read α) : Decidable (Accepts r) :=
  match r with
  | .ok a => .isTrue (accepts_ok a)
  | .error e => .isFalse (not_accepts_error e)

@[simp] theorem not_accepts_refuse (h : Head) (cause : Defect) :
    ¬ Accepts (refuse h cause : Read α) := not_accepts_error _

theorem accepts_bind {r : Read α} {f : α → Read β} :
    Accepts (r >>= f) ↔ ∃ a, r = .ok a ∧ Accepts (f a) := by
  cases r with
  | error e => simp [bind, Except.bind]
  | ok a => simp [bind, Except.bind]

/-- Where the result does not matter for what follows. -/
theorem accepts_bind_const {r : Read α} {f : α → Read β} {p : Prop} (h : ∀ a, Accepts (f a) ↔ p) :
    Accepts (r >>= f) ↔ Accepts r ∧ p := by
  rw [accepts_bind]
  simp only [h]
  exact ⟨fun ⟨a, ha, hp⟩ => ⟨⟨a, ha⟩, hp⟩, fun ⟨⟨a, ha⟩, hp⟩ => ⟨a, ha, hp⟩⟩

theorem accepts_bind_pure {r : Read α} {f : α → β} :
    Accepts (r >>= fun a => pure (f a)) ↔ Accepts r := by
  rw [accepts_bind_const (p := True) (by simp), and_true]

theorem accepts_guard {c : Prop} [Decidable c] {h : Head} {cause : Defect} {f : α → Read β}
    {r : Read β} : Accepts (if c then refuse h cause >>= f else r) ↔ ¬ c ∧ Accepts r := by
  split
  · rename_i hc
    simp [accepts_bind, refuse, hc]
  · rename_i hc
    simp [hc]

@[simp] theorem accepts_map {r : Read α} {f : α → β} : Accepts (r.map f) ↔ Accepts r := by
  cases r <;> simp [Except.map]

end

/-! ## Attributes and text -/

section
variable {h : Head} {content : List Node}

theorem required_eq_ok_iff {name value : String} :
    required h name = .ok value ↔ h.attribute? name = some value := by
  unfold required
  cases h.attribute? name <;> simp [refuse]

@[simp] theorem accepts_template {text : String} : Accepts (template h text) ↔ IsTemplate text := by
  unfold template IsTemplate
  cases Template.compile text <;> simp

theorem accepts_patternOf {cause : PatternError → Defect}
    {compiled : Except PatternError Pattern} :
    Accepts (patternOf h cause compiled) ↔ ∃ p, compiled = .ok p := by
  unfold patternOf
  cases compiled with
  | ok p => simp
  | error e => cases e <;> simp

@[simp] theorem accepts_regex {text : String} :
    Accepts (regex h text (isTrue (h.attribute? "casesensitive"))) ↔ IsRegex h text :=
  accepts_patternOf

@[simp] theorem accepts_blankText {s : String} : Accepts (blankText h s) ↔ Blank s := by
  unfold blankText Blank
  by_cases ht : Text.trim s = ""
  · simpa [ht] using (Text.trim_eq_empty_iff s).1 ht
  · simpa [ht] using fun hb => ht ((Text.trim_eq_empty_iff s).2 hb)

theorem body_eq_empty_iff : body content = "" ↔ NoText content := by
  rw [body, Text.trim_eq_empty_iff, String.toList_join]
  simp only [List.mem_flatMap, forall_exists_index, and_imp, NoText, Blank]
  exact ⟨fun hb s hs c hc => hb c s hs hc, fun hb c s hs hc => hb s hs c hc⟩

theorem textPieces_eq_ok_iff {pieces : List String} :
    ∀ {content : List Node}, textPieces h content = .ok pieces ↔
      elements content = [] ∧ pieces = texts content := by
  intro content
  induction content generalizing pieces with
  | nil => simp [textPieces, elements, texts, eq_comm]
  | cons node rest ih =>
    cases node with
    | element inner content => simp [textPieces, elements, refuse]
    | text s =>
      simp only [textPieces, elements, texts]
      cases hr : textPieces h rest with
      | error e =>
        have hnone : ∀ ps, ¬ (elements rest = [] ∧ ps = texts rest) := fun ps hps => by
          rw [ih.2 hps] at hr; cases hr
        simpa [Except.map] using fun he _ => hnone _ ⟨he, rfl⟩
      | ok ps =>
        obtain ⟨he, rfl⟩ := ih.1 hr
        simp [Except.map, he, eq_comm]
    | comment | instruction | reference => simpa only [textPieces, elements, texts] using ih

/-- The value of a leaf is the attribute if there is one, else the body. -/
theorem attributeOrText_eq_ok_iff {name value : String} :
    attributeOrText h name content = .ok value ↔
      elements content = [] ∧ ((h.attribute? name).isSome → NoText content) ∧
        value = (h.attribute? name).getD (body content) := by
  unfold attributeOrText bodyText
  cases hp : textPieces h content with
  | error e =>
    have hne : elements content ≠ [] := fun he => by
      rw [textPieces_eq_ok_iff.2 ⟨he, rfl⟩] at hp; cases hp
    simp [hne, Except.map, bind, Except.bind]
  | ok pieces =>
    obtain ⟨he, rfl⟩ := textPieces_eq_ok_iff.1 hp
    have hbody : Text.trim (String.join (texts content)) = body content := rfl
    simp only [he, Except.map, bind, Except.bind, true_and, hbody]
    cases h.attribute? name with
    | none => simp [pure, Except.pure, eq_comm]
    | some given =>
      by_cases hb : body content = ""
      · simp [hb, body_eq_empty_iff.1 hb, pure, Except.pure, eq_comm]
      · have htext : ¬ NoText content := fun hno => hb (body_eq_empty_iff.2 hno)
        simp [hb, htext, refuse]

theorem accepts_attributeOrText_bind {α : Type} {name : String} {f : String → Read α} {p : Prop}
    (hf : ∀ text, Accepts (f text) ↔ p ∧ IsTemplate text) :
    Accepts (attributeOrText h name content >>= f) ↔ p ∧ HoldsTemplate name (h, content) := by
  rw [accepts_bind]
  simp only [attributeOrText_eq_ok_iff, hf]
  constructor
  · rintro ⟨value, ⟨he, hno, rfl⟩, hp, ht⟩
    exact ⟨hp, he, hno, ht⟩
  · rintro ⟨hp, he, hno, ht⟩
    exact ⟨_, ⟨he, hno, rfl⟩, hp, ht⟩

theorem accepts_required_bind {α : Type} {name : String} {f : String → Read α}
    {P : String → Prop} {p : Prop} (hf : ∀ text, Accepts (f text) ↔ P text ∧ p) :
    Accepts (required h name >>= f) ↔ Has h name P ∧ p := by
  rw [accepts_bind]
  simp only [required_eq_ok_iff, hf, Has]
  exact ⟨fun ⟨v, hv, hP, hp⟩ => ⟨⟨v, hv, hP⟩, hp⟩, fun ⟨⟨v, hv, hP⟩, hp⟩ => ⟨v, hv, hP, hp⟩⟩

theorem accepts_template_bind {α : Type} {text : String} {f : Expression → Read α} {p : Prop}
    (hf : ∀ e, Accepts (f e) ↔ p) : Accepts (template h text >>= f) ↔ IsTemplate text ∧ p := by
  rw [accepts_bind_const hf, accepts_template]

theorem accepts_template_pure {α : Type} {text : String} {f : Expression → α} :
    Accepts (template h text >>= fun e => pure (f e)) ↔ IsTemplate text := by
  rw [accepts_bind_pure, accepts_template]

theorem accepts_valueTemplate {α : Type} {name : String} {f : Expression → α} :
    Accepts (attributeOrText h name content >>= fun text =>
      template h text >>= fun e => pure (f e)) ↔ HoldsTemplate name (h, content) := by
  rw [accepts_attributeOrText_bind (p := True) fun _ => by rw [accepts_template_pure, true_and],
    true_and]

/-! ## Elements without statements -/

theorem accepts_assignment {defaultOnly : Bool} :
    Accepts (assignment h content defaultOnly) ↔
      Has h "key" IsTemplate ∧ HoldsTemplate "value" (h, content) :=
  accepts_required_bind fun _ => accepts_attributeOrText_bind fun _ =>
    accepts_template_bind fun _ => accepts_template_pure

theorem accepts_error :
    Accepts (error h content) ↔ HoldsTemplate "message" (h, content) := accepts_valueTemplate

theorem accepts_rowStatement {t : Columns} :
    Accepts (rowStatement t h content) ↔ HoldsTemplate "value" (h, content) := accepts_valueTemplate

end

/-! ## Contents -/

/-- The reader wants texts to be blank, and passes over what is neither text nor element. -/
structure SkipsBlanks {α : Type} (read : List Node → Read α) : Prop where
  nil : Accepts (read [])
  text (s : String) (rest : List Node) :
    Accepts (read (.text s :: rest)) ↔ Blank s ∧ Accepts (read rest)
  comment (s : String) (rest : List Node) :
    Accepts (read (.comment s :: rest)) ↔ Accepts (read rest)
  instruction (target data : String) (rest : List Node) :
    Accepts (read (.instruction target data :: rest)) ↔ Accepts (read rest)
  reference (name : String) (rest : List Node) :
    Accepts (read (.reference name :: rest)) ↔ Accepts (read rest)

/-- What such a reader wants of a content is known from what it does with elements. -/
theorem SkipsBlanks.accepts_iff {α : Type} {read : List Node → Read α} (hread : SkipsBlanks read)
    {R : List Element → Prop} (hnil : R [])
    (helement : ∀ h content rest, (Accepts (read rest) ↔ NoText rest ∧ R (elements rest)) →
      (Accepts (read (.element h content :: rest)) ↔
        NoText rest ∧ R ((h, content) :: elements rest)))
    (content : List Node) :
    Accepts (read content) ↔ NoText content ∧ R (elements content) := by
  induction content with
  | nil => simp [hread.nil, hnil]
  | cons node rest ih =>
    cases node with
    | element h content => exact helement h content rest ih
    | text s => rw [hread.text, ih, noText_text, and_assoc]; rfl
    | comment s => exact (hread.comment s rest).trans ih
    | instruction target data => exact (hread.instruction target data rest).trans ih
    | reference name => exact (hread.reference name rest).trans ih

/-! ## Tables -/

section
variable {t : Columns} {table : Head}

theorem accepts_row (hs : t.separator = separator table)
    (hc : t.caseSensitive = caseSensitive table) {h : Head} {content : List Node} :
    Accepts (row t h content) ↔
      Has h "pattern" (IsRowPattern table) ∧ HoldsTemplate "value" (h, content) := by
  refine accepts_required_bind fun text => ?_
  rw [accepts_bind_const (p := IsRowPattern table text), accepts_rowStatement, and_comm]
  intro statement
  rw [accepts_bind_pure, accepts_patternOf, hs, hc, IsRowPattern]

theorem isRow_iff {h : Head} {content : List Node} (htag : h.tag = "match") :
    IsRow table (h, content) ↔
      Has h "pattern" (IsRowPattern table) ∧ HoldsTemplate "value" (h, content) :=
  ⟨fun hr => ⟨hr.pattern, hr.value⟩, fun ⟨hp, hv⟩ => ⟨htag, hp, hv⟩⟩

theorem isLastRow_iff {h : Head} {content : List Node} (htag : h.tag = "nomatch") :
    IsLastRow (h, content) ↔ HoldsTemplate "value" (h, content) :=
  ⟨fun hl => hl.value, fun hv => ⟨htag, hv⟩⟩

theorem skipsBlanks_rows {h : Head} {last : Option Statement} : SkipsBlanks (rows t h last) where
  nil := by simp [rows]
  text s rest := by rw [rows, accepts_bind_const fun _ => Iff.rfl, accepts_blankText]
  comment s rest := by simp only [rows]
  instruction target data rest := by simp only [rows]
  reference name rest := by simp only [rows]

/-- After the last row nothing may stand but blanks. -/
theorem accepts_rows_after {h : Head} {s : Statement} (content : List Node) :
    Accepts (rows t h (some s) content) ↔ NoText content ∧ elements content = [] := by
  refine skipsBlanks_rows.accepts_iff (R := (· = [])) rfl (fun inner content rest _ => ?_) content
  rw [rows, accepts_guard, accepts_guard]
  simp

theorem accepts_rows (hs : t.separator = separator table)
    (hc : t.caseSensitive = caseSensitive table) {h : Head} (content : List Node) :
    Accepts (rows t h none content) ↔
      NoText content ∧ Closed (IsRow table) IsLastRow (elements content) := by
  refine skipsBlanks_rows.accepts_iff closed_nil (fun inner content rest ih => ?_) content
  rw [rows, accepts_guard, accepts_guard, closed_cons]
  by_cases hrow : inner.tag = "match"
  · have hlast : ¬ IsLastRow (inner, content) := fun hl =>
      absurd (hl.tag.symm.trans hrow) (by decide)
    have hrest : ∀ r, Accepts (rows t h none rest >>= fun p => pure (r :: p.1, p.2)) ↔
        NoText rest ∧ Closed (IsRow table) IsLastRow (elements rest) := fun _ =>
      accepts_bind_pure.trans ih
    simp only [hrow, beq_self_eq_true, if_true, hlast, false_and, or_false]
    rw [accepts_bind_const hrest, accepts_row hs hc, isRow_iff hrow]
    simp [and_left_comm]
  · have hisRow : ¬ IsRow table (inner, content) := fun hr => hrow hr.tag
    by_cases hlast : inner.tag = "nomatch"
    · simp only [hlast, hisRow]
      rw [if_neg (by decide), accepts_bind_const fun _ => accepts_rows_after rest,
        accepts_rowStatement, isLastRow_iff hlast]
      simp [and_left_comm]
    · have hisLast : ¬ IsLastRow (inner, content) := fun hl => hlast hl.tag
      simp [hrow, hlast, hisRow, hisLast]

end

theorem accepts_table {h : Head} {content : List Node} {defaultOnly : Bool} :
    Accepts (table h content defaultOnly) ↔ IsTable (h, content) := by
  have hiff : IsTable (h, content) ↔ Has h "key" IsTemplate ∧ Has h "selector" IsTemplate ∧
      NoText content ∧ Closed (IsRow h) IsLastRow (elements content) :=
    ⟨fun ht => ⟨ht.key, ht.selector, ht.noText, ht.rows⟩,
      fun ⟨hk, hs, hn, hr⟩ => ⟨hk, hs, hn, hr⟩⟩
  rw [hiff]
  refine accepts_required_bind fun _ => accepts_template_bind fun _ =>
    accepts_required_bind fun _ => accepts_template_bind fun _ => ?_
  rw [accepts_bind_pure]
  exact accepts_rows rfl rfl content

/-! ## Elements with a body -/

section
variable {h : Head} {r : Read Statement}

theorem isCondition_iff : IsCondition h ↔
    Has h "key" IsTemplate ∧ ¬ ((h.attribute? "value").isSome ∧ (h.attribute? "match").isSome) ∧
      (∀ text, h.attribute? "value" = some text → IsTemplate text) ∧
      ∀ text, h.attribute? "match" = some text → IsRegex h text :=
  ⟨fun hc => ⟨hc.key, hc.notBoth, hc.value, hc.regex⟩,
    fun ⟨hk, hb, hv, hm⟩ => ⟨hk, hb, hv, hm⟩⟩

/-- What is read after the body of an element. -/
theorem accepts_afterBody {α β : Type} {text : String} {read : Expression → Read α}
    {f : Statement → Expression → α → β} {p : Prop} (hread : ∀ e, Accepts (read e) ↔ p) :
    Accepts (r >>= fun body => template h text >>= fun e => read e >>= fun a => pure (f body e a)) ↔
      Accepts r ∧ IsTemplate text ∧ p :=
  accepts_bind_const fun _ => accepts_template_bind fun e => accepts_bind_pure.trans (hread e)

theorem accepts_branch {negated : Bool} :
    Accepts (branch h negated r) ↔ IsCondition h ∧ Accepts r := by
  rw [isCondition_iff, and_assoc]
  refine accepts_required_bind fun key => ?_
  rw [accepts_guard]
  cases h.attribute? "value" with
  | none =>
    cases h.attribute? "match" with
    | none =>
      dsimp only
      rw [accepts_afterBody (p := True) fun _ => by simp]
      simp [and_comm]
    | some text =>
      dsimp only
      rw [accepts_afterBody fun _ => accepts_map.trans accepts_regex]
      simp [and_comm, and_assoc]
  | some text =>
    cases h.attribute? "match" with
    | none =>
      dsimp only
      rw [accepts_afterBody fun _ => accepts_map.trans accepts_template]
      simp [and_comm, and_left_comm]
    | some pattern => simp

theorem accepts_choice {negated : Bool} :
    Accepts (choice h negated r) ↔ IsCondition h ∧ Accepts r := by
  rw [choice, accepts_bind_pure, accepts_branch]

theorem accepts_matchPattern : Accepts (matchPattern h r) ↔
    Has h "value" IsTemplate ∧ Has h "match" (IsRegex h) ∧ Accepts r := by
  refine accepts_required_bind fun value => ?_
  rw [and_left_comm]
  refine accepts_required_bind fun pattern => ?_
  rw [accepts_afterBody fun _ => accepts_regex]
  simp [and_comm, and_left_comm]

theorem accepts_checkBranch {inner : Head} {last : Option Statement} :
    Accepts (checkBranch h inner last) ↔
      (inner.tag = "when" ∨ inner.tag = "unless" ∨ inner.tag = "otherwise") ∧ last = none := by
  rw [checkBranch, accepts_guard]
  cases last with
  | none => simp [Classical.or_iff_not_imp_left]
  | some last => simp

end

/-! ## Blocks and branches -/

section
variable {h : Head}

theorem statement_eq_none {node : Node} (hnode : ∀ h content, node ≠ .element h content) :
    statement node = .ok none := by
  cases node with
  | element h content => exact absurd rfl (hnode h content)
  | text | comment | instruction | reference => rw [statement]; exact nofun

theorem accepts_block_skip {node : Node} {rest : List Node} (hnode : statement node = .ok none)
    (htext : ∀ s, node ≠ .text s) :
    Accepts (block h (node :: rest)) ↔ Accepts (block h rest) := by
  rw [block, accepts_bind_const fun _ => accepts_bind_pure, hnode]
  · simp
  · exact htext

theorem skipsBlanks_block : SkipsBlanks (block h) where
  nil := by simp [block]
  text s rest := by rw [block, accepts_bind_const fun _ => Iff.rfl, accepts_blankText]
  comment s rest := accepts_block_skip (statement_eq_none (by simp)) (by simp)
  instruction target data rest := accepts_block_skip (statement_eq_none (by simp)) (by simp)
  reference name rest := accepts_block_skip (statement_eq_none (by simp)) (by simp)

theorem accepts_block_iff_statements (content : List Node) :
    Accepts (block h content) ↔ NoText content ∧
      ∀ e ∈ elements content, Accepts (statement (.element e.1 e.2)) := by
  refine skipsBlanks_block.accepts_iff
    (R := fun es => ∀ e ∈ es, Accepts (statement (.element e.1 e.2))) (by simp)
    (fun inner content rest ih => ?_) content
  simp only [block, List.forall_mem_cons]
  rw [accepts_bind_const fun _ => accepts_bind_pure.trans ih, and_left_comm]

theorem skipsBlanks_branches {last : Option Statement} : SkipsBlanks (branches h last) where
  nil := by simp [branches]
  text s rest := by rw [branches, accepts_bind_const fun _ => Iff.rfl, accepts_blankText]
  comment s rest := by simp only [branches]
  instruction target data rest := by simp only [branches]
  reference name rest := by simp only [branches]

/-- After the last branch nothing may stand but blanks. -/
theorem accepts_branches_after {s : Statement} (content : List Node) :
    Accepts (branches h (some s) content) ↔ NoText content ∧ elements content = [] := by
  refine skipsBlanks_branches.accepts_iff (R := (· = [])) rfl
    (fun inner content rest _ => ?_) content
  have hcheck : ¬ Accepts (checkBranch h inner (some s)) := by simp [accepts_checkBranch]
  rw [branches, accepts_bind]
  simp only [reduceCtorEq, and_false, iff_false]
  rintro ⟨_, hc, _⟩
  exact hcheck ⟨_, hc⟩

theorem accepts_branches (content : List Node) :
    Accepts (branches h none content) ↔ NoText content ∧
      Closed
        (fun b => (b.1.tag = "when" ∨ b.1.tag = "unless") ∧ IsCondition b.1 ∧
          Accepts (block b.1 b.2))
        (fun b => b.1.tag = "otherwise" ∧ Accepts (block b.1 b.2)) (elements content) := by
  refine skipsBlanks_branches.accepts_iff closed_nil (fun inner content rest ih => ?_) content
  rw [branches, closed_cons]
  by_cases hlast : inner.tag = "otherwise"
  · simp only [hlast, beq_self_eq_true, if_true]
    rw [accepts_bind_const fun _ => accepts_bind_const fun _ => accepts_branches_after rest,
      accepts_checkBranch]
    simp [hlast, and_left_comm]
  · simp only [hlast, beq_iff_eq, if_false]
    rw [accepts_bind_const fun _ => accepts_bind_const fun _ => accepts_bind_pure.trans ih,
      accepts_checkBranch, accepts_branch, accepts_map]
    simp [hlast, and_assoc, and_left_comm]

end

/-! ## Documents -/

mutual

theorem accepts_statement (h : Head) (content : List Node) :
    Accepts (statement (.element h content)) ↔ IsStatement (h, content) := by
  have hinner : ∀ e ∈ elements content, Accepts (block e.1 e.2) ↔ IsBlock e.2 := fun e _ =>
    accepts_block e.1 e.2
  rw [statement]
  split
  · rw [accepts_map, accepts_assignment, isStatement_iff_assignment (.inl ‹_›)]
  · rw [accepts_map, accepts_assignment, isStatement_iff_assignment (.inr ‹_›)]
  · rw [accepts_map, accepts_choice, accepts_map, accepts_block h content,
      isStatement_iff_conditional (.inl ‹_›)]
  · rw [accepts_map, accepts_choice, accepts_map, accepts_block h content,
      isStatement_iff_conditional (.inr ‹_›)]
  · rw [accepts_bind_pure, accepts_branches content, isStatement_iff_choice ‹_›]
    exact and_congr_right fun _ => closed_congr
      (fun b hb => by rw [hinner b hb, isBranch_iff])
      fun b hb => by rw [hinner b hb, isLastBranch_iff]
  · rw [accepts_map, accepts_table, isStatement_iff_table (.inl ‹_›)]
  · rw [accepts_map, accepts_table, isStatement_iff_table (.inr ‹_›)]
  · rw [accepts_map, accepts_matchPattern, accepts_map, accepts_block h content,
      isStatement_iff_matchPattern ‹_›]
  · rw [accepts_map, accepts_error, isStatement_iff_error ‹_›]
  · simpa using IsStatement.comment ‹_›
  · refine iff_of_false (not_accepts_refuse _ _) fun hs => ?_
    cases hs <;> simp_all
termination_by sizeOf (Node.element h content)
decreasing_by
  · exact Nat.lt_trans (Nat.lt_trans sizeOf_content_lt (sizeOf_lt_of_mem_elements ‹_›))
      sizeOf_content_lt
  all_goals exact sizeOf_content_lt

theorem accepts_block (h : Head) (content : List Node) :
    Accepts (block h content) ↔ IsBlock content := by
  have hinner : ∀ e ∈ elements content,
      (Accepts (statement (.element e.1 e.2)) ↔ IsStatement e) := fun e _ =>
    accepts_statement e.1 e.2
  rw [accepts_block_iff_statements, isBlock_iff]
  exact and_congr_right fun _ => forall₂_congr hinner
termination_by sizeOf content
decreasing_by exact sizeOf_lt_of_mem_elements ‹_›

end

theorem accepts_document (root : Node) : Accepts (document root) ↔ IsDocument root := by
  cases root with
  | element h content =>
    rw [document]
    split
    · rename_i htag
      rw [accepts_block]
      refine ⟨fun hb => ⟨h, content, rfl, beq_iff_eq.1 htag, hb⟩, ?_⟩
      rintro ⟨_, _, heq, _, hb⟩
      cases heq
      exact hb
    · rename_i htag
      refine iff_of_false (not_accepts_refuse _ _) ?_
      rintro ⟨_, _, heq, ht, _⟩
      cases heq
      exact htag (beq_iff_eq.2 ht)
  | text | comment | instruction | reference => simp [document, IsDocument]

instance (root : Node) : Decidable (IsDocument root) :=
  decidable_of_iff _ (accepts_document root)

example : IsDocument (.element ⟨"properties", [], 1⟩
    [.element ⟨"if", [("key", "a"), ("match", "(b+)")], 1⟩ [.comment "c",
      .element ⟨"entry", [("key", "a")], 1⟩ [.text "v"]]]) := by decide

/-- **The grammar is exact.** A tree is read if and only if it is a document of the schema, and
bytes are read if and only if they are XML for such a tree. -/
theorem reads_exactly_documents :
    (∀ root : Node, (∃ body, document root = .ok body) ↔ IsDocument root) ∧
    ∀ bytes : List UInt8, (∃ body, Document.xmlBody bytes = .ok body) ↔
      ∃ root, Xml.parse bytes = .ok root ∧ IsDocument root := by
  refine ⟨accepts_document, fun bytes => ?_⟩
  unfold Document.xmlBody
  cases Xml.parse bytes with
  | error e => simp
  | ok root =>
    have hroot := accepts_document root
    simpa [Accepts] using hroot

end PropertyDocs.Grammar
