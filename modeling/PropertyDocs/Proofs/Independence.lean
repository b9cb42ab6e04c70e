import Mathlib.Data.List.Basic
import PropertyDocs.Proofs.Bisimulation
import PropertyDocs.Proofs.Concatenation
import PropertyDocs.Proofs.RunRelation

/-!
# Independent statements

Where the keys that a statement assigns and tests are constant, its text tells which keys a run can
write and which it can read. Keys that it does not assign stay as they are; and leaves that are
alike under the keys of its text are alike to it, so that it fails on both or on none and leaves the
same under these keys. Of two statements none of which assigns a key of the other, each finds its
own keys untouched, whichever is run first.
-/
namespace PropertyDocs

/-! ## Keys in the text of a statement -/

/-- The variables that an expression refers to. -/
def Expression.names : Expression → List String
  | template t => t.names
  | literal _ | foreign _ => []

/-- The text of an expression without variables. -/
def Expression.constant? : Expression → Option String
  | template t => if t.isConstant then some t.first else none
  | literal value => some value
  | foreign _ => none

/-- The expression of the key that a test looks at, however often it is negated. -/
def Test.key? : Test → Option Expression
  | truthy key | equals key _ _ | matchesPattern key _ => some key
  | not test => test.key?
  | foreign _ => none

/-- The variables that the expected value of a test refers to. -/
def Test.names : Test → List String
  | equals _ value _ => value.names
  | not test => test.names
  | truthy _ | matchesPattern _ _ | foreign _ => []

/-- The keys that a test reads, its own key being constant. -/
def Test.reads (t : Test) : List String := (t.key?.bind (·.constant?)).toList ++ t.names

namespace Statement

/-- The keys that a statement reads itself, leaving aside what the statements in it read. A default
also reads the key that it assigns. -/
def ownReads : Statement → List String
  | .assign a => a.value.names
  | .choose whens _ => whens.flatMap fun w => w.1.reads
  | .table selector _ _ _ => selector.names
  | .matchPattern value _ _ => value.names
  | .error message => message.names
  | .block _ | .foreign _ => []

/-- A test, a template or a selector anywhere in the statement reads the key. -/
def Reads (s : Statement) (k : String) : Prop := ∃ t, s.Contains t ∧ k ∈ t.ownReads

/-- An assignment anywhere in the statement, be it a default, has this constant key. -/
def Assigns (s : Statement) (k : String) : Prop :=
  ∃ a, s.Contains (.assign a) ∧ a.key.constant? = some k

/-- The keys that are assigned and tested anywhere in a statement are constant, and no match pattern
stands in it. -/
structure HasConstantKeys (s : Statement) : Prop where
  assigned {a : Assignment} : s.Contains (.assign a) → a.key.names = []
  tested {whens : List (Test × Statement)} {otherwise : Option Statement} :
    s.Contains (.choose whens otherwise) →
      ∀ w ∈ whens, ∀ key, w.1.key? = some key → key.names = []
  unbound {value : Expression} {pattern : Pattern} {body : Statement} :
    ¬ s.Contains (.matchPattern value pattern body)

/-- None of the keys that `s` assigns is assigned or read by `t`. -/
def Spares (s t : Statement) : Prop := ∀ k, s.Assigns k → ¬ t.Assigns k ∧ ¬ t.Reads k

variable {s t : Statement}

theorem HasConstantKeys.child (h : s.HasConstantKeys) (ht : t ∈ s.children) :
    t.HasConstantKeys where
  assigned ha := h.assigned (.inner ht ha)
  tested hw := h.tested (.inner ht hw)
  unbound hm := h.unbound (.inner ht hm)

theorem Reads.of_child {k : String} (ht : t ∈ s.children) (h : t.Reads k) : s.Reads k :=
  let ⟨u, hu, hk⟩ := h
  ⟨u, .inner ht hu, hk⟩

theorem Assigns.of_child {k : String} (ht : t ∈ s.children) (h : t.Assigns k) : s.Assigns k :=
  let ⟨a, ha, hk⟩ := h
  ⟨a, .inner ht ha, hk⟩

end Statement

/-! ## Constant expressions -/

/-- A constant expression gives its text on every chain. -/
theorem Expression.constant?_of_eval {key : Expression} {c : Chain} {k : String}
    (hkey : key.names = []) (h : key.eval c = .ok k) : key.constant? = some k := by
  cases key with
  | template t =>
    have hrest : t.rest = [] := List.map_eq_nil_iff.1 hkey
    simpa [eval, Template.expand, constant?, Template.isConstant, hrest] using h
  | literal value => simpa [eval, constant?] using h
  | foreign kind => cases h

/-! ## A run writes no other keys than those assigned -/

theorem Statement.HasConstantKeys.get?_run {s : Statement} (hs : s.HasConstantKeys) {k : String}
    (hk : ¬ s.Assigns k) (ctx : Context) (l : Level) :
    (s.run ctx l).level.get? k = l.get? k := by
  have hkept : RunRelation fun l l' => ∀ j, ¬ s.Assigns j → l'.get? j = l.get? j :=
    RunRelation.of_keys (Q := fun j u v => ¬ s.Assigns j → v = u) (fun _ _ _ => rfl)
      fun j _ _ _ huv hvw hj => (hvw hj).trans (huv hj)
  refine hkept.run s (fun a ha l j hj => ?_) l k hk
  rcases a.run_cases ctx l with ⟨e, -, hl⟩ | ⟨key, value, hkey, -, hl⟩
  · rw [hl]
  · have hne : j ≠ key := by
      rintro rfl
      exact hj ⟨a, ha, Expression.constant?_of_eval (hs.assigned ha) hkey⟩
    rw [hl, Level.get?_put_of_ne l value hne]

/-! ## A run reads no other keys than those in the text -/

section
variable {c c' : Chain}

theorem Template.expand_congr {t : Template} {value value' : String → String}
    (h : ∀ k ∈ t.names, value k = value' k) : t.expand value = t.expand value' :=
  List.foldl_ext _ _ _ fun text part hpart => by rw [h part.1 (List.mem_map_of_mem hpart)]

theorem Expression.eval_congr_names {e : Expression} (h : ∀ k ∈ e.names, c.value k = c'.value k) :
    e.eval c = e.eval c' := by
  cases e with
  | template t => rw [eval, eval, Texts.expand_string, Texts.expand_string, Template.expand_congr h]
  | literal | foreign => rfl

theorem Expression.lookup_congr_constant {key : Expression} (hkey : key.names = [])
    (h : ∀ k, key.constant? = some k → c.value k = c'.value k) : key.lookup c = key.lookup c' := by
  have hsame : key.eval c = key.eval c' := eval_congr_names (by simp [hkey])
  rw [lookup, lookup, ← hsame]
  cases hk : key.eval c with
  | error e => rfl
  | ok k => simp only [Except.map, h k (constant?_of_eval hkey hk)]

theorem Test.eval_congr_reads {t : Test} (hkey : ∀ key, t.key? = some key → key.names = [])
    (h : ∀ k ∈ t.reads, c.value k = c'.value k) : t.eval c = t.eval c' := by
  induction t with
  | truthy key =>
    rw [eval, eval, key.lookup_congr_constant (hkey key rfl) fun k hk =>
      h k (by simp [reads, key?, hk])]
  | equals key value caseSensitive =>
    rw [eval, eval, key.lookup_congr_constant (hkey key rfl) fun k hk =>
      h k (by simp [reads, key?, hk]),
      value.eval_congr_names fun k hk => h k (by simp [reads, names, hk])]
  | matchesPattern key pattern =>
    rw [eval, eval, key.lookup_congr_constant (hkey key rfl) fun k hk =>
      h k (by simp [reads, key?, hk])]
  | not test ih => rw [eval, eval, ih hkey h]
  | foreign kind => rfl

theorem chosen_congr_reads {otherwise : Option Statement} {whens : List (Test × Statement)}
    (hkey : ∀ w ∈ whens, ∀ key, w.1.key? = some key → key.names = [])
    (h : ∀ w ∈ whens, ∀ k ∈ w.1.reads, c.value k = c'.value k) :
    chosen c otherwise whens = chosen c' otherwise whens := by
  induction whens with
  | nil => rfl
  | cons w whens ih =>
    rw [List.forall_mem_cons] at hkey h
    simp only [chosen, Test.eval_congr_reads hkey.1 h.1, ih hkey.2 h.2]

theorem Statement.picked_congr_reads {s : Statement} (hs : s.HasConstantKeys)
    (h : ∀ k ∈ s.ownReads, c.value k = c'.value k) : s.picked c = s.picked c' := by
  cases s with
  | choose whens otherwise =>
    exact chosen_congr_reads (hs.tested (.self _)) fun w hw k hk =>
      h k (List.mem_flatMap.2 ⟨w, hw, hk⟩)
  | table selector separator rows otherwise =>
    simp only [picked, selector.eval_congr_names h]
  | assign | block | matchPattern | error | foreign => rfl

end

/-- Leaves that are alike under the keys of `K`. -/
def AgreeOn (K : String → Prop) (a b : Level) : Prop := ∀ k, K k → a.get? k = b.get? k

namespace AgreeOn
variable {K : String → Prop} {ctx : Context} {a b : Level}

theorem put (h : AgreeOn K a b) (key value : String) :
    AgreeOn K (a.put key value) (b.put key value) := fun k hk => by
  rw [Level.get?_put, Level.get?_put, h k hk]

theorem value (h : AgreeOn K a b) {k : String} (hk : K k) :
    (ctx.chain a).value k = (ctx.chain b).value k := by
  rw [Chain.value, Chain.value, Context.chain, Context.chain, Chain.get?_mk, Chain.get?_mk, h k hk]

theorem assignment (h : AgreeOn K a b) {s : Assignment} (hkey : s.key.names = [])
    (hassigned : ∀ k, s.key.constant? = some k → K k) (hread : ∀ k ∈ s.value.names, K k) :
    (s.run ctx a).Agree (AgreeOn K) (s.run ctx b) := by
  have hsameKey : s.key.eval (ctx.chain a) = s.key.eval (ctx.chain b) :=
    Expression.eval_congr_names (by simp [hkey])
  have hsameValue : s.value.eval (ctx.chain a) = s.value.eval (ctx.chain b) :=
    Expression.eval_congr_names fun k hk => h.value (hread k hk)
  unfold Assignment.run
  rw [hsameKey]
  cases hk : s.key.eval (ctx.chain b) with
  | error e => exact .failed h e
  | ok key =>
    have hpresent : (ctx.chain a).value key = (ctx.chain b).value key :=
      h.value (hassigned key (Expression.constant?_of_eval hkey hk))
    simp only [Outcome.onValue, hpresent]
    split
    · exact .done (h.put key _)
    · refine .onValue h hsameValue fun value => ?_
      split
      · exact putDecrypted_agree h key value (h.put key)
      · exact .done (h.put key value)

/-- **A statement is run alike on leaves that are alike under the keys of its text.** -/
theorem run (s : Statement) : s.HasConstantKeys →
    (∀ k, s.Reads k → K k) → (∀ k, s.Assigns k → K k) →
    ∀ a b, AgreeOn K a b → (s.run ctx a).Agree (AgreeOn K) (s.run ctx b) := by
  induction s using Statement.induct with
  | step s ih =>
    intro hs hreads hassigns a b h
    have hchild : ∀ t ∈ s.children, ∀ a b, AgreeOn K a b →
        (t.run ctx a).Agree (AgreeOn K) (t.run ctx b) := fun t ht =>
      ih t ht (hs.child ht) (fun k hk => hreads k (hk.of_child ht))
        fun k hk => hassigns k (hk.of_child ht)
    have hown : ∀ k ∈ s.ownReads, (ctx.chain a).value k = (ctx.chain b).value k := fun k hk =>
      h.value (hreads k ⟨s, .self s, hk⟩)
    cases s with
    | assign s =>
      simp only [Statement.run]
      exact h.assignment (hs.assigned (.self _)) (fun k hk => hassigns k ⟨s, .self _, hk⟩)
        fun k hk => hreads k ⟨_, .self _, hk⟩
    | block body => simp only [Statement.run]; exact runAll_agree hchild a b h
    | choose whens otherwise =>
      rw [run_choose, run_choose]
      exact picked_agree hchild h (Statement.picked_congr_reads hs hown)
    | table selector separator rows otherwise =>
      rw [run_table, run_table]
      exact picked_agree hchild h (Statement.picked_congr_reads hs hown)
    | matchPattern value pattern body => exact absurd (.self _) hs.unbound
    | error message =>
      simp only [Statement.run]
      exact .onValue h (Expression.eval_congr_names hown) fun text => .failed h _
    | foreign kind => simp only [Statement.run]; exact .failed h _

end AgreeOn

/-! ## One after the other -/

section
variable {ctx : Context} {s t : Statement} {l : Level}

theorem run_pair (h : (s.run ctx l).error = none) :
    (Statement.block [s, t]).run ctx l =
      { t.run ctx (s.run ctx l).level with
        calls := (s.run ctx l).calls ++ (t.run ctx (s.run ctx l).level).calls } := by
  rw [Statement.run, runAll, Outcome.andThen_of_none h, runAll_singleton]

/-- A statement that `s` spares is run after it as it is run alone, and has its way under the keys
that it assigns. -/
theorem run_after_spared (hs : s.HasConstantKeys) (ht : t.HasConstantKeys) (hst : s.Spares t)
    (hsl : (s.run ctx l).error = none) (htl : (t.run ctx l).error = none) :
    let both := (Statement.block [s, t]).run ctx l
    both.error = none ∧
    both.calls = (s.run ctx l).calls ++ (t.run ctx l).calls ∧
    (∀ k, t.Assigns k → both.level.get? k = (t.run ctx l).level.get? k) ∧
    ∀ k, ¬ t.Assigns k → both.level.get? k = (s.run ctx l).level.get? k := by
  intro both
  have huntouched : AgreeOn (fun k => t.Reads k ∨ t.Assigns k) l (s.run ctx l).level :=
    fun k hk => (hs.get?_run (fun hsk => hk.elim (hst k hsk).2 (hst k hsk).1) ctx l).symm
  have hsame : (t.run ctx l).Agree _ (t.run ctx (s.run ctx l).level) :=
    AgreeOn.run t ht (fun _ => .inl) (fun _ => .inr) _ _ huntouched
  have hboth : both = _ := run_pair hsl
  rw [hboth]
  refine ⟨?_, ?_, fun k hk => ?_, fun k hk => ?_⟩
  · exact hsame.error.symm.trans htl
  · simp only [hsame.calls]
  · exact (hsame.level k (.inr hk)).symm
  · exact ht.get?_run hk ctx _

/-- **Independent statements commute.** Where neither of two statements without match patterns and
with constant keys assigns a key that the other assigns or reads, and each runs alone without an
error, they run one after the other without an error in both orders, decrypt the same and leave the
same value under every key. -/
theorem independent_statements_commute (hs : s.HasConstantKeys) (ht : t.HasConstantKeys)
    (hst : s.Spares t) (hts : t.Spares s)
    (hsl : (s.run ctx l).error = none) (htl : (t.run ctx l).error = none) :
    let first := (Statement.block [s, t]).run ctx l
    let second := (Statement.block [t, s]).run ctx l
    first.error = none ∧ second.error = none ∧ first.calls.Perm second.calls ∧
    ∀ k, first.level.get? k = second.level.get? k := by
  intro first second
  obtain ⟨herror₁, hcalls₁, hwritten₁, hkept₁⟩ := run_after_spared hs ht hst hsl htl
  obtain ⟨herror₂, hcalls₂, hwritten₂, hkept₂⟩ := run_after_spared ht hs hts htl hsl
  refine ⟨herror₁, herror₂, ?_, fun k => ?_⟩
  · rw [hcalls₁, hcalls₂]
    exact List.perm_append_comm
  · by_cases htk : t.Assigns k
    · rw [hwritten₁ k htk, hkept₂ k (hts k htk).1]
    · rw [hkept₁ k htk]
      by_cases hsk : s.Assigns k
      · rw [hwritten₂ k hsk]
      · rw [hkept₂ k hsk, hs.get?_run hsk, ht.get?_run htk]

end

/-! ## Two samples -/

theorem Statement.contains_assign {a : Assignment} {t : Statement}
    (h : (Statement.assign a).Contains t) : t = .assign a := by
  cases h with
  | self => rfl
  | inner hnone _ => cases hnone

/-- Names a host after the stage, if the stage is the wanted one. -/
def sampleHost : Statement :=
  .choose [(.equals (.literal "stage") (.template ⟨"", [("wanted", "")]⟩) true,
    .assign ⟨.literal "host", .template ⟨"db.", [("stage", "")]⟩, false, false⟩)] none

/-- A default for a secret, which is decrypted. -/
def sampleSecret : Statement :=
  .assign ⟨.literal "secret", .template ⟨"", [("sealed", "")]⟩, true, true⟩

theorem contains_sampleHost {t : Statement} (h : sampleHost.Contains t) :
    t = sampleHost ∨
    t = .assign ⟨.literal "host", .template ⟨"db.", [("stage", "")]⟩, false, false⟩ := by
  cases h with
  | self => exact .inl rfl
  | inner hu ht =>
    obtain rfl := List.mem_singleton.1 hu
    exact .inr (Statement.contains_assign ht)

theorem sampleHost_hasConstantKeys : sampleHost.HasConstantKeys where
  assigned ha := by
    obtain h | h := contains_sampleHost ha <;> cases h
    rfl
  tested hw w hmem key hkey := by
    obtain h | h := contains_sampleHost hw <;> cases h
    obtain rfl := List.mem_singleton.1 hmem
    obtain rfl := Option.some.inj hkey
    rfl
  unbound hm := by
    obtain h | h := contains_sampleHost hm <;> cases h

theorem sampleSecret_hasConstantKeys : sampleSecret.HasConstantKeys where
  assigned ha := by
    cases Statement.contains_assign ha
    rfl
  tested hw := by cases Statement.contains_assign hw
  unbound hm := by cases Statement.contains_assign hm

/-- The one assigns `host` and reads `stage` and `wanted`, the other assigns `secret` and reads
`sealed`. -/
theorem samples_spare : sampleHost.Spares sampleSecret ∧ sampleSecret.Spares sampleHost := by
  have hhost : ∀ k, sampleHost.Assigns k → k = "host" := fun k ⟨a, ha, hk⟩ => by
    obtain h | h := contains_sampleHost ha <;> cases h
    exact (Option.some.inj hk).symm
  have hsecret : ∀ k, sampleSecret.Assigns k → k = "secret" := fun k ⟨a, ha, hk⟩ => by
    cases Statement.contains_assign ha
    exact (Option.some.inj hk).symm
  refine ⟨fun k hk => ?_, fun k hk => ?_⟩
  · obtain rfl := hhost k hk
    refine ⟨fun h => by simpa using hsecret _ h, fun ⟨t, ht, hread⟩ => ?_⟩
    obtain rfl := Statement.contains_assign ht
    exact absurd hread (by decide)
  · obtain rfl := hsecret k hk
    refine ⟨fun h => by simpa using hhost _ h, fun ⟨t, ht, hread⟩ => ?_⟩
    obtain rfl | rfl := contains_sampleHost ht <;> exact absurd hread (by decide)

/-- Below a level with the keys that the samples read, the host and the secret come out in either
order. -/
theorem independent_statements_commute_sample :
    let ctx : Context := ⟨some ⟨fun _ ciphertext => .ok ciphertext⟩,
      [.ofPairs [("stage", "prod"), ("wanted", "prod"), ("sealed", "x")]]⟩
    sampleHost.HasConstantKeys ∧ sampleSecret.HasConstantKeys ∧
    sampleHost.Spares sampleSecret ∧ sampleSecret.Spares sampleHost ∧
    (sampleHost.run ctx .empty).error = none ∧ (sampleSecret.run ctx .empty).error = none ∧
    ((Statement.block [sampleSecret, sampleHost]).run ctx .empty).level.entries =
      [("secret", "x"), ("host", "db.prod")] ∧
    ((Statement.block [sampleHost, sampleSecret]).run ctx .empty).level.get? "host" =
      some "db.prod" := by
  intro ctx
  obtain ⟨hhost, hsecret⟩ := samples_spare
  have hrunHost : (sampleHost.run ctx .empty).error = none := by decide
  have hrunSecret : (sampleSecret.run ctx .empty).error = none := by decide
  have hother : ((Statement.block [sampleSecret, sampleHost]).run ctx .empty).level.entries =
      [("secret", "x"), ("host", "db.prod")] := by decide
  refine ⟨sampleHost_hasConstantKeys, sampleSecret_hasConstantKeys, hhost, hsecret, hrunHost,
    hrunSecret, hother, ?_⟩
  rw [(independent_statements_commute sampleHost_hasConstantKeys sampleSecret_hasConstantKeys
    hhost hsecret hrunHost hrunSecret).2.2.2, Level.get?, hother]
  rfl

end PropertyDocs
