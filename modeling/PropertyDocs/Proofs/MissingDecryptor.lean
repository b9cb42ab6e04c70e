import PropertyDocs.Proofs.Execution

/-!
# Runs without a decryptor

A run without a decryptor and the same run with one go together until the first ciphertext is to be
decrypted. There the one fails, and the other makes its first call, for the key of the error; a run
that comes to no ciphertext is the same with every decryptor and without.
-/
namespace PropertyDocs

/-! ## Evaluating an expression or a test -/

/-- The error is about a form that the evaluation does not know. -/
def EvaluationError.IsUnknown : EvaluationError → Prop
  | unknownStatement _ | unknownExpression _ | unknownTest _ => True
  | configuration _ | missingDecryptor _ | decryption _ _ => False

section
variable {c : Chain} {e : EvaluationError}

theorem Expression.isUnknown_of_eval {x : Expression} (h : x.eval c = .error e) :
    e.IsUnknown := by
  cases x with
  | template t => cases h
  | literal value => cases h
  | foreign kind =>
    obtain rfl : EvaluationError.unknownExpression kind = e := Except.error.inj h
    trivial

theorem Expression.isUnknown_of_lookup {key : Expression} (h : key.lookup c = .error e) :
    e.IsUnknown := by
  unfold lookup at h
  cases hk : key.eval c with
  | ok k => simp [hk, Except.map] at h
  | error e' =>
    obtain rfl : e' = e := by simpa [hk, Except.map] using h
    exact isUnknown_of_eval hk

theorem Test.isUnknown_of_eval {test : Test} (h : test.eval c = .error e) : e.IsUnknown := by
  induction test with
  | truthy key =>
    cases hk : key.lookup c with
    | ok k => simp [eval, hk, Except.map] at h
    | error e' =>
      obtain rfl : e' = e := by simpa [eval, hk, Except.map] using h
      exact Expression.isUnknown_of_lookup hk
  | equals key value caseSensitive =>
    cases hk : key.lookup c with
    | error e' =>
      obtain rfl : e' = e := by simpa [eval, hk, bind, Except.bind] using h
      exact Expression.isUnknown_of_lookup hk
    | ok k =>
      cases hv : value.eval c with
      | error e' =>
        obtain rfl : e' = e := by simpa [eval, hk, hv, bind, Except.bind] using h
        exact Expression.isUnknown_of_eval hv
      | ok v => simp [eval, hk, hv, bind, Except.bind, pure, Except.pure] at h
  | matchesPattern key pattern =>
    cases hk : key.lookup c with
    | ok k => simp [eval, hk, Except.map] at h
    | error e' =>
      obtain rfl : e' = e := by simpa [eval, hk, Except.map] using h
      exact Expression.isUnknown_of_lookup hk
  | not test ih =>
    cases ht : test.eval c with
    | ok holds => simp [eval, ht, Except.map] at h
    | error e' =>
      obtain rfl : e' = e := by simpa [eval, ht, Except.map] using h
      exact ih ht
  | foreign kind =>
    obtain rfl : EvaluationError.unknownTest kind = e := by simpa [eval] using h
    trivial

theorem isUnknown_of_chosen {otherwise : Option Statement} {whens : List (Test × Statement)}
    (h : chosen c otherwise whens = .error e) : e.IsUnknown := by
  induction whens with
  | nil => cases h
  | cons w whens ih =>
    obtain ⟨test, body⟩ := w
    rw [chosen] at h
    cases ht : test.eval c with
    | error e' =>
      obtain rfl : e' = e := by simpa [ht, bind, Except.bind] using h
      exact Test.isUnknown_of_eval ht
    | ok holds =>
      cases holds with
      | true => simp [ht, bind, Except.bind, pure, Except.pure] at h
      | false => exact ih (by simpa [ht, bind, Except.bind] using h)

theorem Statement.isUnknown_of_picked {s : Statement} (h : s.picked c = .error e) :
    e.IsUnknown := by
  cases s with
  | choose whens otherwise => exact isUnknown_of_chosen h
  | table selector separator rows otherwise =>
    cases ht : selector.eval c with
    | ok text => simp [picked, ht, Except.map] at h
    | error e' =>
      obtain rfl : e' = e := by simpa [picked, ht, Except.map] using h
      exact Expression.isUnknown_of_eval ht
  | assign | block | matchPattern | error | foreign => cases h

end

/-! ## Two runs side by side -/

/-- How what a run without a decryptor comes to, `o`, goes with what it comes to with `d`, `p`. -/
inductive GoesWith (d : Decryptor) (o p : Outcome) : Prop
  /-- No ciphertext is to be decrypted. -/
  | throughout : o = p → p.calls = [] → (∀ key, p.error ≠ some (.missingDecryptor key)) →
      GoesWith d o p
  /-- They part at the ciphertext of `key`, on the same leaf. -/
  | untilCall (key ciphertext : String) (later : List (String × String)) :
      o.error = some (.missingDecryptor key) → p.calls = (key, ciphertext) :: later →
      (∀ cause, d.decrypt key ciphertext = .error cause →
        p = ⟨o.level, [(key, ciphertext)], some (.decryption key cause)⟩) → GoesWith d o p

namespace GoesWith
variable {d : Decryptor} {o p : Outcome}

theorem done (l : Level) : GoesWith d (.done l) (.done l) :=
  .throughout rfl rfl (by simp [Outcome.done])

theorem configuration (l : Level) (message : String) :
    GoesWith d (.failed l (.configuration message)) (.failed l (.configuration message)) :=
  .throughout rfl rfl (by simp [Outcome.failed])

theorem unknown (l : Level) {e : EvaluationError} (he : e.IsUnknown) :
    GoesWith d (.failed l e) (.failed l e) := by
  refine .throughout rfl rfl fun key hkey => ?_
  obtain rfl : e = .missingDecryptor key := Option.some.inj hkey
  exact he

theorem mapLevel (h : GoesWith d o p) (f : Level → Level) :
    GoesWith d (o.mapLevel f) (p.mapLevel f) := by
  cases h with
  | throughout heq hcalls herror =>
    subst heq
    exact .throughout rfl hcalls herror
  | untilCall key ciphertext later hmissing hcalls hfail =>
    refine .untilCall key ciphertext later hmissing hcalls fun cause hcause => ?_
    rw [hfail cause hcause]
    rfl

/-- Two runs that go together go together with what follows, from the leaf that they are at. -/
theorem andThen {f g : Level → Outcome} (h : GoesWith d o p)
    (hnext : ∀ l, GoesWith d (f l) (g l)) : GoesWith d (o.andThen f) (p.andThen g) := by
  cases h with
  | throughout heq hcalls herror =>
    subst heq
    cases ho : o.error with
    | some e =>
      rw [Outcome.andThen_of_error ho, Outcome.andThen_of_error ho]
      exact .throughout rfl hcalls herror
    | none =>
      rw [Outcome.andThen_of_none ho, Outcome.andThen_of_none ho, hcalls]
      exact hnext o.level
  | untilCall key ciphertext later hmissing hcalls hfail =>
    rw [Outcome.andThen_of_error hmissing]
    -- the first call is made before anything follows, and if it fails nothing does
    have hfirst : ∃ later', (p.andThen g).calls = (key, ciphertext) :: later' := by
      cases hp : p.error with
      | some e => exact ⟨later, by rw [Outcome.andThen_of_error hp, hcalls]⟩
      | none =>
        refine ⟨later ++ (g p.level).calls, ?_⟩
        rw [Outcome.andThen_of_none hp, hcalls, List.cons_append]
    obtain ⟨later', hlater⟩ := hfirst
    refine .untilCall key ciphertext later' hmissing hlater fun cause hcause => ?_
    have hp := hfail cause hcause
    rw [Outcome.andThen_of_error (e := .decryption key cause) (by rw [hp]), hp]

theorem onValue {α : Type} {l : Level} {value : Except EvaluationError α} {f g : α → Outcome}
    (hvalue : ∀ e, value = .error e → e.IsUnknown) (hnext : ∀ a, GoesWith d (f a) (g a)) :
    GoesWith d (.onValue l value f) (.onValue l value g) := by
  cases value with
  | error e => exact unknown l (hvalue e rfl)
  | ok a => exact hnext a

/-- At a ciphertext the runs part. -/
theorem putDecrypted (key ciphertext : String) (l : Level) :
    GoesWith d (putDecrypted none key ciphertext l) (putDecrypted (some d) key ciphertext l) := by
  unfold PropertyDocs.putDecrypted
  simp only
  cases hplain : d.decrypt key ciphertext with
  | ok plain =>
    refine .untilCall key ciphertext [] rfl rfl fun cause hcause => ?_
    rw [hplain] at hcause
    cases hcause
  | error cause =>
    refine .untilCall key ciphertext [] rfl rfl fun cause' hcause => ?_
    obtain rfl : cause = cause' := Except.error.inj (hplain.symm.trans hcause)
    rfl

section
variable {ancestors : List Level}

theorem assignment (a : Assignment) (l : Level) :
    GoesWith d (a.run ⟨none, ancestors⟩ l) (a.run ⟨some d, ancestors⟩ l) := by
  unfold Assignment.run
  refine onValue (fun _ => Expression.isUnknown_of_eval) fun key => ?_
  simp only [Context.chain]
  split
  · exact done _
  · refine onValue (fun _ => Expression.isUnknown_of_eval) fun value => ?_
    split
    · exact putDecrypted key value l
    · exact done _

theorem runAll {body : List Statement}
    (ih : ∀ s ∈ body, ∀ l, GoesWith d (s.run ⟨none, ancestors⟩ l) (s.run ⟨some d, ancestors⟩ l)) :
    ∀ l, GoesWith d (runAll ⟨none, ancestors⟩ body l) (runAll ⟨some d, ancestors⟩ body l) := by
  induction body with
  | nil =>
    intro l
    rw [PropertyDocs.runAll, PropertyDocs.runAll]
    exact done l
  | cons s rest ihRest =>
    intro l
    rw [PropertyDocs.runAll, PropertyDocs.runAll]
    exact (ih s (by simp) l).andThen (ihRest fun t ht => ih t (by simp [ht]))

theorem picked {s : Statement}
    (ih : ∀ t ∈ s.children, ∀ l,
      GoesWith d (t.run ⟨none, ancestors⟩ l) (t.run ⟨some d, ancestors⟩ l)) (l : Level) :
    GoesWith d
      (.onValue l (s.picked ⟨l, ancestors⟩) fun t => runOption ⟨none, ancestors⟩ t l)
      (.onValue l (s.picked ⟨l, ancestors⟩) fun t => runOption ⟨some d, ancestors⟩ t l) := by
  cases hp : s.picked ⟨l, ancestors⟩ with
  | error e => exact unknown l (Statement.isUnknown_of_picked hp)
  | ok t =>
    cases t with
    | none =>
      simp only [Outcome.onValue, runOption]
      exact done l
    | some t =>
      simp only [Outcome.onValue, runOption]
      exact ih t (Statement.mem_children_of_picked hp) l

/-- **A run without a decryptor goes with every run with one**, up to the first call. -/
theorem run (d : Decryptor) (ancestors : List Level) (s : Statement) :
    ∀ l, GoesWith d (s.run ⟨none, ancestors⟩ l) (s.run ⟨some d, ancestors⟩ l) := by
  induction s using Statement.induct with
  | step s ih =>
    intro l
    cases s with
    | assign a =>
      rw [Statement.run, Statement.run]
      exact assignment a l
    | block body =>
      rw [Statement.run, Statement.run]
      exact runAll ih l
    | choose whens otherwise =>
      rw [run_choose, run_choose]
      exact picked ih l
    | table selector separator rows otherwise =>
      rw [run_table, run_table]
      exact picked ih l
    | matchPattern value pattern body =>
      rw [Statement.run, Statement.run]
      refine onValue (fun _ => Expression.isUnknown_of_eval) fun text => ?_
      cases Texts.fullMatch? pattern text with
      | none => exact done l
      | some groups =>
        -- the bindings are undone on both leaves, which are the same up to the call
        exact (ih body (by simp [Statement.children]) _).mapLevel _
    | error message =>
      rw [Statement.run, Statement.run]
      exact onValue (fun _ => Expression.isUnknown_of_eval) fun text => configuration l text
    | foreign kind =>
      rw [Statement.run, Statement.run]
      exact unknown l trivial

end

end GoesWith

/-- A run with a decryptor that makes no calls is the same with every other one and without. -/
theorem run_eq_of_noCalls {d : Decryptor} {s : Statement} {ancestors : List Level} {l : Level}
    (h : (s.run ⟨some d, ancestors⟩ l).calls = []) (other : Option Decryptor) :
    s.run ⟨other, ancestors⟩ l = s.run ⟨some d, ancestors⟩ l := by
  have hnone : s.run ⟨none, ancestors⟩ l = s.run ⟨some d, ancestors⟩ l ∧
      ∀ key, (s.run ⟨none, ancestors⟩ l).error ≠ some (.missingDecryptor key) := by
    cases GoesWith.run d ancestors s l with
    | throughout heq _ herror => exact ⟨heq, fun key => heq ▸ herror key⟩
    | untilCall key ciphertext later _ hcalls _ => simp [h] at hcalls
  obtain ⟨heq, hmissing⟩ := hnone
  cases other with
  | none => exact heq
  | some d' =>
    cases GoesWith.run d' ancestors s l with
    | throughout heq' _ _ => exact heq'.symm.trans heq
    | untilCall key ciphertext later hmissing' _ _ => exact absurd hmissing' (hmissing key)

/-- A default whose key has a value is written as it is, encrypted or not. -/
theorem Assignment.run_of_present {a : Assignment} (ha : a.defaultOnly = true) {ctx : Context}
    {l : Level} {key : String} (hkey : a.key.eval (ctx.chain l) = .ok key)
    (hpresent : (ctx.chain l).value key ≠ "") :
    a.run ctx l = .done (l.put key ((ctx.chain l).value key)) := by
  simp [run, hkey, Outcome.onValue, ha, hpresent]

/-- **A missing decryptor is met exactly at the first decryption.** Either a run is the same
without a decryptor as with `d`, and no call is made; or it fails without one for some key, and
with `d` its first call is for that key, and if this call fails the leaf is left the same. So a run
that makes no call does not depend on the decryptor, and a default whose key has a value makes none,
encrypted or not. -/
theorem missing_at_first_call (d : Decryptor) (s : Statement) (ancestors : List Level)
    (l : Level) :
    let without := s.run ⟨none, ancestors⟩ l
    let given := s.run ⟨some d, ancestors⟩ l
    ((without = given ∧ given.calls = []) ∨
      ∃ key ciphertext later, without.error = some (.missingDecryptor key) ∧
        given.calls = (key, ciphertext) :: later ∧
        ∀ cause, d.decrypt key ciphertext = .error cause →
          given.error = some (.decryption key cause) ∧ later = [] ∧
            given.level = without.level) ∧
    (given.calls = [] → ∀ other, s.run ⟨other, ancestors⟩ l = given) ∧
    ∀ a key, s = .assign a → a.defaultOnly = true → a.key.eval ⟨l, ancestors⟩ = .ok key →
      (Chain.mk l ancestors).value key ≠ "" → without = given ∧ given.calls = [] ∧
        given.error = none ∧ given.level = l.put key ((Chain.mk l ancestors).value key) := by
  intro without given
  refine ⟨?_, fun hcalls other => run_eq_of_noCalls hcalls other, ?_⟩
  · cases GoesWith.run d ancestors s l with
    | throughout heq hcalls _ => exact .inl ⟨heq, hcalls⟩
    | untilCall key ciphertext later hmissing hcalls hfail =>
      refine .inr ⟨key, ciphertext, later, hmissing, hcalls, fun cause hcause => ?_⟩
      have hgiven : given = ⟨without.level, [(key, ciphertext)], some (.decryption key cause)⟩ :=
        hfail cause hcause
      have hlater : (key, ciphertext) :: later = [(key, ciphertext)] := by
        rw [← hcalls]
        exact congrArg Outcome.calls hgiven
      exact ⟨by rw [hgiven], (List.cons.inj hlater).2, by rw [hgiven]⟩
  · rintro a key rfl hdefault hkey hpresent
    have hrun : ∀ decryptor : Option Decryptor, (Statement.assign a).run ⟨decryptor, ancestors⟩ l =
        .done (l.put key ((Chain.mk l ancestors).value key)) := fun decryptor => by
      rw [Statement.run]
      exact Assignment.run_of_present hdefault hkey hpresent
    have hgiven : given = .done (l.put key ((Chain.mk l ancestors).value key)) := hrun (some d)
    refine ⟨(hrun none).trans hgiven.symm, ?_⟩
    rw [hgiven]
    exact ⟨rfl, rfl, rfl⟩

/-- Fails for every ciphertext. -/
def Decryptor.refusing : Decryptor := ⟨fun _ _ => .error "refused"⟩

/-- The sample with a ciphertext that is the first group of the match. -/
def Statement.encryptedSample : Statement :=
  .sample (.assign { key := .literal "b", value := .template ⟨"", [("1", "")]⟩,
                     defaultOnly := false, encrypted := true })

/-- The call is made inside the match, whose bindings are gone from both leaves. -/
theorem missing_at_first_call_sample :
    (Statement.encryptedSample.run ⟨none, []⟩ .empty).error = some (.missingDecryptor "b") ∧
    (Statement.encryptedSample.run ⟨some .refusing, []⟩ .empty).calls = [("b", "7")] ∧
    (Statement.encryptedSample.run ⟨some .refusing, []⟩ .empty).level =
      (Statement.encryptedSample.run ⟨none, []⟩ .empty).level := by
  have hcall : (Statement.encryptedSample.run ⟨some .refusing, []⟩ .empty).calls =
      [("b", "7")] := by decide
  rcases (missing_at_first_call .refusing .encryptedSample [] .empty).1 with
    ⟨-, hnone⟩ | ⟨key, ciphertext, later, hmissing, hfirst, hfail⟩
  · rw [hcall] at hnone
    cases hnone
  · obtain ⟨⟨rfl, rfl⟩, -⟩ : (key = "b" ∧ ciphertext = "7") ∧ later = [] := by
      simpa [hcall] using hfirst.symm
    exact ⟨hmissing, hcall, (hfail "refused" rfl).2.2⟩

end PropertyDocs
