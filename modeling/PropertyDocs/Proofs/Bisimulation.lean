import PropertyDocs.Proofs.Execution

/-!
# Two runs side by side

A relation between leaves below different ancestors that shows the same values and outlasts every
kind of writing outlasts every run: both runs end with the same error, have called the decryptor
alike, and leave related leaves. Removals matter apart from the other writings, since they uncover
what the ancestors have; only bindings remove, and only the numerals of their pattern.
-/
namespace PropertyDocs

/-- Two outcomes with the same error and calls and with related levels. -/
structure Outcome.Agree (R : Level → Level → Prop) (o p : Outcome) : Prop where
  error : o.error = p.error
  calls : o.calls = p.calls
  level : R o.level p.level

namespace Outcome.Agree
variable {R S : Level → Level → Prop}

theorem done {l m : Level} (h : R l m) : Agree R (.done l) (.done m) := ⟨rfl, rfl, h⟩

theorem failed {l m : Level} (h : R l m) (e : EvaluationError) :
    Agree R (.failed l e) (.failed m e) := ⟨rfl, rfl, h⟩

theorem mapLevel {o p : Outcome} {f g : Level → Level} (h : Agree R o p)
    (hfg : R o.level p.level → S (f o.level) (g p.level)) :
    Agree S (o.mapLevel f) (p.mapLevel g) := ⟨h.error, h.calls, hfg h.level⟩

theorem andThen {o p : Outcome} {f g : Level → Outcome} (h : Agree R o p)
    (hfg : ∀ l m, R l m → Agree R (f l) (g m)) : Agree R (o.andThen f) (p.andThen g) := by
  cases he : o.error with
  | some e =>
    rw [andThen_of_error he, andThen_of_error (h.error.symm.trans he)]
    exact h
  | none =>
    rw [andThen_of_none he, andThen_of_none (h.error.symm.trans he)]
    have hnext := hfg _ _ h.level
    exact ⟨hnext.error, by simp only [h.calls, hnext.calls], hnext.level⟩

theorem onValue {α : Type} {l m : Level} {v w : Except EvaluationError α} {f g : α → Outcome}
    (h : R l m) (hvw : v = w) (hfg : ∀ a, Agree R (f a) (g a)) :
    Agree R (.onValue l v f) (.onValue m w g) := by
  subst hvw
  cases v with
  | error e => exact failed h e
  | ok a => exact hfg a

theorem eq {o p : Outcome} (h : Agree Eq o p) : o = p := by
  cases o; cases p
  obtain ⟨rfl, rfl, rfl⟩ := h
  rfl

end Outcome.Agree

/-! ## Expressions and tests read values -/

section
variable {c c' : Chain} (h : c.value = c'.value)
include h

theorem Expression.eval_congr (e : Expression) : e.eval c = e.eval c' := by
  cases e <;> simp only [eval, h]

theorem Expression.lookup_congr (key : Expression) : key.lookup c = key.lookup c' := by
  rw [lookup, lookup, key.eval_congr h, h]

theorem Test.eval_congr (t : Test) : t.eval c = t.eval c' := by
  induction t with
  | truthy key => rw [eval, eval, key.lookup_congr h]
  | equals key value caseSensitive => rw [eval, eval, key.lookup_congr h, value.eval_congr h]
  | matchesPattern key pattern => rw [eval, eval, key.lookup_congr h]
  | not test ih => rw [eval, eval, ih]
  | foreign kind => rfl

theorem chosen_congr (otherwise : Option Statement) (whens : List (Test × Statement)) :
    chosen c otherwise whens = chosen c' otherwise whens := by
  induction whens with
  | nil => rfl
  | cons w whens ih => simp only [chosen, w.1.eval_congr h, ih]

theorem Statement.picked_congr (s : Statement) : s.picked c = s.picked c' := by
  cases s with
  | choose whens otherwise => exact chosen_congr h otherwise whens
  | table selector separator rows otherwise => simp only [picked, selector.eval_congr h]
  | assign | block | matchPattern | error | foreign => rfl

end

/-! ## Relations that runs keep -/

/-- Blocks whose statements are run alike are run alike. -/
theorem runAll_agree {ctx ctx' : Context} {R : Level → Level → Prop} {body : List Statement}
    (ih : ∀ s ∈ body, ∀ a b, R a b → (s.run ctx a).Agree R (s.run ctx' b)) :
    ∀ a b, R a b → (runAll ctx body a).Agree R (runAll ctx' body b) := by
  induction body with
  | nil => intro a b h; simp only [runAll]; exact .done h
  | cons s rest ihRest =>
    intro a b h
    simp only [runAll]
    exact (ih s (by simp) a b h).andThen (ihRest fun t ht => ih t (by simp [ht]))

/-- What is picked is run alike, if the same is picked. -/
theorem picked_agree {ctx ctx' : Context} {R : Level → Level → Prop} {s : Statement}
    {a b : Level} (ih : ∀ t ∈ s.children, ∀ a b, R a b → (t.run ctx a).Agree R (t.run ctx' b))
    (h : R a b) (hsame : s.picked (ctx.chain a) = s.picked (ctx'.chain b)) :
    (Outcome.onValue a (s.picked (ctx.chain a)) fun t => runOption ctx t a).Agree R
      (Outcome.onValue b (s.picked (ctx'.chain b)) fun t => runOption ctx' t b) := by
  rw [← hsame]
  cases hp : s.picked (ctx.chain a) with
  | error e => exact .failed h e
  | ok t =>
    cases t with
    | none => simp only [Outcome.onValue, runOption]; exact .done h
    | some t =>
      simp only [Outcome.onValue, runOption]
      exact ih t (Statement.mem_children_of_picked hp) a b h

theorem putDecrypted_agree {R : Level → Level → Prop} {d : Option Decryptor} {a b : Level}
    (h : R a b) (key ciphertext : String) (hput : ∀ plain, R (a.put key plain) (b.put key plain)) :
    (putDecrypted d key ciphertext a).Agree R (putDecrypted d key ciphertext b) := by
  unfold putDecrypted
  cases d with
  | none => exact .failed h _
  | some d =>
    simp only
    cases d.decrypt key ciphertext with
    | ok plain => exact ⟨rfl, rfl, hput plain⟩
    | error cause => exact ⟨rfl, rfl, h⟩

/-- Whether the match patterns in a statement bind no other keys than those in `N`. -/
def BindsOnly (N : String → Prop) (s : Statement) : Prop :=
  ∀ value pattern body, s.Contains (.matchPattern value pattern body) →
    ∀ k ∈ numerals pattern.groups, N k

theorem BindsOnly.child {N : String → Prop} {s t : Statement} (h : BindsOnly N s)
    (ht : t ∈ s.children) : BindsOnly N t := fun value pattern body hc =>
  h value pattern body (.inner ht hc)

/-- A relation between the leaves below `P` and those below `Q` that is kept by what runs write,
when keys are removed from `N` alone. -/
structure Bisimulation (P Q : List Level) (N : String → Prop) (R : Level → Level → Prop) :
    Prop where
  value {a b : Level} : R a b → (Chain.mk a P).value = (Chain.mk b Q).value
  put {a b : Level} : R a b → ∀ key value, R (a.put key value) (b.put key value)
  remove {a b : Level} : R a b → ∀ key, N key → R (a.remove key) (b.remove key)
  restore {a b a' b' : Level} : R a b → R a' b' → ∀ n,
    R (restoreFrom a 0 (n + 1) a') (restoreFrom b 0 (n + 1) b')

namespace Bisimulation
variable {P Q : List Level} {N : String → Prop} {R : Level → Level → Prop}
  (bisim : Bisimulation P Q N R) {d : Option Decryptor} {a b : Level}
include bisim

theorem bindFrom (groups : List (Option String)) :
    ∀ {a b : Level} (i : Nat), R a b → (∀ j, i ≤ j → j < i + groups.length → N (toString j)) →
      R (bindFrom i groups a) (bindFrom i groups b) := by
  induction groups with
  | nil => intro a b i h _; exact h
  | cons group groups ih =>
    intro a b i h hN
    have hrest : ∀ j, i + 1 ≤ j → j < i + 1 + groups.length → N (toString j) := fun j h1 h2 =>
      hN j (by omega) (by simp only [List.length_cons]; omega)
    cases group with
    | some text => exact ih (i + 1) (bisim.put h (toString i) text) hrest
    | none => exact ih (i + 1) (bisim.remove h (toString i) (hN i (Nat.le_refl i) (by simp))) hrest

theorem assignment (h : R a b) (s : Assignment) :
    (s.run ⟨d, P⟩ a).Agree R (s.run ⟨d, Q⟩ b) := by
  have hvalue := bisim.value h
  unfold Assignment.run
  refine .onValue h (s.key.eval_congr hvalue) fun key => ?_
  simp only [Context.chain, hvalue]
  split
  · exact .done (bisim.put h key _)
  · refine .onValue h (s.value.eval_congr hvalue) fun value => ?_
    split
    · exact putDecrypted_agree h key value (bisim.put h key)
    · exact .done (bisim.put h key value)

/-- **A bisimulation is kept by every run**, and both runs fail or call alike. -/
theorem run (s : Statement) : BindsOnly N s →
    ∀ a b, R a b → (s.run ⟨d, P⟩ a).Agree R (s.run ⟨d, Q⟩ b) := by
  induction s using Statement.induct with
  | step s ih =>
    intro hN a b h
    have hchild : ∀ t ∈ s.children, ∀ a b, R a b →
        (t.run ⟨d, P⟩ a).Agree R (t.run ⟨d, Q⟩ b) := fun t ht => ih t ht (hN.child ht)
    have hvalue := bisim.value h
    cases s with
    | assign s => simp only [Statement.run]; exact bisim.assignment h s
    | block body => simp only [Statement.run]; exact runAll_agree hchild a b h
    | choose whens otherwise =>
      rw [run_choose, run_choose]; exact picked_agree hchild h (Statement.picked_congr hvalue _)
    | table selector separator rows otherwise =>
      rw [run_table, run_table]; exact picked_agree hchild h (Statement.picked_congr hvalue _)
    | matchPattern value pattern body =>
      simp only [Statement.run]
      refine .onValue h (value.eval_congr hvalue) fun text => ?_
      cases hmatch : Texts.fullMatch? pattern text with
      | none => exact .done h
      | some groups =>
        have hlen := Pattern.length_of_fullMatch? hmatch
        have hnumerals : ∀ j, 0 ≤ j → j < 0 + groups.length → N (toString j) := fun j _ hj =>
          hN value pattern body (.self _) _ (mem_numerals.2 ⟨j, by omega, rfl⟩)
        have hbody := hchild body (by simp [Statement.children]) _ _
          (bisim.bindFrom groups 0 h hnumerals)
        refine hbody.mapLevel fun hlevel => ?_
        rw [hlen]
        exact bisim.restore h hlevel pattern.groups
    | error message =>
      simp only [Statement.run]
      exact .onValue h (message.eval_congr hvalue) fun text => .failed h _
    | foreign kind => simp only [Statement.run]; exact .failed h _

end Bisimulation

end PropertyDocs
