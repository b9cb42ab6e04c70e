import PropertyDocs.Proofs.Visits

/-!
# Bindings stay inside

A run changes a key of the leaf only through an assignment to it that completes outside every match
pattern binding that key. What a match pattern binds is afterwards as it was before, however its
body ends and whatever it writes.
-/
namespace PropertyDocs

/-- **A match pattern gives back what it binds**, whether or not its body fails. -/
theorem get?_run_matchPattern (ctx : Context) (value : Expression) (pattern : Pattern)
    (body : Statement) (l : Level) {k : String} (hk : k ∈ numerals pattern.groups) :
    ((Statement.matchPattern value pattern body).run ctx l).level.get? k = l.get? k := by
  cases hvalue : value.eval (ctx.chain l) with
  | error e => rw [run_matchPattern_of_error hvalue]; rfl
  | ok text =>
    cases hmatch : pattern.fullMatch? text with
    | none => rw [run_matchPattern_of_noMatch hvalue hmatch]; rfl
    | some groups =>
      rw [run_matchPattern_of_match hvalue hmatch]
      exact get?_restoreFrom_numeral hk l _

section
variable {ctx : Context} {k : String}

/-- Every assignment to `k` that completes among these visits stands inside a match pattern that
binds `k`. -/
def OnlyScoped (ctx : Context) (k : String) (visits : List Visit) : Prop :=
  ∀ v ∈ visits, v.key? ctx = some k → v.Completes ctx → v.Scoped k

theorem get?_runAll_of_onlyScoped {body : List Statement}
    (ih : ∀ s ∈ body, ∀ l, OnlyScoped ctx k (s.visits ctx l) →
      (s.run ctx l).level.get? k = l.get? k)
    (l : Level) (h : OnlyScoped ctx k (visitsAll ctx body l)) :
    (runAll ctx body l).level.get? k = l.get? k := by
  induction body generalizing l with
  | nil => simp only [runAll, Outcome.done]
  | cons s rest ihRest =>
    have hs : (s.run ctx l).level.get? k = l.get? k :=
      ih s (by simp) l fun v hv => h v (mem_visitsAll_head hv)
    rw [runAll]
    cases he : (s.run ctx l).error with
    | some e => rw [Outcome.andThen_of_error he]; exact hs
    | none =>
      rw [Outcome.andThen_of_none he]
      have hrest := ihRest (fun t ht => ih t (by simp [ht])) (s.run ctx l).level fun v hv =>
        h v (mem_visitsAll_tail he hv)
      exact hrest.trans hs

theorem get?_picked_of_onlyScoped {s : Statement}
    (ih : ∀ t ∈ s.children, ∀ l, OnlyScoped ctx k (t.visits ctx l) →
      (t.run ctx l).level.get? k = l.get? k)
    (l : Level) (h : OnlyScoped ctx k (s.visits ctx l)) :
    (Outcome.onValue l (s.picked (ctx.chain l)) fun t => runOption ctx t l).level.get? k =
      l.get? k := by
  cases hp : s.picked (ctx.chain l) with
  | error e => rfl
  | ok picked =>
    cases picked with
    | none => simp only [Outcome.onValue, runOption, Outcome.done]
    | some t =>
      simp only [Outcome.onValue, runOption]
      exact ih t (Statement.mem_children_of_picked hp) l fun v hv =>
        h v (mem_visits_of_picked hp hv)

/-- A key that no completed assignment writes outside its scopes is as it was. -/
theorem get?_run_of_onlyScoped (s : Statement) :
    ∀ l, OnlyScoped ctx k (s.visits ctx l) → (s.run ctx l).level.get? k = l.get? k := by
  induction s using Statement.induct with
  | step s ih =>
    intro l h
    cases s with
    | assign a =>
      rw [Statement.run]
      rcases a.run_cases ctx l with ⟨e, -, hl⟩ | ⟨key, value, hkey, hnone, hl⟩
      · rw [hl]
      · rw [hl]
        refine Level.get?_put_of_ne l value fun hk => ?_
        -- the assignment is run outside every match pattern
        obtain ⟨n, hn, -⟩ := h ⟨[], .assign a, l⟩ (mem_visits_self _)
          (by simp [Visit.key?, hkey, hk, Except.toOption])
          (by simp only [Visit.Completes, Statement.run, hnone])
        simp at hn
    | block body =>
      rw [Statement.run]
      refine get?_runAll_of_onlyScoped ih l fun v hv => h v ?_
      rw [Statement.visits]; exact List.mem_cons_of_mem _ hv
    | choose whens otherwise => rw [run_choose]; exact get?_picked_of_onlyScoped ih l h
    | table selector separator rows otherwise =>
      rw [run_table]; exact get?_picked_of_onlyScoped ih l h
    | matchPattern value pattern body =>
      by_cases hk : k ∈ numerals pattern.groups
      · exact get?_run_matchPattern ctx value pattern body l hk
      cases hvalue : value.eval (ctx.chain l) with
      | error e => rw [run_matchPattern_of_error hvalue]; rfl
      | ok text =>
        cases hmatch : pattern.fullMatch? text with
        | none => rw [run_matchPattern_of_noMatch hvalue hmatch]; rfl
        | some groups =>
          have hbody := ih body (by simp [Statement.children]) (bindFrom 0 groups l)
            fun v hv hkey hdone => by
              have hmem : v.inside pattern.groups ∈
                  (Statement.matchPattern value pattern body).visits ctx l := by
                rw [visits_matchPattern_of_match hvalue hmatch]
                exact List.mem_cons_of_mem _ (List.mem_map_of_mem hv)
              -- the pattern itself does not bind `k`, so one inside it does
              obtain ⟨n, hn, hkn⟩ := h (v.inside pattern.groups) hmem hkey hdone
              rcases List.mem_cons.1 hn with rfl | hn
              · exact absurd hkn hk
              · exact ⟨n, hn, hkn⟩
          rw [run_matchPattern_of_match hvalue hmatch]
          simp only [Outcome.mapLevel]
          rw [get?_restoreFrom_other hk, hbody,
            get?_bindFrom_other hk (Pattern.length_of_fullMatch? hmatch)]
    | error message =>
      rw [Statement.run]
      cases message.eval (ctx.chain l) <;> rfl
    | foreign kind => simp only [Statement.run, Outcome.failed]

end

/-- **Bindings never leak.** Whether a run fails or not, a key of the leaf is changed only by an
assignment to it that completes and stands in no match pattern binding it; and a match pattern
leaves all that it binds. -/
theorem run_changes_only_unscoped (ctx : Context) (s : Statement) (l : Level) :
    (∀ k, (s.run ctx l).level.get? k ≠ l.get? k →
      ∃ v ∈ s.visits ctx l, v.key? ctx = some k ∧ v.Completes ctx ∧ ¬ v.Scoped k) ∧
    ∀ value pattern body, s = .matchPattern value pattern body → ∀ i ≤ pattern.groups,
      (s.run ctx l).level.get? (toString i) = l.get? (toString i) := by
  constructor
  · intro k hchange
    refine Classical.byContradiction fun hnone => hchange ?_
    refine get?_run_of_onlyScoped s l fun v hv hkey hdone => ?_
    exact Classical.byContradiction fun hscoped => hnone ⟨v, hv, hkey, hdone, hscoped⟩
  · rintro value pattern body rfl i hi
    exact get?_run_matchPattern ctx value pattern body l (mem_numerals.2 ⟨i, hi, rfl⟩)

/-- The sample changes `a`, and leaves `1` empty and `2` absent although its body writes the one and
fails at the other. -/
theorem run_changes_only_unscoped_sample :
    (∃ v ∈ (Statement.sample (.assign ⟨.literal "1", .literal "w", false, true⟩)).visits ⟨none, []⟩
        (.ofPairs [("1", "")]),
      v.key? ⟨none, []⟩ = some "a" ∧ v.Completes ⟨none, []⟩ ∧ ¬ v.Scoped "a") ∧
    ((Statement.sample (.assign ⟨.literal "1", .literal "w", false, false⟩)).run ⟨none, []⟩
      (.ofPairs [("1", "")])).level.get? (toString 1) = some "" := by
  refine ⟨(run_changes_only_unscoped ⟨none, []⟩ _ _).1 "a" (by decide), ?_⟩
  have hkept := (run_changes_only_unscoped ⟨none, []⟩
    (Statement.sample (.assign ⟨.literal "1", .literal "w", false, false⟩))
    (.ofPairs [("1", "")])).2 _ .sample _ rfl 1 (by decide)
  exact hkept.trans (by decide)

end PropertyDocs
