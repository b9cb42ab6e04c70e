import PropertyDocs.Proofs.Execution

/-!
# What a run comes to

The statements that are run when a statement is run, in order, each with the leaf it is run on and
the match patterns whose bodies it stands in. A statement behind a test that does not hold, a row
that is not taken or an error is not among them.
-/
namespace PropertyDocs

/-- A statement that a run comes to. -/
structure Visit where
  /-- The numbers of groups of the match patterns around it, the outermost first. -/
  scopes : List Nat
  statement : Statement
  /-- The leaf that it is run on. -/
  level : Level

namespace Visit

/-- The visit, seen from outside a match pattern of `groups` groups. -/
def inside (groups : Nat) (v : Visit) : Visit := { v with scopes := groups :: v.scopes }

/-- The key that an assignment gives a value; none if it is no assignment or has no key. -/
def key? (ctx : Context) (v : Visit) : Option String :=
  match v.statement with
  | .assign a => (a.key.eval (ctx.chain v.level)).toOption
  | _ => none

def Completes (ctx : Context) (v : Visit) : Prop := (v.statement.run ctx v.level).error = none

/-- The calls of the decryptor that the statement makes itself. -/
def calls (ctx : Context) (v : Visit) : List (String × String) :=
  match v.statement with
  | .assign a => (a.run ctx v.level).calls
  | _ => []

/-- Whether one of the match patterns around the statement binds the key. -/
def Scoped (v : Visit) (k : String) : Prop := ∃ n ∈ v.scopes, k ∈ numerals n

end Visit

mutual

def Statement.visits (ctx : Context) : Statement → Level → List Visit
  | .block body, l => ⟨[], .block body, l⟩ :: visitsAll ctx body l
  | .choose whens otherwise, l =>
    ⟨[], .choose whens otherwise, l⟩ :: visitsWhens ctx (visitsOption ctx otherwise l) whens l
  | .table selector separator rows otherwise, l =>
    ⟨[], .table selector separator rows otherwise, l⟩ ::
      match selector.eval (ctx.chain l) with
      | .error _ => []
      | .ok text =>
        visitsRows ctx (Pattern.splitSelector text separator) (visitsOption ctx otherwise l) rows l
  | .matchPattern value pattern body, l =>
    ⟨[], .matchPattern value pattern body, l⟩ ::
      match (value.eval (ctx.chain l)).toOption.bind pattern.fullMatch? with
      | none => []
      | some groups =>
        (body.visits ctx (bindFrom 0 groups l)).map (·.inside pattern.groups)
  | s, l => [⟨[], s, l⟩]

/-- The visits of statements one after another; those after an error are not run. -/
def visitsAll (ctx : Context) : List Statement → Level → List Visit
  | [], _ => []
  | s :: rest, l =>
    s.visits ctx l ++
      if (s.run ctx l).error.isNone then visitsAll ctx rest (s.run ctx l).level else []

def visitsOption (ctx : Context) : Option Statement → Level → List Visit
  | none, _ => []
  | some s, l => s.visits ctx l

/-- The visits of the first body whose test holds, else `others`. -/
def visitsWhens (ctx : Context) (others : List Visit) :
    List (Test × Statement) → Level → List Visit
  | [], _ => others
  | (test, body) :: whens, l =>
    match test.eval (ctx.chain l) with
    | .error _ => []
    | .ok true => body.visits ctx l
    | .ok false => visitsWhens ctx others whens l

/-- The visits of the first body whose pattern matches, else `others`. -/
def visitsRows (ctx : Context) (selector : String) (others : List Visit) :
    List (Pattern × Statement) → Level → List Visit
  | [], _ => others
  | (pattern, body) :: rows, l =>
    if pattern.isMatch selector then body.visits ctx l
    else visitsRows ctx selector others rows l

end

/-- The visits of what a choice or a table picks. -/
def visitsPicked (ctx : Context) (picked : Except EvaluationError (Option Statement))
    (l : Level) : List Visit :=
  match picked with
  | .error _ => []
  | .ok s => visitsOption ctx s l

section
variable {ctx : Context} {l : Level} {v : Visit}

theorem mem_visits_self (s : Statement) : ⟨[], s, l⟩ ∈ s.visits ctx l := by
  cases s <;> simp only [Statement.visits, List.mem_cons, true_or]

theorem mem_visitsAll_head {s : Statement} {rest : List Statement} (h : v ∈ s.visits ctx l) :
    v ∈ visitsAll ctx (s :: rest) l := by
  rw [visitsAll]; exact List.mem_append_left _ h

theorem mem_visitsAll_tail {s : Statement} {rest : List Statement}
    (hnone : (s.run ctx l).error = none) (h : v ∈ visitsAll ctx rest (s.run ctx l).level) :
    v ∈ visitsAll ctx (s :: rest) l := by
  rw [visitsAll, hnone]; exact List.mem_append_right _ h

theorem visitsWhens_eq (otherwise : Option Statement) :
    ∀ whens : List (Test × Statement),
      visitsWhens ctx (visitsOption ctx otherwise l) whens l =
        visitsPicked ctx (chosen (ctx.chain l) otherwise whens) l
  | [] => by simp only [visitsWhens, chosen, visitsPicked]
  | (test, body) :: whens => by
    simp only [visitsWhens, chosen, visitsWhens_eq otherwise whens]
    cases test.eval (ctx.chain l) with
    | error e => rfl
    | ok holds =>
      cases holds with
      | true => simp [visitsPicked, visitsOption, bind, Except.bind, pure, Except.pure]
      | false => simp [bind, Except.bind]

theorem visitsRows_eq (selector : String) (otherwise : Option Statement) :
    ∀ rows : List (Pattern × Statement),
      visitsRows ctx selector (visitsOption ctx otherwise l) rows l =
        visitsOption ctx (chosenRow selector otherwise rows) l
  | [] => by simp only [visitsRows, chosenRow]
  | (pattern, body) :: rows => by
    simp only [visitsRows, chosenRow, visitsRows_eq selector otherwise rows]
    split <;> simp only [visitsOption]

/-- A choice comes to what it picks. -/
theorem visits_choose (whens : List (Test × Statement)) (otherwise : Option Statement) :
    (Statement.choose whens otherwise).visits ctx l = ⟨[], .choose whens otherwise, l⟩ ::
      visitsPicked ctx ((Statement.choose whens otherwise).picked (ctx.chain l)) l := by
  rw [Statement.visits, visitsWhens_eq, Statement.picked]

/-- A table comes to what it picks. -/
theorem visits_table (selector : Expression) (separator : Option String)
    (rows : List (Pattern × Statement)) (otherwise : Option Statement) :
    (Statement.table selector separator rows otherwise).visits ctx l =
      ⟨[], .table selector separator rows otherwise, l⟩ :: visitsPicked ctx
        ((Statement.table selector separator rows otherwise).picked (ctx.chain l)) l := by
  simp only [Statement.visits, Statement.picked, visitsRows_eq]
  cases selector.eval (ctx.chain l) <;> rfl

/-- What a choice or a table picks is visited. -/
theorem mem_visits_of_picked {s t : Statement} (hp : s.picked (ctx.chain l) = .ok (some t))
    (h : v ∈ t.visits ctx l) : v ∈ s.visits ctx l := by
  cases s with
  | choose whens otherwise =>
    rw [visits_choose, hp]
    exact List.mem_cons_of_mem _ h
  | table selector separator rows otherwise =>
    rw [visits_table, hp]
    exact List.mem_cons_of_mem _ h
  | assign | block | matchPattern | error | foreign => simp [Statement.picked] at hp

/-- A match pattern comes to its body, all of which stands inside it. -/
theorem visits_matchPattern_of_match {value : Expression} {pattern : Pattern} {body : Statement}
    {text : String} {groups : List (Option String)}
    (hvalue : value.eval (ctx.chain l) = .ok text)
    (hmatch : pattern.fullMatch? text = some groups) :
    (Statement.matchPattern value pattern body).visits ctx l =
      ⟨[], .matchPattern value pattern body, l⟩ ::
        (body.visits ctx (bindFrom 0 groups l)).map (·.inside pattern.groups) := by
  simp only [Statement.visits, hvalue, Except.toOption, Option.bind_some, hmatch]

end

/-! ## Nothing that matters is left out -/

section
variable {ctx : Context}

theorem calls_runAll {body : List Statement}
    (ih : ∀ s ∈ body, ∀ l, (s.run ctx l).calls = (s.visits ctx l).flatMap (·.calls ctx))
    (l : Level) : (runAll ctx body l).calls = (visitsAll ctx body l).flatMap (·.calls ctx) := by
  induction body generalizing l with
  | nil => simp only [runAll, visitsAll, Outcome.done, List.flatMap_nil]
  | cons s rest ihRest =>
    rw [runAll, visitsAll, List.flatMap_append, ← ih s (by simp)]
    cases he : (s.run ctx l).error with
    | some e => simp [Outcome.andThen_of_error he]
    | none =>
      have hrest := ihRest (fun t ht => ih t (by simp [ht])) (s.run ctx l).level
      simp [Outcome.andThen_of_none he, hrest]

theorem calls_picked {s : Statement}
    (ih : ∀ t ∈ s.children, ∀ l, (t.run ctx l).calls = (t.visits ctx l).flatMap (·.calls ctx))
    (l : Level) :
    (Outcome.onValue l (s.picked (ctx.chain l)) fun t => runOption ctx t l).calls =
      (visitsPicked ctx (s.picked (ctx.chain l)) l).flatMap (·.calls ctx) := by
  cases hp : s.picked (ctx.chain l) with
  | error e => rfl
  | ok picked =>
    cases picked with
    | none => simp only [Outcome.onValue, runOption, Outcome.done, visitsPicked, visitsOption,
        List.flatMap_nil]
    | some t =>
      simp only [Outcome.onValue, runOption, visitsPicked, visitsOption]
      exact ih t (Statement.mem_children_of_picked hp) l

/-- **The visits account for every call** of the decryptor, in order. -/
theorem calls_run (s : Statement) :
    ∀ l, (s.run ctx l).calls = (s.visits ctx l).flatMap (·.calls ctx) := by
  induction s using Statement.induct with
  | step s ih =>
    intro l
    cases s with
    | assign a => simp [Statement.run, Statement.visits, Visit.calls]
    | block body =>
      have hbody : (runAll ctx body l).calls = _ := calls_runAll ih l
      rw [Statement.run, Statement.visits, List.flatMap_cons, hbody]
      rfl
    | choose whens otherwise =>
      rw [run_choose, visits_choose, List.flatMap_cons, calls_picked ih l]
      rfl
    | table selector separator rows otherwise =>
      rw [run_table, visits_table, List.flatMap_cons, calls_picked ih l]
      rfl
    | matchPattern value pattern body =>
      cases hvalue : value.eval (ctx.chain l) with
      | error e => simp [run_matchPattern_of_error hvalue, Statement.visits, hvalue, Visit.calls,
          Outcome.failed, Except.toOption]
      | ok text =>
        cases hmatch : pattern.fullMatch? text with
        | none => simp [run_matchPattern_of_noMatch hvalue hmatch, Statement.visits, hvalue,
            hmatch, Visit.calls, Outcome.done, Except.toOption]
        | some groups =>
          have hbody := ih body (by simp [Statement.children]) (bindFrom 0 groups l)
          rw [run_matchPattern_of_match hvalue hmatch, visits_matchPattern_of_match hvalue hmatch,
            List.flatMap_cons, List.flatMap_map]
          exact hbody
    | error message =>
      rw [Statement.run, Statement.visits]
      · cases message.eval (ctx.chain l) <;> simp [Outcome.onValue, Outcome.failed, Visit.calls]
      all_goals simp
    | foreign kind => simp [Statement.run, Statement.visits, Visit.calls, Outcome.failed]

end

end PropertyDocs
