import PropertyDocs.Evaluation

/-!
# How a run goes on

What the statements of a tree are, which of them a choice or a table leads to, and what one step
does to the leaf: an assignment that completes writes one key, bindings and their restoring write
the numerals of the pattern and nothing else.
-/
namespace PropertyDocs

/-! ## Statements in statements -/

namespace Statement

/-- The statements that stand directly in a statement. -/
def children : Statement → List Statement
  | .assign _ | .error _ | .foreign _ => []
  | .block body => body
  | .choose whens otherwise => whens.map (·.2) ++ otherwise.toList
  | .table _ _ rows otherwise => rows.map (·.2) ++ otherwise.toList
  | .matchPattern _ _ body => [body]

theorem sizeOf_snd_lt {α : Type} [SizeOf α] {s : Statement} {parts : List (α × Statement)}
    (h : s ∈ parts.map (·.2)) : sizeOf s < sizeOf parts := by
  obtain ⟨p, hp, rfl⟩ := List.mem_map.1 h
  have hlt := List.sizeOf_lt_of_mem hp
  have hsize : sizeOf p = 1 + sizeOf p.1 + sizeOf p.2 := by cases p; rfl
  omega

theorem sizeOf_child {s t : Statement} (h : t ∈ s.children) : sizeOf t < sizeOf s := by
  cases s with
  | assign | error | foreign => simp [children] at h
  | block body =>
    have := List.sizeOf_lt_of_mem (show t ∈ body from h)
    simp only [block.sizeOf_spec]; omega
  | choose whens otherwise =>
    simp only [children, List.mem_append, Option.mem_toList, choose.sizeOf_spec] at h ⊢
    rcases h with h | rfl
    · have := sizeOf_snd_lt h; omega
    · simp only [Option.some.sizeOf_spec]; omega
  | table selector separator rows otherwise =>
    simp only [children, List.mem_append, Option.mem_toList, table.sizeOf_spec] at h ⊢
    rcases h with h | rfl
    · have := sizeOf_snd_lt h; omega
    · simp only [Option.some.sizeOf_spec]; omega
  | matchPattern value pattern body =>
    obtain rfl : t = body := by simpa [children] using h
    simp only [matchPattern.sizeOf_spec]; omega

/-- What holds of a statement when it holds of those in it, holds of all. -/
theorem induct {motive : Statement → Prop}
    (step : ∀ s, (∀ t ∈ s.children, motive t) → motive s) (s : Statement) : motive s :=
  step s fun t _ => induct step t
termination_by sizeOf s
decreasing_by exact sizeOf_child ‹_›

/-- `s.Contains t`: the statement `t` is `s` or stands in it at any depth. -/
inductive Contains : Statement → Statement → Prop
  | self (s : Statement) : Contains s s
  | inner {s t u : Statement} : t ∈ s.children → Contains t u → Contains s u

end Statement

/-! ## Choices and tables -/

/-- The statement that the tests lead to, the first that holds deciding. -/
def chosen (c : Chain) (otherwise : Option Statement) :
    List (Test × Statement) → Except EvaluationError (Option Statement)
  | [] => .ok otherwise
  | (test, body) :: whens => do
    if ← test.eval c then return some body else chosen c otherwise whens

/-- The statement that the rows lead to, the first that matches deciding. -/
def chosenRow (selector : String) (otherwise : Option Statement) :
    List (Pattern × Statement) → Option Statement
  | [] => otherwise
  | (pattern, body) :: rows =>
    if pattern.isMatch selector then some body else chosenRow selector otherwise rows

/-- The statement that a choice or a table goes on with. -/
def Statement.picked (c : Chain) : Statement → Except EvaluationError (Option Statement)
  | .choose whens otherwise => chosen c otherwise whens
  | .table selector separator rows otherwise =>
    (selector.eval c).map fun text =>
      chosenRow (Pattern.splitSelector text separator) otherwise rows
  | _ => .ok none

theorem mem_of_chosen {c : Chain} {otherwise : Option Statement} {s : Statement} :
    ∀ {whens : List (Test × Statement)}, chosen c otherwise whens = .ok (some s) →
      s ∈ whens.map (·.2) ++ otherwise.toList
  | [], h => by
    obtain rfl : otherwise = some s := by simpa [chosen] using h
    simp
  | (test, body) :: whens, h => by
    simp only [chosen] at h
    cases htest : test.eval c with
    | error e => simp [htest, bind, Except.bind] at h
    | ok holds =>
      cases holds with
      | true =>
        obtain rfl : body = s := by
          simpa [htest, bind, Except.bind, pure, Except.pure] using h
        simp
      | false =>
        have hrest : chosen c otherwise whens = .ok (some s) := by
          simpa [htest, bind, Except.bind] using h
        simp only [List.map_cons, List.cons_append, List.mem_cons]
        exact .inr (mem_of_chosen hrest)

theorem mem_of_chosenRow {selector : String} {otherwise : Option Statement} {s : Statement} :
    ∀ {rows : List (Pattern × Statement)}, chosenRow selector otherwise rows = some s →
      s ∈ rows.map (·.2) ++ otherwise.toList
  | [], h => by
    obtain rfl : otherwise = some s := h
    simp
  | (pattern, body) :: rows, h => by
    simp only [chosenRow] at h
    simp only [List.map_cons, List.cons_append, List.mem_cons]
    split at h
    · exact .inl (Option.some.inj h).symm
    · exact .inr (mem_of_chosenRow h)

theorem Statement.mem_children_of_picked {c : Chain} {s t : Statement}
    (h : s.picked c = .ok (some t)) : t ∈ s.children := by
  cases s with
  | choose whens otherwise => exact mem_of_chosen h
  | table selector separator rows otherwise =>
    simp only [picked] at h
    cases htext : selector.eval c with
    | error e => simp [htext, Except.map] at h
    | ok text =>
      have hrow : chosenRow (Pattern.splitSelector text separator) otherwise rows = some t := by
        simpa [htext, Except.map] using h
      exact mem_of_chosenRow hrow
  | assign | block | matchPattern | error | foreign => simp [picked] at h

section Runs
variable (ctx : Context)

theorem runWhens_eq (otherwise : Option Statement) (l : Level) :
    ∀ whens : List (Test × Statement),
      runWhens ctx whens (runOption ctx otherwise) l =
        .onValue l (chosen (ctx.chain l) otherwise whens) fun s => runOption ctx s l
  | [] => by simp only [runWhens, chosen, Outcome.onValue]
  | (test, body) :: whens => by
    simp only [runWhens, chosen, runWhens_eq otherwise l whens]
    cases test.eval (ctx.chain l) with
    | error e => rfl
    | ok holds => cases holds <;> rfl

theorem runRows_eq (selector : String) (otherwise : Option Statement) (l : Level) :
    ∀ rows : List (Pattern × Statement),
      runRows ctx selector rows (runOption ctx otherwise) l =
        runOption ctx (chosenRow selector otherwise rows) l
  | [] => by simp only [runRows, chosenRow]
  | (pattern, body) :: rows => by
    simp only [runRows, Texts.isMatch_string, chosenRow, runRows_eq selector otherwise l rows]
    split <;> simp only [runOption]

/-- A choice is run by running what it picks. -/
theorem run_choose (whens : List (Test × Statement)) (otherwise : Option Statement) (l : Level) :
    (Statement.choose whens otherwise).run ctx l =
      .onValue l ((Statement.choose whens otherwise).picked (ctx.chain l)) fun s =>
        runOption ctx s l := by
  simp only [Statement.run, Statement.picked, runWhens_eq]

/-- A table is run by running what it picks. -/
theorem run_table (selector : Expression) (separator : Option String)
    (rows : List (Pattern × Statement)) (otherwise : Option Statement) (l : Level) :
    (Statement.table selector separator rows otherwise).run ctx l =
      .onValue l ((Statement.table selector separator rows otherwise).picked (ctx.chain l))
        fun s => runOption ctx s l := by
  simp only [Statement.run, Statement.picked, runRows_eq]
  cases selector.eval (ctx.chain l) <;> rfl

end Runs

/-! ## Outcomes -/

namespace Outcome

theorem andThen_of_error {o : Outcome} {e : EvaluationError} (h : o.error = some e)
    (next : Level → Outcome) : o.andThen next = o := by
  simp only [andThen, h]

theorem andThen_of_none {o : Outcome} (h : o.error = none) (next : Level → Outcome) :
    o.andThen next = { next o.level with calls := o.calls ++ (next o.level).calls } := by
  simp only [andThen, h]

end Outcome

/-- An assignment that fails leaves the leaf, one that completes writes its key. -/
theorem Assignment.run_cases (ctx : Context) (a : Assignment) (l : Level) :
    (∃ e, (a.run ctx l).error = some e ∧ (a.run ctx l).level = l) ∨
    (∃ key value, a.key.eval (ctx.chain l) = .ok key ∧ (a.run ctx l).error = none ∧
      (a.run ctx l).level = l.put key value) := by
  unfold run
  cases hkey : a.key.eval (ctx.chain l) with
  | error e => exact .inl ⟨e, rfl, rfl⟩
  | ok key =>
    simp only [Outcome.onValue]
    split
    · exact .inr ⟨key, _, rfl, rfl, rfl⟩
    · cases a.value.eval (ctx.chain l) with
      | error e => exact .inl ⟨e, rfl, rfl⟩
      | ok value =>
        simp only
        split
        · unfold putDecrypted
          split
          · exact .inl ⟨_, rfl, rfl⟩
          · split
            · exact .inr ⟨key, _, rfl, rfl, rfl⟩
            · exact .inl ⟨_, rfl, rfl⟩
        · exact .inr ⟨key, _, rfl, rfl, rfl⟩

/-! ## Numerals -/

/-- The keys that a pattern of `n` groups binds. -/
def numerals (n : Nat) : List String := (List.range (n + 1)).map toString

theorem mem_numerals {n : Nat} {k : String} : k ∈ numerals n ↔ ∃ i ≤ n, k = toString i := by
  simp only [numerals, List.mem_map, List.mem_range]
  exact ⟨fun ⟨i, hi, h⟩ => ⟨i, by omega, h.symm⟩, fun ⟨i, hi, h⟩ => ⟨i, by omega, h.symm⟩⟩

theorem Pattern.length_of_fullMatch? {p : Pattern} {text : String}
    {groups : List (Option String)} (h : p.fullMatch? text = some groups) :
    groups.length = p.groups + 1 := by
  obtain ⟨c, -, rfl⟩ := Option.map_eq_some_iff.1 h
  simp

theorem bindFrom_text (i : Nat) (text : String) (groups : List (Option String)) (l : Level) :
    bindFrom i (some text :: groups) l = bindFrom (i + 1) groups (l.put (toString i) text) := rfl

theorem bindFrom_noPart (i : Nat) (groups : List (Option String)) (l : Level) :
    bindFrom i (none :: groups) l = bindFrom (i + 1) groups (l.remove (toString i)) := rfl

/-- Binding leaves every key that is none of the numerals from `i` on. -/
theorem get?_bindFrom_of_ne {k : String} :
    ∀ (groups : List (Option String)) (i : Nat) (l : Level),
      (∀ j, i ≤ j → j < i + groups.length → k ≠ toString j) →
        (bindFrom i groups l).get? k = l.get? k
  | [], _, _, _ => rfl
  | group :: groups, i, l, hne => by
    have hi : k ≠ toString i := hne i (Nat.le_refl i) (by simp)
    have hrest : ∀ j, i + 1 ≤ j → j < i + 1 + groups.length → k ≠ toString j := fun j h1 h2 =>
      hne j (by omega) (by simp only [List.length_cons]; omega)
    cases group with
    | none =>
      rw [bindFrom_noPart, get?_bindFrom_of_ne groups (i + 1) _ hrest,
        Level.get?_remove_of_ne _ hi]
    | some text =>
      rw [bindFrom_text, get?_bindFrom_of_ne groups (i + 1) _ hrest, Level.get?_put_of_ne _ _ hi]

/-- Restoring gives the numerals what they had in `old`. -/
theorem get?_restoreFrom_of_eq {old : Level} {k : String} :
    ∀ (n i : Nat) (l : Level), (l.get? k = old.get? k ∨ ∃ j, i ≤ j ∧ j < i + n ∧ k = toString j) →
      (restoreFrom old i n l).get? k = old.get? k
  | 0, i, l, h => by
    obtain h | ⟨j, h1, h2, -⟩ := h
    · exact h
    · omega
  | n + 1, i, l, h => by
    rw [restoreFrom]
    apply get?_restoreFrom_of_eq
    by_cases hk : k = toString i
    · subst hk
      left
      cases hold : old.get? (toString i) with
      | none => exact Level.get?_remove_self l _
      | some text => exact Level.get?_put_self l _ text
    · obtain h | ⟨j, h1, h2, rfl⟩ := h
      · left
        cases old.get? (toString i) with
        | none => rw [← h]; exact Level.get?_remove_of_ne l hk
        | some text => rw [← h]; exact Level.get?_put_of_ne l text hk
      · have hj : j ≠ i := fun e => hk (by rw [e])
        exact .inr ⟨j, by omega, by omega, rfl⟩

/-- Restoring leaves every other key. -/
theorem get?_restoreFrom_of_ne {old : Level} {k : String} :
    ∀ (n i : Nat) (l : Level), (∀ j, i ≤ j → j < i + n → k ≠ toString j) →
      (restoreFrom old i n l).get? k = l.get? k
  | 0, _, _, _ => rfl
  | n + 1, i, l, hne => by
    have hi : k ≠ toString i := hne i (Nat.le_refl i) (by omega)
    rw [restoreFrom, get?_restoreFrom_of_ne n (i + 1) _ fun j h1 h2 => hne j (by omega) (by omega)]
    cases old.get? (toString i) with
    | none => exact Level.get?_remove_of_ne l hi
    | some text => exact Level.get?_put_of_ne l text hi

/-! ## Match patterns -/

section MatchPatterns
variable {ctx : Context} {value : Expression} {pattern : Pattern} {body : Statement} {l : Level}
  {text : String}

/-- The body is run on the bound leaf, and what the numerals had is restored. -/
theorem run_matchPattern_of_match {groups : List (Option String)}
    (hvalue : value.eval (ctx.chain l) = .ok text)
    (hmatch : pattern.fullMatch? text = some groups) :
    (Statement.matchPattern value pattern body).run ctx l =
      (body.run ctx (bindFrom 0 groups l)).mapLevel (restoreFrom l 0 (pattern.groups + 1)) := by
  simp only [Statement.run, hvalue, Outcome.onValue, Texts.fullMatch?_string, hmatch,
    Pattern.length_of_fullMatch? hmatch]

theorem run_matchPattern_of_noMatch (hvalue : value.eval (ctx.chain l) = .ok text)
    (hmatch : pattern.fullMatch? text = none) :
    (Statement.matchPattern value pattern body).run ctx l = .done l := by
  simp only [Statement.run, hvalue, Outcome.onValue, Texts.fullMatch?_string, hmatch]

theorem run_matchPattern_of_error {e : EvaluationError}
    (hvalue : value.eval (ctx.chain l) = .error e) :
    (Statement.matchPattern value pattern body).run ctx l = .failed l e := by
  simp only [Statement.run, hvalue, Outcome.onValue]

end MatchPatterns

/-- The bound keys have after the bindings are undone what they had before. -/
theorem get?_restoreFrom_numeral {n : Nat} {k : String} (h : k ∈ numerals n) (old l : Level) :
    (restoreFrom old 0 (n + 1) l).get? k = old.get? k := by
  obtain ⟨i, hi, rfl⟩ := mem_numerals.1 h
  exact get?_restoreFrom_of_eq (n + 1) 0 l (.inr ⟨i, by omega, by omega, rfl⟩)

theorem get?_restoreFrom_other {n : Nat} {k : String} (h : k ∉ numerals n) (old l : Level) :
    (restoreFrom old 0 (n + 1) l).get? k = l.get? k :=
  get?_restoreFrom_of_ne (n + 1) 0 l fun j _ hj e => h (mem_numerals.2 ⟨j, by omega, e⟩)

theorem get?_bindFrom_other {n : Nat} {k : String} (h : k ∉ numerals n)
    {groups : List (Option String)} (hlen : groups.length = n + 1) (l : Level) :
    (bindFrom 0 groups l).get? k = l.get? k :=
  get?_bindFrom_of_ne groups 0 l fun j _ hj e => h (mem_numerals.2 ⟨j, by omega, e⟩)

/-! ## A sample -/

/-- `(.)(x)?`, of which the second group need not take part. -/
def Pattern.sample : Pattern where
  text := "(.)(x)?"
  ignoreCase := false
  groups := 2
  regex := .seq (.group 1 (.anyChar false))
    (.repeated 0 (some 1) .greedy (.group 2 (.char 120 .exact)))

example : Pattern.compile "(.)(x)?" false = .ok .sample := by cbv

/-- Sets `a` to the first group of a match with `7`, and then runs `rest`. -/
def Statement.sample (rest : Statement) : Statement :=
  .matchPattern (.literal "7") .sample <| .block
    [.assign { key := .literal "a", value := .template ⟨"", [("1", "")]⟩, defaultOnly := false,
               encrypted := false },
     rest]

end PropertyDocs
