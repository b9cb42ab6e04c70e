import PropertyDocs.Proofs.Execution

/-!
# What runs do to the leaf

A relation between the leaf before and the leaf after is kept by every run if it is kept by doing
nothing, by two runs in a row, by the assignments, and by a match pattern around a body that keeps
it. Whether the run fails does not matter, since an error only ends it earlier.
-/
namespace PropertyDocs

/-- A relation of leaves that statements keep when their assignments do. -/
structure RunRelation (R : Level → Level → Prop) : Prop where
  refl (l : Level) : R l l
  trans {a b c : Level} : R a b → R b c → R a c
  /-- What the body does to the bound leaf, it does to the leaf in the end. -/
  around {n : Nat} {groups : List (Option String)} {l l' : Level} : groups.length = n + 1 →
    R (bindFrom 0 groups l) l' → R l (restoreFrom l 0 (n + 1) l')

namespace RunRelation
variable {R : Level → Level → Prop} (hR : RunRelation R) {ctx : Context}
include hR

theorem runAll {body : List Statement} (ih : ∀ s ∈ body, ∀ l, R l (s.run ctx l).level) :
    ∀ l, R l (runAll ctx body l).level := by
  induction body with
  | nil =>
    intro l
    rw [PropertyDocs.runAll]
    exact hR.refl l
  | cons s rest ihRest =>
    intro l
    have hs := ih s (by simp) l
    rw [PropertyDocs.runAll]
    cases he : (s.run ctx l).error with
    | some e => rwa [Outcome.andThen_of_error he]
    | none =>
      rw [Outcome.andThen_of_none he]
      exact hR.trans hs (ihRest (fun t ht => ih t (by simp [ht])) _)

theorem picked {s : Statement} (ih : ∀ t ∈ s.children, ∀ l, R l (t.run ctx l).level) (l : Level) :
    R l (Outcome.onValue l (s.picked (ctx.chain l)) fun t => runOption ctx t l).level := by
  cases hp : s.picked (ctx.chain l) with
  | error e => exact hR.refl l
  | ok t =>
    cases t with
    | none =>
      simp only [Outcome.onValue, runOption]
      exact hR.refl l
    | some t =>
      simp only [Outcome.onValue, runOption]
      exact ih t (Statement.mem_children_of_picked hp) l

/-- **What every assignment of a statement keeps, its runs keep**, whether or not they fail. -/
theorem run (s : Statement)
    (hassign : ∀ a, s.Contains (.assign a) → ∀ l, R l (a.run ctx l).level) :
    ∀ l, R l (s.run ctx l).level := by
  induction s using Statement.induct with
  | step s ih =>
    have hchild : ∀ t ∈ s.children, ∀ l, R l (t.run ctx l).level := fun t ht =>
      ih t ht fun a ha => hassign a (.inner ht ha)
    intro l
    cases s with
    | assign a =>
      rw [Statement.run]
      exact hassign a (.self _) l
    | block body =>
      rw [Statement.run]
      exact hR.runAll hchild l
    | choose whens otherwise =>
      rw [run_choose]
      exact hR.picked hchild l
    | table selector separator rows otherwise =>
      rw [run_table]
      exact hR.picked hchild l
    | matchPattern value pattern body =>
      cases hvalue : value.eval (ctx.chain l) with
      | error e =>
        rw [run_matchPattern_of_error hvalue]
        exact hR.refl l
      | ok text =>
        cases hmatch : pattern.fullMatch? text with
        | none =>
          rw [run_matchPattern_of_noMatch hvalue hmatch]
          exact hR.refl l
        | some groups =>
          rw [run_matchPattern_of_match hvalue hmatch]
          exact hR.around (Pattern.length_of_fullMatch? hmatch)
            (hchild body (by simp [Statement.children]) _)
    | error message =>
      rw [Statement.run]
      cases message.eval (ctx.chain l) <;> exact hR.refl l
    | foreign kind =>
      rw [Statement.run]
      exact hR.refl l

end RunRelation

/-- A relation between what the leaves have under each key is not touched by match patterns: a
numeral gets back what the leaf had, and all else is not bound and shown to the body. -/
theorem RunRelation.of_keys {Q : String → Option String → Option String → Prop}
    (refl : ∀ k v, Q k v v) (trans : ∀ k u v w, Q k u v → Q k v w → Q k u w) :
    RunRelation fun l l' => ∀ k, Q k (l.get? k) (l'.get? k) where
  refl l k := refl k _
  trans hab hbc k := trans k _ _ _ (hab k) (hbc k)
  around {n groups l l'} hlen h k := by
    by_cases hn : k ∈ numerals n
    · rw [get?_restoreFrom_numeral hn]
      exact refl k _
    · rw [get?_restoreFrom_other hn, ← get?_bindFrom_other hn hlen]
      exact h k

end PropertyDocs
