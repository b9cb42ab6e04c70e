import PropertyDocs.Proofs.RunRelation
import PropertyDocs.Proofs.Visits

/-!
# The order of the keys

A run takes no key from the leaf. Apart from the numerals of the match patterns that match, which
are taken away and written again, it moves none either: the keys that were there keep their places,
and those that come behind them stand in the order in which they were first assigned.
-/
namespace PropertyDocs

/-! ## Keys of a visit -/

namespace Visit

/-- The numerals that a match pattern binds while its body runs; none if it does not match. -/
def bound (ctx : Context) (v : Visit) : List String :=
  match v.statement with
  | .matchPattern value pattern _ =>
    if (value.eval (ctx.chain v.level)).toOption.any pattern.isMatch then numerals pattern.groups
    else []
  | _ => []

/-- The key that an assignment writes, if it completes. -/
def written? (ctx : Context) (v : Visit) : Option String :=
  if (v.statement.run ctx v.level).error.isNone then v.key? ctx else none

end Visit

/-- The numerals bound among these visits. -/
def boundIn (ctx : Context) (visits : List Visit) : List String := visits.flatMap (·.bound ctx)

/-- The keys written among these visits, in order. -/
def writtenIn (ctx : Context) (visits : List Visit) : List String :=
  visits.filterMap (·.written? ctx)

/-! ## Keys that appear -/

section
variable {τ : Type} [DecidableEq τ]

theorem eraseDups_of_nodup : ∀ {keys : List τ}, keys.Nodup → keys.eraseDups = keys
  | [], _ => rfl
  | k :: ks, h => by
    obtain ⟨hk, hks⟩ := List.nodup_cons.1 h
    have hfilter : ks.filter (fun x => !x == k) = ks := by
      refine List.filter_eq_self.2 fun x hx => ?_
      have hne : x ≠ k := fun e => hk (e ▸ hx)
      simpa using hne
    rw [List.eraseDups_cons, hfilter, eraseDups_of_nodup hks]

theorem Level.eraseDups_filter_keys (l : Level τ) (free : τ → Bool) :
    (l.keys.filter free).eraseDups = l.keys.filter free :=
  eraseDups_of_nodup (l.distinct.filter free)

/-- Among the keys that are `free`, those of `l` stay in their places in `l'`, and behind them come
those of `written` in the order in which they first stand there. -/
def Appends (free : τ → Bool) (written : List τ) (l l' : Level τ) : Prop :=
  l'.keys.filter free = ((l.keys ++ written).filter free).eraseDups

namespace Appends
variable {free : τ → Bool} {a b : List τ} {l m n : Level τ}

theorem of_keys_eq (h : m.keys.filter free = l.keys.filter free) : Appends free [] l m := by
  rw [Appends, List.append_nil, h, l.eraseDups_filter_keys]

theorem refl (free : τ → Bool) (l : Level τ) : Appends free [] l l := of_keys_eq rfl

/-- With every key free, the keys are known. -/
theorem keys_eq (h : Appends (fun _ => true) a l m) : m.keys = (l.keys ++ a).eraseDups := by
  have hall : ∀ ks : List τ, ks.filter (fun _ => true) = ks :=
    fun _ => List.filter_eq_self.2 fun _ _ => rfl
  rwa [Appends, hall, hall] at h

theorem trans (h₁ : Appends free a l m) (h₂ : Appends free b m n) : Appends free (a ++ b) l n := by
  unfold Appends at h₁ h₂ ⊢
  have hsame : (b.filter free).removeAll (m.keys.filter free) =
      (b.filter free).removeAll ((l.keys ++ a).filter free) := by
    rw [h₁]
    simp only [List.removeAll, List.elem_eq_mem, List.mem_eraseDups]
  calc n.keys.filter free
      = m.keys.filter free ++ ((b.filter free).removeAll (m.keys.filter free)).eraseDups := by
        rw [h₂, List.filter_append, List.eraseDups_append, m.eraseDups_filter_keys]
    _ = ((l.keys ++ a).filter free).eraseDups ++
          ((b.filter free).removeAll ((l.keys ++ a).filter free)).eraseDups := by rw [hsame, h₁]
    _ = ((l.keys ++ (a ++ b)).filter free).eraseDups := by
        rw [← List.append_assoc, List.filter_append (l.keys ++ a) b, List.eraseDups_append]

theorem put (free : τ → Bool) (l : Level τ) (key value : τ) :
    Appends free [key] l (l.put key value) := by
  rw [Appends, List.filter_append, List.eraseDups_append, l.eraseDups_filter_keys,
    Level.keys_put]
  by_cases hfree : free key = true
  · by_cases hmem : key ∈ l.keys
    · simp [hmem, hfree, List.removeAll]
    · simp [hmem, hfree, List.removeAll, List.eraseDups_cons]
  · by_cases hmem : key ∈ l.keys
    · simp [hmem, hfree, List.removeAll]
    · simp [hmem, hfree, List.removeAll]

/-- What is free of the bindings does not notice them. -/
theorem around {old bound : Level τ} (hbound : bound.keys.filter free = old.keys.filter free)
    (hbody : Appends free a bound l) (hrestored : m.keys.filter free = l.keys.filter free) :
    Appends free a old m := by
  have hall := (of_keys_eq hbound).trans (hbody.trans (of_keys_eq hrestored))
  rwa [List.nil_append, List.append_nil] at hall

end Appends

end

/-! ## Bindings -/

section Bindings
variable {free : String → Bool} {key : String}

theorem filter_keys_put (h : free key = false) (l : Level) (value : String) :
    (l.put key value).keys.filter free = l.keys.filter free := by
  rw [Level.keys_put]
  split
  · rfl
  · simp [h]

theorem filter_keys_remove (h : free key = false) (l : Level) :
    (l.remove key).keys.filter free = l.keys.filter free := by
  rw [Level.keys_remove, List.filter_filter]
  refine List.filter_congr fun k _ => ?_
  by_cases hk : k = key
  · simp [hk, h]
  · simp [hk]

theorem filter_keys_bindFrom : ∀ (groups : List (Option String)) (i : Nat) (l : Level),
    (∀ j, i ≤ j → j < i + groups.length → free (toString j) = false) →
      (bindFrom i groups l).keys.filter free = l.keys.filter free
  | [], _, _, _ => rfl
  | group :: groups, i, l, h => by
    have hi : free (toString i) = false := h i (Nat.le_refl i) (by simp)
    have hrest : ∀ j, i + 1 ≤ j → j < i + 1 + groups.length → free (toString j) = false :=
      fun j h1 h2 => h j (by omega) (by simp only [List.length_cons]; omega)
    cases group with
    | none =>
      rw [bindFrom_noPart, filter_keys_bindFrom groups (i + 1) _ hrest, filter_keys_remove hi]
    | some text =>
      rw [bindFrom_text, filter_keys_bindFrom groups (i + 1) _ hrest, filter_keys_put hi]

theorem filter_keys_restoreFrom {old : Level} : ∀ (n i : Nat) (l : Level),
    (∀ j, i ≤ j → j < i + n → free (toString j) = false) →
      (restoreFrom old i n l).keys.filter free = l.keys.filter free
  | 0, _, _, _ => rfl
  | n + 1, i, l, h => by
    have hi : free (toString i) = false := h i (Nat.le_refl i) (by omega)
    rw [restoreFrom, filter_keys_restoreFrom n (i + 1) _ fun j h1 h2 => h j (by omega) (by omega)]
    cases old.get? (toString i) with
    | none => exact filter_keys_remove hi l
    | some text => exact filter_keys_put hi l text

end Bindings

/-! ## Runs -/

section Runs
variable {ctx : Context} {free : String → Bool}

/-- No numeral that is bound among the visits is free. -/
def Avoids (ctx : Context) (free : String → Bool) (visits : List Visit) : Prop :=
  ∀ k ∈ boundIn ctx visits, free k = false

theorem Avoids.mono {visits some : List Visit} (h : Avoids ctx free visits)
    (hsub : ∀ v ∈ some, v ∈ visits) : Avoids ctx free some := by
  intro k hk
  obtain ⟨v, hv, hkv⟩ := List.mem_flatMap.1 hk
  exact h k (List.mem_flatMap.2 ⟨v, hsub v hv, hkv⟩)

/-- Only assignments write. -/
theorem writtenIn_cons_of_key {v : Visit} (h : v.key? ctx = none) (visits : List Visit) :
    writtenIn ctx (v :: visits) = writtenIn ctx visits := by
  simp [writtenIn, Visit.written?, h]

theorem writtenIn_append (some rest : List Visit) :
    writtenIn ctx (some ++ rest) = writtenIn ctx some ++ writtenIn ctx rest :=
  List.filterMap_append

/-- What is written does not depend on what is around it. -/
theorem writtenIn_inside (groups : Nat) (visits : List Visit) :
    writtenIn ctx (visits.map (·.inside groups)) = writtenIn ctx visits :=
  List.filterMap_map

theorem boundIn_inside (groups : Nat) (visits : List Visit) :
    boundIn ctx (visits.map (·.inside groups)) = boundIn ctx visits :=
  List.flatMap_map ..

theorem appends_runAll {body : List Statement}
    (ih : ∀ s ∈ body, ∀ l, Avoids ctx free (s.visits ctx l) →
      Appends free (writtenIn ctx (s.visits ctx l)) l (s.run ctx l).level)
    (l : Level) (h : Avoids ctx free (visitsAll ctx body l)) :
    Appends free (writtenIn ctx (visitsAll ctx body l)) l (runAll ctx body l).level := by
  induction body generalizing l with
  | nil =>
    rw [runAll, visitsAll]
    exact Appends.refl free l
  | cons s rest ihRest =>
    have hs := ih s (by simp) l (h.mono fun v hv => mem_visitsAll_head hv)
    rw [runAll, visitsAll, writtenIn_append]
    cases he : (s.run ctx l).error with
    | some e =>
      rw [Outcome.andThen_of_error he]
      simpa [writtenIn] using hs
    | none =>
      rw [Outcome.andThen_of_none he]
      exact hs.trans (ihRest (fun t ht => ih t (by simp [ht])) _
        (h.mono fun v hv => mem_visitsAll_tail he hv))

theorem appends_picked {s : Statement}
    (ih : ∀ t ∈ s.children, ∀ l, Avoids ctx free (t.visits ctx l) →
      Appends free (writtenIn ctx (t.visits ctx l)) l (t.run ctx l).level)
    (l : Level) (h : Avoids ctx free (visitsPicked ctx (s.picked (ctx.chain l)) l)) :
    Appends free (writtenIn ctx (visitsPicked ctx (s.picked (ctx.chain l)) l)) l
      (Outcome.onValue l (s.picked (ctx.chain l)) fun t => runOption ctx t l).level := by
  cases hp : s.picked (ctx.chain l) with
  | error e => exact Appends.refl free l
  | ok picked =>
    cases picked with
    | none =>
      simp only [Outcome.onValue, runOption, visitsPicked, visitsOption]
      exact Appends.refl free l
    | some t =>
      simp only [hp, Outcome.onValue, runOption, visitsPicked, visitsOption] at h ⊢
      exact ih t (Statement.mem_children_of_picked hp) l h

/-- A match pattern binds its numerals if it matches. -/
theorem Visit.bound_of_match {value : Expression} {pattern : Pattern} {body : Statement}
    {scopes : List Nat} {l : Level} {text : String} {groups : List (Option String)}
    (hvalue : value.eval (ctx.chain l) = .ok text)
    (hmatch : pattern.fullMatch? text = some groups) :
    Visit.bound ctx ⟨scopes, .matchPattern value pattern body, l⟩ = numerals pattern.groups := by
  simp [Visit.bound, hvalue, Except.toOption, Pattern.isMatch, hmatch]

theorem appends_run (s : Statement) :
    ∀ l, Avoids ctx free (s.visits ctx l) →
      Appends free (writtenIn ctx (s.visits ctx l)) l (s.run ctx l).level := by
  induction s using Statement.induct with
  | step s ih =>
    intro l h
    cases s with
    | assign a =>
      have hvisits : (Statement.assign a).visits ctx l = [⟨[], .assign a, l⟩] := by
        simp [Statement.visits]
      rw [Statement.run, hvisits]
      rcases a.run_cases ctx l with ⟨e, he, hl⟩ | ⟨key, value, hkey, hnone, hl⟩
      · have hwritten : writtenIn ctx [⟨[], .assign a, l⟩] = [] := by
          simp [writtenIn, Visit.written?, Statement.run, he]
        rw [hl, hwritten]
        exact Appends.refl free l
      · have hwritten : writtenIn ctx [⟨[], .assign a, l⟩] = [key] := by
          simp [writtenIn, Visit.written?, Statement.run, hnone, Visit.key?, hkey, Except.toOption]
        rw [hl, hwritten]
        exact Appends.put free l key value
    | block body =>
      rw [Statement.visits] at h ⊢
      rw [Statement.run, writtenIn_cons_of_key rfl]
      exact appends_runAll ih l (h.mono fun v hv => List.mem_cons_of_mem _ hv)
    | choose whens otherwise =>
      rw [visits_choose] at h ⊢
      rw [run_choose, writtenIn_cons_of_key rfl]
      exact appends_picked ih l (h.mono fun v hv => List.mem_cons_of_mem _ hv)
    | table selector separator rows otherwise =>
      rw [visits_table] at h ⊢
      rw [run_table, writtenIn_cons_of_key rfl]
      exact appends_picked ih l (h.mono fun v hv => List.mem_cons_of_mem _ hv)
    | matchPattern value pattern body =>
      cases hvalue : value.eval (ctx.chain l) with
      | error e =>
        rw [run_matchPattern_of_error hvalue, Statement.visits, writtenIn_cons_of_key rfl]
        simpa [hvalue, Except.toOption, writtenIn, Outcome.failed] using Appends.refl free l
      | ok text =>
        cases hmatch : pattern.fullMatch? text with
        | none =>
          rw [run_matchPattern_of_noMatch hvalue hmatch, Statement.visits, writtenIn_cons_of_key rfl]
          simpa [hvalue, Except.toOption, hmatch, writtenIn, Outcome.done] using
            Appends.refl free l
        | some groups =>
          rw [visits_matchPattern_of_match hvalue hmatch] at h ⊢
          have hnumeral : ∀ j ≤ pattern.groups, free (toString j) = false := fun j hj =>
            h _ (List.mem_flatMap.2 ⟨_, List.mem_cons_self,
              (Visit.bound_of_match hvalue hmatch).symm ▸ mem_numerals.2 ⟨j, hj, rfl⟩⟩)
          have hlen := Pattern.length_of_fullMatch? hmatch
          have hbody : Avoids ctx free (body.visits ctx (bindFrom 0 groups l)) := by
            intro k hk
            rw [← boundIn_inside pattern.groups] at hk
            exact h k (List.mem_append_right _ hk)
          rw [run_matchPattern_of_match hvalue hmatch, writtenIn_cons_of_key rfl, writtenIn_inside]
          exact Appends.around (filter_keys_bindFrom groups 0 l fun j _ hj => hnumeral j (by omega))
            (ih body (by simp [Statement.children]) _ hbody)
            (filter_keys_restoreFrom _ 0 _ fun j _ hj => hnumeral j (by omega))
    | error message =>
      rw [Statement.run, Statement.visits, writtenIn_cons_of_key rfl]
      · cases message.eval (ctx.chain l) <;> exact Appends.refl free l
      all_goals simp
    | foreign kind =>
      rw [Statement.run, Statement.visits, writtenIn_cons_of_key rfl]
      · exact Appends.refl free l
      all_goals simp

end Runs

/-- Keys that are present stay present, since a match pattern gives back those that it removes. -/
theorem keeps_keys_runRelation : RunRelation fun l l' => ∀ k ∈ l.keys, k ∈ l'.keys := by
  simp only [Level.mem_keys_iff]
  exact RunRelation.of_keys (Q := fun _ u v => u ≠ none → v ≠ none) (fun _ _ hk => hk)
    fun _ _ _ _ huv hvw hk => hvw (huv hk)

theorem Assignment.mem_keys_run (ctx : Context) (a : Assignment) (l : Level) :
    ∀ k ∈ l.keys, k ∈ (a.run ctx l).level.keys := by
  intro k hk
  rcases a.run_cases ctx l with ⟨e, -, hl⟩ | ⟨key, value, -, -, hl⟩
  · rwa [hl]
  · rw [hl, Level.keys_put]
    split
    · exact hk
    · exact List.mem_append_left _ hk

/-- **A run drops no key and moves none.** Whether it fails or not, what the leaf had it still has;
and leaving aside what the match patterns that matched have bound, the keys of the leaf are a first
part of those after the run, whose rest are the keys written by assignments in the order in which
each was first written. -/
theorem run_keeps_keys_in_place (ctx : Context) (s : Statement) (l : Level) :
    let after := (s.run ctx l).level.keys
    let free (k : String) : Bool := k ∉ boundIn ctx (s.visits ctx l)
    (∀ k ∈ l.keys, k ∈ after) ∧
    l.keys.filter free <+: after.filter free ∧
    after.filter free = ((l.keys ++ writtenIn ctx (s.visits ctx l)).filter free).eraseDups := by
  intro after free
  have happends : Appends free (writtenIn ctx (s.visits ctx l)) l (s.run ctx l).level :=
    appends_run s l fun k hk => by simpa [free] using hk
  refine ⟨keeps_keys_runRelation.run s (fun a _ => a.mem_keys_run ctx) l, ?_, happends⟩
  rw [happends, List.filter_append, List.eraseDups_append, l.eraseDups_filter_keys]
  exact List.prefix_append _ _

end PropertyDocs
