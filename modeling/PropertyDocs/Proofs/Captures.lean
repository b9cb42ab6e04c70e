import Mathlib
import PropertyDocs.Proofs.Execution

/-!
# What a body sees of a match

The groups of a match are bound at the leaf alone, while a reference reads the whole chain. A group
that took part hides whatever stood under its numeral. One that took none only has its numeral taken
from the leaf, so that its reference still shows what the ancestors have there.
-/
namespace PropertyDocs

/-! ## References -/

namespace Template

/-- The template that is one reference and nothing else. -/
def reference (name : String) : Template := ⟨"", [(name, "")]⟩

theorem expand_reference (name : String) (value : String → String) :
    (reference name).expand value = value name := by
  simp [reference, expand]

example : Template.compile "$\x7b1\x7d" = .ok (reference "1") := by cbv

end Template

/-- What a reference to a key expands to. -/
def Chain.referenced (c : Chain) (key : String) : Except EvaluationError String :=
  (Expression.template (.reference key)).eval c

theorem Chain.referenced_eq (c : Chain) (key : String) : c.referenced key = .ok (c.value key) := by
  rw [referenced, Expression.eval, Texts.expand_string, Template.expand_reference]

/-! ## Bound numerals -/

/-- Binding gives each numeral its group: a text, or nothing at all. -/
theorem get?_bindFrom_numeral : ∀ {groups : List (Option String)} {i j : Nat} {l : Level}
    {group : Option String}, groups[j]? = some group →
      (bindFrom i groups l).get? (toString (i + j)) = group
  | [], _, _, _, _, h => by simp at h
  | first :: groups, i, 0, l, group, h => by
    obtain rfl : first = group := by simpa using h
    -- the numerals that are bound later on are greater
    have hlater : ∀ l' : Level, (bindFrom (i + 1) groups l').get? (toString i) =
        l'.get? (toString i) := by
      intro l'
      apply get?_bindFrom_of_ne
      intro j hj _ heq
      have : i = j := Nat.repr_inj.1 heq
      omega
    rw [Nat.add_zero]
    cases first with
    | none => rw [bindFrom_noPart, hlater, Level.get?_remove_self]
    | some text => rw [bindFrom_text, hlater, Level.get?_put_self]
  | first :: groups, i, j + 1, l, group, h => by
    have h : groups[j]? = some group := by simpa using h
    have hplace : i + (j + 1) = i + 1 + j := by omega
    rw [hplace]
    cases first with
    | none => exact get?_bindFrom_numeral h
    | some text => exact get?_bindFrom_numeral h

/-- The whole match is the first group. -/
theorem Pattern.head?_of_fullMatch? {p : Pattern} {text : String} {groups : List (Option String)}
    (h : p.fullMatch? text = some groups) : groups[0]? = some (some text) := by
  obtain ⟨c, -, rfl⟩ := Option.map_eq_some_iff.1 h
  rfl

section
variable {ctx : Context} {groups : List (Option String)} {l : Level} {i : Nat}

theorem value_of_took_part {part : String} (h : groups[i]? = some (some part)) :
    (ctx.chain (bindFrom 0 groups l)).value (toString i) = part := by
  have hleaf : (bindFrom 0 groups l).get? (toString i) = some part := by
    simpa using get?_bindFrom_numeral (i := 0) h
  rw [Chain.value, Context.chain, Chain.get?_mk, hleaf]
  rfl

theorem value_of_no_part (h : groups[i]? = some none) :
    (ctx.chain (bindFrom 0 groups l)).value (toString i) =
      (Chain.find? ctx.ancestors (toString i)).getD "" := by
  have hleaf : (bindFrom 0 groups l).get? (toString i) = none := by
    simpa using get?_bindFrom_numeral (i := 0) h
  rw [Chain.value, Context.chain, Chain.get?_mk, hleaf, Option.none_or, Texts.empty_string]

theorem value_of_not_bound {n : Nat} {k : String} (hlen : groups.length = n + 1)
    (hk : ∀ i ≤ n, k ≠ toString i) :
    (ctx.chain (bindFrom 0 groups l)).value k = (ctx.chain l).value k := by
  have hnumeral : k ∉ numerals n := by
    rw [mem_numerals]
    rintro ⟨i, hi, rfl⟩
    exact hk i hi rfl
  have hleaf : (bindFrom 0 groups l).get? k = l.get? k := get?_bindFrom_other hnumeral hlen l
  rw [Chain.value, Chain.value, Context.chain, Context.chain, Chain.get?_mk, Chain.get?_mk,
    hleaf]

end

/-- **A body sees the groups of its match.** If the pattern matches, the body is run on a leaf where
the reference to a group that took part gives its text, the first group being the whole match,
whatever stood under its numeral anywhere. The reference to a group that took no part gives what the
ancestors have under its numeral, which is the empty text if they have nothing there. All keys but
the numerals of the pattern expand as they did before. -/
theorem body_sees_groups {ctx : Context} {value : Expression} {pattern : Pattern} {l : Level}
    {text : String} {groups : List (Option String)} (body : Statement)
    (hvalue : value.eval (ctx.chain l) = .ok text)
    (hmatch : pattern.fullMatch? text = some groups) :
    ∃ bound : Level,
      (Statement.matchPattern value pattern body).run ctx l =
        (body.run ctx bound).mapLevel (restoreFrom l 0 (pattern.groups + 1)) ∧
      groups.length = pattern.groups + 1 ∧ groups[0]? = some (some text) ∧
      (∀ (i : Nat) (part : String), groups[i]? = some (some part) →
        (ctx.chain bound).referenced (toString i) = .ok part) ∧
      (∀ i : Nat, groups[i]? = some none →
        (ctx.chain bound).referenced (toString i) =
          .ok ((Chain.find? ctx.ancestors (toString i)).getD "")) ∧
      ∀ k, (∀ i ≤ pattern.groups, k ≠ toString i) →
        (ctx.chain bound).referenced k = (ctx.chain l).referenced k := by
  have hlen := Pattern.length_of_fullMatch? hmatch
  refine ⟨bindFrom 0 groups l, run_matchPattern_of_match hvalue hmatch, hlen,
    Pattern.head?_of_fullMatch? hmatch, ?_, ?_, ?_⟩
  · intro i part hi
    rw [Chain.referenced_eq, value_of_took_part hi]
  · intro i hi
    rw [Chain.referenced_eq, value_of_no_part hi]
  · intro k hk
    rw [Chain.referenced_eq, Chain.referenced_eq, value_of_not_bound hlen hk]

/-- The second group takes no part, and only the leaf has something under its numeral. -/
theorem body_sees_groups_sample :
    let leaf := Level.ofPairs [("2", "stale"), ("x", "y")]
    let ctx : Context := ⟨none, [.ofPairs [("1", "hidden")]]⟩
    (Expression.literal "7").eval (ctx.chain leaf) = .ok "7" ∧
    Pattern.sample.fullMatch? "7" = some [some "7", some "7", none] ∧
    ∃ bound : Level,
      (ctx.chain bound).referenced (toString 1) = .ok "7" ∧
      (ctx.chain bound).referenced (toString 2) = .ok "" ∧
      (ctx.chain bound).referenced "x" = .ok "y" := by
  intro leaf ctx
  have hvalue : (Expression.literal "7").eval (ctx.chain leaf) = .ok "7" := rfl
  have hmatch : Pattern.sample.fullMatch? "7" = some [some "7", some "7", none] := by decide
  obtain ⟨bound, -, -, -, hpart, hnone, hother⟩ := body_sees_groups (.block []) hvalue hmatch
  refine ⟨hvalue, hmatch, bound, hpart 1 "7" rfl, ?_, (hother "x" ?_).trans (by decide)⟩
  · rw [hnone 2 rfl]
    decide
  · have hgroups : Pattern.sample.groups = 2 := rfl
    intro i hi
    obtain rfl | rfl | rfl : i = 0 ∨ i = 1 ∨ i = 2 := by omega
    all_goals decide

/-- A parent that has the numerals of all groups. -/
def numeralParent : Level := .ofPairs [("0", "p"), ("1", "q"), ("2", "r"), ("3", "s")]

/-- The reference to a group that took no part shows what the parent has under its numeral, while
the groups that took part hide what it has under theirs. -/
theorem absent_group_shows_ancestor :
    Pattern.sample.fullMatch? "7" = some [some "7", some "7", none] ∧
    ((Statement.matchPattern (.literal "7") .sample (.assign
      { key := .literal "seen", value := .template ⟨"", [("1", "-"), ("2", "")]⟩,
        defaultOnly := false, encrypted := false })).run ⟨none, [numeralParent]⟩ .empty).level =
      .ofPairs [("seen", "7-r")] := by
  decide

end PropertyDocs
