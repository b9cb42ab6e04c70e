import PropertyDocs.Pattern.Match

/-!
# Where matchers lead

A matcher hands every place that it comes to over to its continuation, and gives what the
continuation gives at one of them. So a result of a match is explained by the places on the way to
it, whatever was tried before: repetitions come down to rounds, whether they are greedy or not.
-/
namespace PropertyDocs

namespace Matcher
variable {Q : Cursor → Cursor → Prop} {m : Matcher}

/-- What the matcher gives at `c` is what its continuation gives at a place that `Q` allows. -/
def Leads (Q : Cursor → Cursor → Prop) (m : Matcher) : Prop :=
  ∀ ⦃k : Cursor → Option Cursor⦄ ⦃c r : Cursor⦄, m k c = some r → ∃ c', Q c c' ∧ k c' = some r

/-- A number of rounds, one after another. -/
inductive Rounds (Q : Cursor → Cursor → Prop) : Nat → Cursor → Cursor → Prop
  | none (c : Cursor) : Rounds Q 0 c c
  | next {n : Nat} {c c' c'' : Cursor} :
    Q c c' → Rounds Q n c' c'' → Rounds Q (n + 1) c c''

/-- Rounds of which there are at most `most`. -/
def RoundsUpTo (Q : Cursor → Cursor → Prop) (most : Option Nat) (c c' : Cursor) : Prop :=
  ∃ n, (∀ bound ∈ most, n ≤ bound) ∧ Rounds Q n c c'

theorem Rounds.append {a b : Nat} {c c' c'' : Cursor} (h : Rounds Q a c c')
    (h' : Rounds Q b c' c'') : Rounds Q (a + b) c c'' := by
  induction h with
  | none => simpa using h'
  | next hround _ ih =>
    rw [Nat.add_right_comm]
    exact .next hround (ih h')

theorem RoundsUpTo.none (most : Option Nat) (c : Cursor) : RoundsUpTo Q most c c :=
  ⟨0, by simp, .none c⟩

/-- A round that may begin, and then one round fewer. -/
theorem RoundsUpTo.next {most last : Option Nat} {c c' c'' : Cursor}
    (hbegin : mayBegin most last c = true) (hround : Q c c')
    (h : RoundsUpTo Q (fewer most) c' c'') : RoundsUpTo Q most c c'' := by
  obtain ⟨n, hn, hrounds⟩ := h
  refine ⟨n + 1, fun bound hbound => ?_, .next hround hrounds⟩
  obtain rfl : most = some bound := hbound
  have hn := hn (bound - 1) (by simp [fewer])
  have hpos : bound ≠ 0 := by
    rintro rfl
    simp [mayBegin] at hbegin
  omega

/-- The rounds that must be made, and then those to spare. -/
theorem Rounds.withSpare {least : Nat} {most : Option Nat} {c c' c'' : Cursor}
    (h : Rounds Q least c c') (hspare : RoundsUpTo Q (most.map (· - least)) c' c'') :
    ∃ n, least ≤ n ∧ (∀ bound ∈ most, n ≤ max least bound) ∧ Rounds Q n c c'' := by
  obtain ⟨n, hn, hrounds⟩ := hspare
  refine ⟨least + n, by omega, fun bound hbound => ?_, h.append hrounds⟩
  have hn := hn (bound - least) (Option.mem_map_of_mem _ hbound)
  omega

namespace Leads

/-- Without a continuation, the place itself is the result. -/
theorem settle (h : m.Leads Q) {c c' : Cursor} (hm : m some c = some c') : Q c c' := by
  obtain ⟨_, hc', ⟨⟩⟩ := h hm
  exact hc'

theorem exactly (h : m.Leads Q) : ∀ n, (m.exactly n).Leads (Rounds Q n)
  | 0, _, c, _, hm => ⟨c, .none c, hm⟩
  | n + 1, _, _, _, hm => by
    obtain ⟨c', hround, hm⟩ := h hm
    obtain ⟨c'', hrounds, hk⟩ := exactly h n hm
    exact ⟨c'', .next hround hrounds, hk⟩

theorem greedily (h : m.Leads Q) : ∀ (fuel : Nat) (most last : Option Nat),
    (m.greedily fuel most last).Leads (RoundsUpTo Q most)
  | 0, _, _, _, c, _, hm => ⟨c, .none _ c, hm⟩
  | fuel + 1, most, last, k, c, r, hm => by
    rw [Matcher.greedily] at hm
    split at hm
    · next hbegin =>
      split at hm
      · next r' hround =>
        obtain rfl : r' = r := by simpa using hm
        obtain ⟨c', hc', hround⟩ := h hround
        obtain ⟨c'', hrest, hk⟩ := greedily h fuel (fewer most) (some c.rest.length) hround
        exact ⟨c'', .next hbegin hc' hrest, hk⟩
      · exact ⟨c, .none _ c, hm⟩
    · exact ⟨c, .none _ c, hm⟩

theorem lazily (h : m.Leads Q) : ∀ (fuel : Nat) (most last : Option Nat),
    (m.lazily fuel most last).Leads (RoundsUpTo Q most)
  | 0, _, _, _, c, _, hm => ⟨c, .none _ c, hm⟩
  | fuel + 1, most, last, k, c, r, hm => by
    rw [Matcher.lazily] at hm
    split at hm
    · next r' hk =>
      obtain rfl : r' = r := by simpa using hm
      exact ⟨c, .none _ c, hk⟩
    · split at hm
      · next hbegin =>
        obtain ⟨c', hc', hm⟩ := h hm
        obtain ⟨c'', hrest, hk⟩ := lazily h fuel (fewer most) (some c.rest.length) hm
        exact ⟨c'', .next hbegin hc' hrest, hk⟩
      · cases hm

theorem settled (h : m.Leads Q) : ∀ {n : Nat} {c c' : Cursor},
    m.settled n c = some c' → Rounds Q n c c'
  | 0, c, c', hm => by
    obtain rfl : c = c' := by simpa [Matcher.settled] using hm
    exact .none c
  | n + 1, c, c', hm => by
    obtain ⟨c₁, hround, hm⟩ := Option.bind_eq_some_iff.1 hm
    exact .next (h.settle hround) (settled h hm)

theorem settledGreedily (h : m.Leads Q) : ∀ (fuel : Nat) (most last : Option Nat) (c : Cursor),
    RoundsUpTo Q most c (m.settledGreedily fuel most last c)
  | 0, _, _, c => .none _ c
  | fuel + 1, most, last, c => by
    rw [Matcher.settledGreedily]
    split
    · next hbegin =>
      split
      · next c' hround =>
        exact .next hbegin (h.settle hround) (settledGreedily h fuel _ _ c')
      · exact .none _ c
    · exact .none _ c

/-- A repetition leads over at least its least number of rounds, and over no more than its
greatest. -/
theorem rounds (h : m.Leads Q) (least : Nat) (most : Option Nat) (greed : Greed) :
    (m.rounds least most greed).Leads fun c c' =>
      ∃ n, least ≤ n ∧ (∀ bound ∈ most, n ≤ max least bound) ∧ Rounds Q n c c' := by
  intro k c r hm
  cases greed with
  | greedy =>
    obtain ⟨c₁, hleast, hm⟩ := h.exactly least hm
    obtain ⟨c₂, hspare, hk⟩ := h.greedily _ _ _ hm
    exact ⟨c₂, hleast.withSpare hspare, hk⟩
  | lazy =>
    obtain ⟨c₁, hleast, hm⟩ := h.exactly least hm
    obtain ⟨c₂, hspare, hk⟩ := h.lazily _ _ _ hm
    exact ⟨c₂, hleast.withSpare hspare, hk⟩
  | possessive =>
    obtain ⟨c₁, hleast, hk⟩ := Option.bind_eq_some_iff.1 hm
    exact ⟨_, (h.settled hleast).withSpare (h.settledGreedily _ _ _ c₁), hk⟩

end Leads

end Matcher

end PropertyDocs
