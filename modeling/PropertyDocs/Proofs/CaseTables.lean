import Mathlib.Data.Nat.ModEq
import PropertyDocs.Text.Case

/-!
# Tables of letter case

The tables map whole runs of code points by one shift, so what is true of all characters is decided
run by run: two runs either keep out of each other's way, or one shift holds for all of the
numbers that are looked up (`commonShift?`). Only a few runs are looked at number by number.
-/
namespace PropertyDocs.Text

/-! ## Code points -/

theorem toNat_ofNat {n : Nat} (h : n.isValidChar) : (Char.ofNat n).toNat = n :=
  congrArg Char.toNat (dif_pos h)

/-- A character is that of one number, except for the first, which stands for what is none. -/
theorem ofNat_eq_iff {n : Nat} {c : Char} (hc : c.toNat ≠ 0) : Char.ofNat n = c ↔ n = c.toNat := by
  constructor
  · rintro rfl
    by_cases hn : n.isValidChar
    · exact (toNat_ofNat hn).symm
    · have hzero : (Char.ofNat n).toNat = 0 := congrArg Char.toNat (dif_neg hn)
      exact absurd hzero hc
  · rintro rfl
    exact Char.ofNat_toNat c

/-! ## Runs -/

/-- The number lies in the run. -/
def ShiftRun.Holds (r : ShiftRun) (n : Nat) : Prop :=
  r.first ≤ n ∧ n ≤ r.last ∧ (n - r.first) % r.step = 0

theorem shifted_cons (r : ShiftRun) (rest : List ShiftRun) (n : Nat) :
    shifted (r :: rest) n =
      if n < r.first then n
      else if n ≤ r.last ∧ (n - r.first) % r.step = 0 then (n + r.shift).toNat
      else shifted rest n := by
  simp only [shifted, Bool.and_eq_true, decide_eq_true_eq, beq_iff_eq]

/-- A number that is moved lies in the run that moves it. -/
theorem exists_run_of_shifted_ne {runs : List ShiftRun} {n : Nat} (h : shifted runs n ≠ n) :
    ∃ r ∈ runs, r.Holds n ∧ shifted runs n = (n + r.shift).toNat := by
  induction runs with
  | nil => exact absurd rfl h
  | cons r rest ih =>
    rw [shifted_cons] at h ⊢
    split at h
    · exact absurd rfl h
    · next hfirst =>
      rw [if_neg hfirst]
      split at h
      · next hrun =>
        rw [if_pos hrun]
        exact ⟨r, by simp, ⟨Nat.le_of_not_lt hfirst, hrun⟩, rfl⟩
      · next hrun =>
        obtain ⟨q, hq, hholds, heq⟩ := ih h
        rw [if_neg hrun]
        exact ⟨q, by simp [hq], hholds, heq⟩

theorem ShiftRun.preimage?_of_holds {r : ShiftRun} {m n : Nat} (hn : r.Holds n)
    (hm : (n + r.shift).toNat = m) (hpos : m ≠ 0) : r.preimage? m = some n := by
  obtain ⟨hfirst, hlast, hstep⟩ := hn
  have hsum : (n : Int) + r.shift = m := by omega
  have hback : ((m : Int) - r.shift).toNat = n := by omega
  simp [ShiftRun.preimage?, hback, hfirst, hlast, hstep, hsum]

/-- What is mapped to a number is that number, or the run that it lies in maps it there. -/
theorem eq_or_mem_preimages {runs : List ShiftRun} {m n : Nat} (h : shifted runs n = m)
    (hpos : m ≠ 0) : n = m ∨ n ∈ runs.filterMap (·.preimage? m) := by
  by_cases hsame : n = m
  · exact .inl hsame
  · obtain ⟨r, hr, hholds, hshift⟩ := exists_run_of_shifted_ne (h.trans_ne (Ne.symm hsame))
    exact .inr (List.mem_filterMap.2
      ⟨r, hr, ShiftRun.preimage?_of_holds hholds (hshift.symm.trans h) hpos⟩)

/-! ## One shift for many numbers -/

/-- The numbers `first, first + step, …, last`; with the step 0 the first alone. -/
structure Progression where
  first : Nat
  last : Nat
  step : Nat

namespace Progression

def Holds (p : Progression) (n : Nat) : Prop :=
  p.first ≤ n ∧ n ≤ p.last ∧ (n - p.first) % p.step = 0

/-- The numbers after a shift. -/
def moved (p : Progression) (d : Int) : Progression :=
  ⟨(p.first + d).toNat, (p.last + d).toNat, p.step⟩

-- The tests below are run on whole tables. They compare by the operations on numbers themselves,
-- which evaluate several times faster than decisions of the same facts.

def has (p : Progression) (n : Nat) : Bool :=
  p.first.ble n && n.ble p.last && ((n - p.first) % p.step).beq 0

/-- No number is in the run: the numbers come after it or between its members. -/
def avoids (p : Progression) (r : ShiftRun) : Bool :=
  r.last.blt p.first ||
    ((p.step % r.step).beq 0 && !(p.first % r.step).beq (r.first % r.step))

/-- All numbers are in the run. -/
def within (p : Progression) (r : ShiftRun) : Bool :=
  r.first.ble p.first && p.last.ble r.last && (p.step % r.step).beq 0 &&
    ((p.first - r.first) % r.step).beq 0

theorem has_iff {p : Progression} {n : Nat} : p.has n = true ↔ p.Holds n := by
  simp only [has, Holds, Bool.and_eq_true, Nat.ble_eq, Nat.beq_eq, and_assoc]

end Progression

/-- The shift of all the numbers under sorted runs, if each run has all of them or none. -/
def commonShift? (p : Progression) : List ShiftRun → Option Int
  | [] => some 0
  | r :: rest =>
    bif p.last.blt r.first then some 0
    else bif p.avoids r then
      bif r.first.ble p.first then commonShift? p rest else (commonShift? p rest).filter (· == 0)
    else bif p.within r then some r.shift
    else none

section
variable {p : Progression} {r : ShiftRun} {n : Nat}

/-- Steps of the numbers are steps of a run that has a part of their step. -/
theorem Progression.modEq_of_holds (hn : p.Holds n) (hstep : p.step % r.step = 0) :
    n ≡ p.first [MOD r.step] := by
  have hdvd : r.step ∣ n - p.first :=
    (Nat.dvd_of_mod_eq_zero hstep).trans (Nat.dvd_of_mod_eq_zero hn.2.2)
  exact ((Nat.modEq_iff_dvd' hn.1).2 hdvd).symm

theorem Progression.not_holds_of_avoids (h : p.avoids r = true) (hn : p.Holds n) :
    ¬ r.Holds n := by
  rintro ⟨hfirst, hlast, hstep⟩
  simp only [avoids, Bool.or_eq_true, Nat.blt_eq, Bool.and_eq_true, Bool.not_eq_eq_eq_not, Bool.not_true,
    ← Bool.not_eq_true, Nat.beq_eq] at h
  rcases h with hafter | ⟨hsteps, hbetween⟩
  · have hfirst := hn.1
    omega
  · have hrun : r.first ≡ n [MOD r.step] :=
      (Nat.modEq_iff_dvd' hfirst).2 (Nat.dvd_of_mod_eq_zero hstep)
    exact hbetween (hrun.trans (modEq_of_holds hn hsteps)).symm

theorem Progression.holds_of_within (h : p.within r = true) (hn : p.Holds n) : r.Holds n := by
  simp only [within, Bool.and_eq_true, Nat.ble_eq, Nat.beq_eq] at h
  obtain ⟨⟨⟨hfirst, hlast⟩, hsteps⟩, hstep⟩ := h
  have hle : r.first ≤ n := hfirst.trans hn.1
  have hrun : r.first ≡ p.first [MOD r.step] :=
    (Nat.modEq_iff_dvd' hfirst).2 (Nat.dvd_of_mod_eq_zero hstep)
  have hdvd := (Nat.modEq_iff_dvd' hle).1 (hrun.trans (modEq_of_holds hn hsteps).symm)
  exact ⟨hle, hn.2.1.trans hlast, Nat.mod_eq_zero_of_dvd hdvd⟩

theorem shifted_of_commonShift? {runs : List ShiftRun} {d : Int} (h : commonShift? p runs = some d)
    (hn : p.Holds n) : shifted runs n = (n + d).toNat := by
  induction runs generalizing d with
  | nil =>
    obtain rfl : 0 = d := by simpa [commonShift?] using h
    simp [shifted]
  | cons r rest ih =>
    rw [commonShift?] at h
    simp only [Bool.cond_eq_ite, Nat.blt_eq, Nat.ble_eq] at h
    rw [shifted_cons]
    split at h
    · next hbefore =>
      obtain rfl : 0 = d := by simpa using h
      have hlast := hn.2.1
      rw [if_pos (by omega)]
      simp
    · split at h
      · next havoids =>
        have hout := Progression.not_holds_of_avoids havoids hn
        split
        · next hbefore =>
          -- the first of the numbers comes before the run, or this one would not
          have hfirst : ¬ r.first ≤ p.first := fun hle => by
            have := hn.1
            omega
          rw [if_neg hfirst] at h
          obtain ⟨-, hzero⟩ := Option.filter_eq_some_iff.1 h
          obtain rfl : d = 0 := by simpa using hzero
          simp
        · next hfirst =>
          rw [if_neg fun hrun => hout ⟨Nat.le_of_not_lt hfirst, hrun⟩]
          split at h
          · exact ih h
          · exact ih (Option.filter_eq_some_iff.1 h).1
      · split at h
        · next hwithin =>
          obtain rfl : r.shift = d := by simpa using h
          obtain ⟨hfirst, hrun⟩ := Progression.holds_of_within hwithin hn
          rw [if_neg (Nat.not_lt.2 hfirst), if_pos hrun]
        · cases h

end

end PropertyDocs.Text
