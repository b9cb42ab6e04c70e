import PropertyDocs.Evaluation
import PropertyDocs.Proofs.CaseTables

/-!
# Comparing without regard to case

Two characters count as equal for one of three reasons: they are the same, they have the same
upper-case form, or they have the same lower-case form. Each reason alone can be chained. Two
different ones can be chained because a character and its lower-case form have the same upper-case
form (`upperFull_lowerChar`), but for a few capitals that are `alone`: they are their own upper-case
form, and their lower-case form belongs to another capital. Who shares an upper-case form with that
other capital is known (`raisedFrom`), and one chain comes out wrong: `ϴ`, `θ`, `ϑ`.
-/
namespace PropertyDocs.Text

/-! ## The upper-case form of a lower-case form -/

theorem upperFull_of_lookup {c : Char} (h : ∀ e ∈ upperExpansions, e.1 ≠ c.toNat) :
    upperFull c = [Char.ofNat (shifted upperRuns c.toNat)] := by
  have hnone : upperExpansions.lookup c.toNat = none :=
    List.lookup_eq_none_iff.2 fun e he => by simpa using (h e he).symm
  simp only [upperFull, hnone]

/-- The shift of all the numbers under upper-casing, if they have one. -/
def raisedShift? (p : Progression) : Option Int :=
  if upperExpansions.any fun e => p.has e.1 then none else commonShift? p upperRuns

theorem upperFull_of_raisedShift? {p : Progression} {d : Int} {c : Char}
    (h : raisedShift? p = some d) (hc : p.Holds c.toNat) :
    upperFull c = [Char.ofNat (c.toNat + d).toNat] := by
  unfold raisedShift? at h
  split at h
  · cases h
  · next hexpands =>
    rw [upperFull_of_lookup, shifted_of_commonShift? h hc]
    rintro e he heq
    exact hexpands (List.any_eq_true.2 ⟨e, he, Progression.has_iff.2 (heq ▸ hc)⟩)

namespace ShiftRun

/-- The numbers of a run; of a single one the step is no matter. -/
def numbers (r : ShiftRun) : Progression :=
  ⟨r.first, r.last, if r.first = r.last then 0 else r.step⟩

def members (r : ShiftRun) : List Nat :=
  List.range' r.first ((r.last - r.first) / r.step + 1) r.step

/-- The images of the run are numbers of characters. -/
def staysValid (r : ShiftRun) : Bool :=
  0 ≤ r.first + r.shift && (r.last + r.shift < 0xd800 ||
    (0xdfff < r.first + r.shift && r.last + r.shift < 0x110000))

/-- Upper-casing shifts the whole run and its images, and to the same characters. -/
def raisedAlike (r : ShiftRun) : Bool :=
  match raisedShift? r.numbers, raisedShift? (r.numbers.moved r.shift) with
  | some d, some e => d == r.shift + e
  | _, _ => false

variable {r : ShiftRun} {n : Nat}

theorem holds_numbers (h : r.Holds n) : r.numbers.Holds n := by
  obtain ⟨hfirst, hlast, hstep⟩ := h
  refine ⟨hfirst, hlast, ?_⟩
  simp only [numbers]
  split
  · simp only [Nat.mod_zero]
    omega
  · exact hstep

theorem mem_members (h : r.Holds n) : n ∈ r.members := by
  obtain ⟨hfirst, hlast, hstep⟩ := h
  have hdiv : (n - r.first) / r.step ≤ (r.last - r.first) / r.step :=
    Nat.div_le_div_right (by omega)
  refine List.mem_range'.2 ⟨(n - r.first) / r.step, by omega, ?_⟩
  rw [Nat.mul_div_cancel' (Nat.dvd_of_mod_eq_zero hstep)]
  omega

theorem toNat_shift (h : r.Holds n) (hvalid : r.staysValid) :
    ((n + r.shift).toNat : Int) = n + r.shift ∧ (n + r.shift).toNat.isValidChar := by
  obtain ⟨hfirst, hlast, -⟩ := h
  simp only [staysValid, Bool.and_eq_true, Bool.or_eq_true, decide_eq_true_eq] at hvalid
  have hnat : ((n + r.shift).toNat : Int) = n + r.shift := by omega
  refine ⟨hnat, ?_⟩
  simp only [Nat.isValidChar]
  omega

theorem holds_moved (h : r.Holds n) (hvalid : r.staysValid) :
    (r.numbers.moved r.shift).Holds (n + r.shift).toNat := by
  obtain ⟨hfirst, hlast, hstep⟩ := holds_numbers h
  obtain ⟨hnat, -⟩ := toNat_shift h hvalid
  simp only [staysValid, Bool.and_eq_true, decide_eq_true_eq] at hvalid
  have hstart : (((r.first : Int) + r.shift).toNat : Int) = r.first + r.shift := by omega
  simp only [Progression.Holds, Progression.moved, numbers] at hfirst hlast hstep ⊢
  refine ⟨by omega, by omega, ?_⟩
  rw [show (n + r.shift).toNat - (r.first + r.shift).toNat = n - r.first by omega]
  exact hstep

end ShiftRun

/-- The capitals that are their own upper-case form and share their lower-case form. -/
def alone : List Char :=
  ['\u0130', '\u03f4', '\u1e9e', '\u2126', '\u212a', '\u212b']

theorem staysValid_lowerRuns : ∀ r ∈ lowerRuns, r.staysValid = true := by
  decide +kernel

theorem raised_lowerRuns : ∀ r ∈ lowerRuns, r.raisedAlike = true ∨ ∀ n ∈ r.members,
    Char.ofNat n ∈ alone ∨ upperFull (lowerChar (Char.ofNat n)) = upperFull (Char.ofNat n) := by
  decide +kernel

theorem upperFull_lowerChar {c : Char} (h : c ∉ alone) : upperFull (lowerChar c) = upperFull c := by
  by_cases hsame : shifted lowerRuns c.toNat = c.toNat
  · rw [lowerChar, hsame, Char.ofNat_toNat]
  obtain ⟨r, hr, hc, hshift⟩ := exists_run_of_shifted_ne hsame
  have hvalid := staysValid_lowerRuns r hr
  obtain ⟨hnat, hchar⟩ := ShiftRun.toNat_shift hc hvalid
  rcases raised_lowerRuns r hr with halike | hmembers
  · unfold ShiftRun.raisedAlike at halike
    split at halike
    · next d e hd he =>
      obtain rfl : d = r.shift + e := by simpa using halike
      have hlower : (lowerChar c).toNat = (c.toNat + r.shift).toNat := by
        rw [lowerChar, hshift, toNat_ofNat hchar]
      have hmoved := ShiftRun.holds_moved hc hvalid
      rw [upperFull_of_raisedShift? hd (ShiftRun.holds_numbers hc),
        upperFull_of_raisedShift? he (hlower ▸ hmoved), hlower, hnat, Int.add_assoc]
    · cases halike
  · have hc := hmembers c.toNat (ShiftRun.mem_members hc)
    rw [Char.ofNat_toNat] at hc
    exact hc.resolve_left h

/-! ## Who has an upper-case form -/

/-- Some upper-case forms, each with all the characters that have it: those of the capitals that
are alone, and those of the lower-case forms of the same. -/
def raisedFrom : List (List Char × List Char) :=
  alone.map (fun c => ([c], [c])) ++
    [(['Θ'], ['Θ', 'θ', '\u03d1']), (['S', 'S'], ['ß']), (['\u03a9'], ['\u03a9', 'ω']),
    (['K'], ['K', 'k']), (['\u00c5'], ['\u00c5', 'å'])]

theorem expansions_raisedFrom : ∀ e ∈ upperExpansions, ∀ p ∈ raisedFrom,
    e.2.map Char.ofNat = p.1 → Char.ofNat e.1 ∈ p.2 := by
  decide +kernel

-- What is decided about each character of a list is a Boolean here: the decision of a statement
-- about characters may go through all the characters there are.

/-- If the form is a single character, then it is listed with all that a run maps to it. -/
def listsPreimages : List Char × List Char → Bool
  | ([c], cs) => c.toNat != 0 && cs.contains c &&
      (upperRuns.filterMap (·.preimage? c.toNat)).all (cs.contains <| Char.ofNat ·)
  | _ => true

theorem listsPreimages_raisedFrom : ∀ p ∈ raisedFrom, listsPreimages p = true := by
  decide +kernel

theorem mem_of_upperFull_eq {a : Char} {p : List Char × List Char} (hp : p ∈ raisedFrom)
    (h : upperFull a = p.1) : a ∈ p.2 := by
  unfold upperFull at h
  split at h
  · next cs hlookup =>
    obtain ⟨before, after, hall, -⟩ := List.lookup_eq_some_iff.1 hlookup
    have ha := expansions_raisedFrom (a.toNat, cs) (by simp [hall]) p hp h
    rwa [Char.ofNat_toNat] at ha
  · obtain ⟨_, cs⟩ := p
    obtain rfl := h
    have hlists := listsPreimages_raisedFrom _ hp
    simp only [listsPreimages, Bool.and_eq_true, bne_iff_ne, List.contains_iff_mem,
      List.all_eq_true] at hlists
    obtain ⟨⟨hzero, hself⟩, hothers⟩ := hlists
    have hshift := (ofNat_eq_iff hzero).1 rfl
    rcases eq_or_mem_preimages hshift hzero with heq | hmem
    · rwa [hshift.trans heq.symm, Char.ofNat_toNat] at hself
    · have ha := hothers _ hmem
      rwa [Char.ofNat_toNat] at ha

/-- A capital that is alone has its upper-case form to itself. -/
theorem eq_of_upperFull_eq_alone {a b : Char} (hb : b ∈ alone) (h : upperFull a = upperFull b) :
    a = b := by
  have hown : alone.all (fun c => upperFull c == [c]) = true := by decide +kernel
  have hupper : upperFull b = [b] := by simpa using List.all_eq_true.1 hown b hb
  have hentry : ([b], [b]) ∈ raisedFrom := List.mem_append_left _ (List.mem_map_of_mem hb)
  simpa using mem_of_upperFull_eq hentry (h.trans hupper)

end PropertyDocs.Text

namespace PropertyDocs
open Text

/-! ## Two characters -/

/-- The capital `ϴ` and the letter `ϑ`, in either order. Both are equal to `θ` without regard to
case, the first by its lower-case form and the second by its upper-case form. -/
def AreThetas (a c : Char) : Prop :=
  a = '\u03f4' ∧ c = '\u03d1' ∨ a = '\u03d1' ∧ c = '\u03f4'

instance (a c : Char) : Decidable (AreThetas a c) := inferInstanceAs (Decidable (_ ∨ _))

section
variable {a b c : Char}

theorem sameLetter_iff : sameLetter a b = true ↔
    a = b ∨ upperFull a = upperFull b ∨ lowerFull a = lowerFull b := by
  simp only [sameLetter, Bool.or_eq_true, beq_iff_eq, or_assoc]

theorem sameLetter_self (a : Char) : sameLetter a a = true :=
  sameLetter_iff.2 (.inl rfl)

theorem sameLetter_symm (h : sameLetter a b = true) : sameLetter b a = true := by
  rw [sameLetter_iff] at h ⊢
  exact h.imp Eq.symm (Or.imp Eq.symm Eq.symm)

theorem AreThetas.symm (h : AreThetas a c) : AreThetas c a :=
  (Or.symm h).imp And.symm And.symm

theorem AreThetas.not_sameLetter (h : AreThetas a c) : sameLetter a c = false := by
  obtain ⟨rfl, rfl⟩ | ⟨rfl, rfl⟩ := h <;> decide +kernel

/-- Only `İ` is lowered to two characters. -/
theorem eq_or_lowerChar_eq (h : lowerFull b = lowerFull c) :
    b = c ∨ c ≠ 'İ' ∧ lowerChar b = lowerChar c := by
  unfold lowerFull at h
  split at h <;> split at h <;> simp_all

/-- Equal by upper-case forms and then by lower-case forms. -/
theorem sameLetter_of_upper_lower (hab : upperFull a = upperFull b)
    (hbc : lowerFull b = lowerFull c) : sameLetter a c = true ∨ AreThetas a c := by
  by_cases hb : b ∈ alone
  · obtain rfl := eq_of_upperFull_eq_alone hb hab
    exact .inl (sameLetter_iff.2 (.inr (.inr hbc)))
  rcases eq_or_lowerChar_eq hbc with rfl | ⟨hdot, hlower⟩
  · exact .inl (sameLetter_iff.2 (.inr (.inl hab)))
  have hraised : upperFull a = upperFull (lowerChar c) := by
    rw [hab, ← upperFull_lowerChar hb, hlower]
  by_cases hc : c ∈ alone
  · have hshared : alone.all (fun c => c == 'İ' || raisedFrom.any fun p =>
        upperFull (lowerChar c) == p.1 && p.2.all fun a => sameLetter a c || AreThetas a c) = true := by
      decide +kernel
    have hentry := List.all_eq_true.1 hshared c hc
    simp only [Bool.or_eq_true, beq_iff_eq, hdot, false_or, List.any_eq_true, Bool.and_eq_true,
      List.all_eq_true, decide_eq_true_eq] at hentry
    obtain ⟨p, hp, hupper, hall⟩ := hentry
    exact hall a (mem_of_upperFull_eq hp (hraised.trans hupper))
  · rw [upperFull_lowerChar hc] at hraised
    exact .inl (sameLetter_iff.2 (.inr (.inl hraised)))

/-- A chain of two comparisons comes out as a third one, but for the thetas. -/
theorem sameLetter_trans_iff (hab : sameLetter a b = true) (hbc : sameLetter b c = true) :
    sameLetter a c = true ↔ ¬ AreThetas a c := by
  have hchain : sameLetter a c = true ∨ AreThetas a c := by
    rcases sameLetter_iff.1 hab with rfl | hupper | hlower
    · exact .inl hbc
    · rcases sameLetter_iff.1 hbc with rfl | hupper' | hlower'
      · exact .inl hab
      · exact .inl (sameLetter_iff.2 (.inr (.inl (hupper.trans hupper'))))
      · exact sameLetter_of_upper_lower hupper hlower'
    · rcases sameLetter_iff.1 hbc with rfl | hupper' | hlower'
      · exact .inl hab
      · exact (sameLetter_of_upper_lower hupper'.symm hlower.symm).imp sameLetter_symm
          AreThetas.symm
      · exact .inl (sameLetter_iff.2 (.inr (.inr (hlower.trans hlower'))))
  refine ⟨fun hac hthetas => ?_, hchain.resolve_right⟩
  exact absurd hac (by simp [hthetas.not_sameLetter])

end

/-! ## Texts -/

/-- At some place one text has `ϴ` and the other `ϑ`. -/
def ThetasMeet (a c : String) : Prop :=
  ∃ p ∈ a.toList.zip c.toList, AreThetas p.1 p.2

instance (a c : String) : Decidable (ThetasMeet a c) :=
  inferInstanceAs (Decidable (∃ p ∈ _, _))

theorem sameLetters_self : ∀ as : List Char, sameLetters as as = true
  | [] => rfl
  | a :: as => by rw [sameLetters, sameLetter_self, sameLetters_self as]; rfl

theorem sameLetters_symm : ∀ {as bs : List Char}, sameLetters as bs = true →
    sameLetters bs as = true
  | [], [], _ => rfl
  | a :: as, b :: bs, h => by
    simp only [sameLetters, Bool.and_eq_true] at h ⊢
    exact ⟨sameLetter_symm h.1, sameLetters_symm h.2⟩

theorem sameLetters_trans_iff : ∀ {as bs cs : List Char}, sameLetters as bs = true →
    sameLetters bs cs = true →
    (sameLetters as cs = true ↔ ¬ ∃ p ∈ as.zip cs, AreThetas p.1 p.2)
  | [], [], [], _, _ => by simp [sameLetters]
  | a :: as, b :: bs, c :: cs, hab, hbc => by
    simp only [sameLetters, Bool.and_eq_true] at hab hbc ⊢
    rw [sameLetter_trans_iff hab.1 hbc.1, sameLetters_trans_iff hab.2 hbc.2]
    simp

theorem equalsIgnoreCase_trans_iff {a b c : String} (hab : equalsIgnoreCase a b = true)
    (hbc : equalsIgnoreCase b c = true) : equalsIgnoreCase a c = true ↔ ¬ ThetasMeet a c :=
  sameLetters_trans_iff hab hbc

/-! ## Tests -/

theorem eval_equals_eq_ok_iff {c : Chain} {key value : Expression} {passed : Bool} :
    (Test.equals key value false).eval c = .ok passed ↔
      ∃ actual, key.lookup c = .ok actual ∧ ∃ expected, value.eval c = .ok expected ∧
        equalsIgnoreCase actual expected = passed := by
  rw [Test.eval]
  cases key.lookup c <;> cases value.eval c <;>
    simp [bind, Except.bind, pure, Except.pure]

/-- Comparing without regard to case is reflexive and symmetric, and it is transitive but for the
two thetas. So two values that pass a test against a third one pass it against each other, whatever
gives the second of them, but for the same. -/
theorem equalsIgnoreCase_equivalence_but_thetas :
    (∀ a, equalsIgnoreCase a a = true) ∧
    (∀ a b, equalsIgnoreCase a b = true → equalsIgnoreCase b a = true) ∧
    (∀ a b c, equalsIgnoreCase a b = true → equalsIgnoreCase b c = true →
      (equalsIgnoreCase a c = true ↔ ¬ ThetasMeet a c)) ∧
    ∀ (c : Chain) (key key' value : Expression),
      (Test.equals key value false).eval c = .ok true →
      (Test.equals key' value false).eval c = .ok true →
      ∃ actual actual', key.lookup c = .ok actual ∧ key'.lookup c = .ok actual' ∧
        ∀ other : Expression, other.eval c = .ok actual' →
          (Test.equals key other false).eval c = .ok (! decide (ThetasMeet actual actual')) := by
  refine ⟨fun a => sameLetters_self _, fun a b => sameLetters_symm,
    fun a b c => equalsIgnoreCase_trans_iff, fun c key key' value h h' => ?_⟩
  obtain ⟨actual, hactual, third, hthird, hpass⟩ := eval_equals_eq_ok_iff.1 h
  obtain ⟨actual', hactual', third', hthird', hpass'⟩ := eval_equals_eq_ok_iff.1 h'
  obtain rfl : third = third' := Except.ok.inj (hthird.symm.trans hthird')
  refine ⟨actual, actual', hactual, hactual', fun other hother => ?_⟩
  refine eval_equals_eq_ok_iff.2 ⟨actual, hactual, actual', hother, ?_⟩
  rw [Bool.eq_iff_iff, equalsIgnoreCase_trans_iff hpass (sameLetters_symm hpass')]
  simp

/-- The Kelvin sign is lowered to `k`, and `k` is raised to `K`. -/
theorem equalsIgnoreCase_equivalence_but_thetas_sample :
    let c : Chain := ⟨.ofPairs [("sign", "\u212a"), ("letter", "K")], []⟩
    (Test.equals (.literal "sign") (.literal "k") false).eval c = .ok true ∧
    (Test.equals (.literal "letter") (.literal "k") false).eval c = .ok true ∧
    (Test.equals (.literal "sign") (.literal "K") false).eval c = .ok true ∧
    equalsIgnoreCase "\u212a" "K" = true := by
  intro c
  have hsign : (Test.equals (.literal "sign") (.literal "k") false).eval c = .ok true := by
    decide +kernel
  have hletter : (Test.equals (.literal "letter") (.literal "k") false).eval c = .ok true := by
    decide +kernel
  obtain ⟨-, -, htrans, htests⟩ := equalsIgnoreCase_equivalence_but_thetas
  obtain ⟨actual, actual', hactual, hactual', hpass⟩ := htests c _ _ _ hsign hletter
  obtain rfl : "\u212a" = actual := Except.ok.inj hactual
  obtain rfl : "K" = actual' := Except.ok.inj hactual'
  refine ⟨hsign, hletter, (hpass (.literal "K") rfl).trans (by decide +kernel), ?_⟩
  exact (htrans "\u212a" "k" "K" (by decide +kernel) (by decide +kernel)).2 (by decide +kernel)

/-- The comparison cannot be chained over `θ`. -/
theorem not_equalsIgnoreCase_thetas :
    equalsIgnoreCase "\u03f4" "θ" = true ∧ equalsIgnoreCase "θ" "\u03d1" = true ∧
      equalsIgnoreCase "\u03f4" "\u03d1" = false := by
  decide +kernel

end PropertyDocs
