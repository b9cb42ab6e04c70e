import Mathlib.Data.List.Forall2
import PropertyDocs.Proofs.LineFeeds
import PropertyDocs.Proofs.PlainRows

/-!
# Matching plain rows

The expression of a plain row tries every text that a field stands for before it gives up, so that
it matches whenever the fields do one by one: a matcher that captures nothing is told by the texts
it passes over, whatever follows. Between two fields there is one line feed only that can be passed,
since no field of either side holds one.
-/
namespace PropertyDocs

/-! ## Matchers of texts -/

/-- The cursor after a text, with `rest` left. -/
def Cursor.after (taken rest : List Char) (c : Cursor) : Cursor :=
  ⟨taken.reverse ++ c.before, rest, c.captures⟩

theorem Cursor.after_after (a b rest rest' : List Char) (c : Cursor) :
    (c.after a rest).after b rest' = c.after (a ++ b) rest' := by
  simp [after]

namespace Matcher
variable {L M : List Char → Prop} {m m' : Matcher}

/-- The matcher passes the texts of `L`, captures nothing, and tries all of them in some order. -/
def Takes (L : List Char → Prop) (m : Matcher) : Prop :=
  ∀ k c, (m k c).isSome ↔
    ∃ taken rest, c.rest = taken ++ rest ∧ L taken ∧ (k (c.after taken rest)).isSome

namespace Takes

theorem congr (h : m.Takes L) (hL : ∀ t, L t ↔ M t) : m.Takes M := by
  simpa only [Takes, hL] using h

theorem empty : Takes (· = []) fun k c => k c := by
  intro k c
  constructor
  · intro h
    exact ⟨[], c.rest, rfl, rfl, h⟩
  · rintro ⟨_, rest, hrest, rfl, h⟩
    obtain rfl : c.rest = rest := hrest
    exact h

theorem step (p : Char → Bool) : Takes (fun t => ∃ x, t = [x] ∧ p x) fun k c => c.step p k := by
  rintro k ⟨before, rest, captures⟩
  constructor
  · intro h
    cases rest with
    | nil => simp [Cursor.step] at h
    | cons x rest =>
      by_cases hx : p x
      · simp only [Cursor.step, hx, if_true] at h
        exact ⟨[x], rest, rfl, ⟨x, rfl, hx⟩, h⟩
      · simp [Cursor.step, hx] at h
  · rintro ⟨_, rest, rfl, ⟨x, rfl, hx⟩, h⟩
    simpa [Cursor.step, hx, Cursor.after] using h

theorem seq (h : m.Takes L) (h' : m'.Takes M) :
    Takes (fun t => ∃ a b, t = a ++ b ∧ L a ∧ M b) fun k => m (m' k) := by
  intro k c
  rw [h]
  constructor
  · rintro ⟨a, rest, hrest, ha, hk⟩
    obtain ⟨b, rest', rfl, hb, hk⟩ := (h' _ _).1 hk
    rw [Cursor.after_after] at hk
    exact ⟨a ++ b, rest', by simp [hrest], ⟨a, b, rfl, ha, hb⟩, hk⟩
  · rintro ⟨_, rest, hrest, ⟨a, b, rfl, ha, hb⟩, hk⟩
    refine ⟨a, b ++ rest, by simp [hrest], ha, (h' _ _).2 ⟨b, rest, rfl, hb, ?_⟩⟩
    rwa [Cursor.after_after]

/-- A round of a greedy repetition, or none. -/
theorem isSome_greedily {fuel : Nat} {most last : Option Nat} {k : Cursor → Option Cursor}
    {c : Cursor} (hbegin : mayBegin most last c = true) :
    (m.greedily (fuel + 1) most last k c).isSome ↔
      (m (m.greedily fuel (fewer most) (some c.rest.length) k) c).isSome ∨ (k c).isSome := by
  rw [Matcher.greedily, if_pos hbegin]
  cases m (m.greedily fuel (fewer most) (some c.rest.length) k) c <;> simp

/-- A greedy repetition of a step tries every number of characters. -/
theorem greedily_step (p : Char → Bool) : ∀ (fuel : Nat) (last : Option Nat)
    (k : Cursor → Option Cursor) (c : Cursor), c.rest.length < fuel →
    last ≠ some c.rest.length →
    ((greedily (fun k c => c.step p k) fuel none last k c).isSome ↔
      ∃ taken rest, c.rest = taken ++ rest ∧ (∀ x ∈ taken, p x = true) ∧
        (k (c.after taken rest)).isSome)
  | 0, _, _, c, hfuel, _ => by omega
  | fuel + 1, last, k, c, hfuel, hlast => by
    have hbegin : mayBegin none last c = true := by simpa [mayBegin] using hlast
    have ih (x : Char) (rest : List Char) (hrest : c.rest = [x] ++ rest) :=
      greedily_step p fuel (some c.rest.length) k (c.after [x] rest)
        (by simp [hrest] at hfuel; exact hfuel) (by simp [hrest, Cursor.after])
    rw [isSome_greedily hbegin, (step p) _ c]
    constructor
    · rintro (⟨_, rest, hrest, ⟨x, rfl, hx⟩, h⟩ | h)
      · obtain ⟨taken, rest', rfl, htaken, h⟩ := (ih x rest hrest).1 h
        rw [Cursor.after_after] at h
        exact ⟨x :: taken, rest', hrest, by simpa [hx] using htaken, h⟩
      · exact ⟨[], c.rest, rfl, by simp, h⟩
    · rintro ⟨taken, rest, hrest, htaken, h⟩
      cases taken with
      | nil =>
        obtain rfl : c.rest = rest := hrest
        exact .inr h
      | cons x taken =>
        refine .inl ⟨[x], taken ++ rest, hrest, ⟨x, rfl, htaken x (by simp)⟩,
          (ih x _ hrest).2 ⟨taken, rest, rfl, fun y hy => htaken y (by simp [hy]), ?_⟩⟩
        rwa [Cursor.after_after]

/-- A greedy repetition of a step takes all texts of such characters. -/
theorem star (p : Char → Bool) : Takes (fun t => ∀ x ∈ t, p x = true)
    (rounds (fun k c => c.step p k) 0 none .greedy) := fun k c =>
  greedily_step p (c.rest.length + 1) none k c (by omega) (by simp)

end Takes

end Matcher

/-! ## Fields -/

/-- Texts that `folding` does not tell apart. -/
abbrev Folding.Equates (folding : Folding) : List Char → List Char → Prop :=
  List.Forall₂ fun x y => x.toNat ∈ folding.mates y

theorem Folding.Equates.lineFeed_not_mem {folding : Folding} {field value : List Char}
    (h : folding.Equates field value) (hfield : '\n' ∉ field) : '\n' ∉ value := by
  induction h with
  | nil => simp
  | @cons x y field value hxy _ ih =>
    have hy : y ≠ '\n' := by
      rintro rfl
      rw [Folding.mates_lineFeed, List.mem_singleton] at hxy
      obtain rfl : x = '\n' := Char.toNat_inj.1 hxy
      simp at hfield
    simp only [List.mem_cons, not_or] at hfield ⊢
    exact ⟨hy.symm, ih hfield.2⟩

/-- Whether a plain field of a row matches a field of a selector: a lone star matches all, any other
field what it says. -/
def Pattern.FieldMatches (folding : Folding) (field value : List Char) : Prop :=
  field = ['*'] ∨ folding.Equates field value

namespace PatternReader

open Pattern (FieldMatches)

theorem takes_char (folding : Folding) (c : Char) :
    Matcher.Takes (folding.Equates [c]) (Regex.run (.char c.toNat folding)) :=
  (Matcher.Takes.step _).congr fun t => by
    simp [List.forall₂_cons_left_iff, and_comm]

theorem takes_literals (folding : Folding) : ∀ (field : List Char),
    Matcher.Takes (folding.Equates field)
      (Regex.sequence (field.map fun c => .char c.toNat folding)).run
  | [] => Matcher.Takes.empty.congr fun t => by simp
  | [c] => takes_char folding c
  | c :: d :: field =>
    ((takes_char folding c).seq (takes_literals folding (d :: field))).congr fun t => by
      constructor
      · rintro ⟨a, b, rfl, ha, hb⟩
        exact List.rel_append ha hb
      · intro h
        obtain ⟨y, t, hy, ht, rfl⟩ := List.forall₂_cons_left_iff.1 h
        exact ⟨[y], t, rfl, .cons hy .nil, ht⟩

theorem takes_star : Matcher.Takes (fun t => '\n' ∉ t)
    (Regex.run (.repeated 0 none .greedy (.anyChar false))) :=
  (Matcher.Takes.star fun x => false || x != '\n').congr fun t => by
    simp [List.forall_mem_ne']

/-- What a plain field is read as takes the values without line feeds that the field matches. -/
theorem takes_field {folding : Folding} {field : List Char} (hplain : isPlain field = true) :
    Matcher.Takes (fun t => FieldMatches folding field t ∧ '\n' ∉ t)
      (fieldRegex folding field).run := by
  rcases isPlain_cases hplain with rfl | ⟨hstar, hchars⟩
  · exact takes_star.congr fun t => by simp [FieldMatches]
  · rw [fieldRegex, if_neg hstar]
    refine (takes_literals folding field).congr fun t => ?_
    simp only [FieldMatches, hstar, false_or, iff_self_and]
    exact fun h => h.lineFeed_not_mem fun hmem => (hchars _ hmem).2 rfl

/-! ## Rows -/

/-- The end of a whole match. -/
def atEnd (c : Cursor) : Option Cursor := if c.rest.isEmpty then some c else none

theorem isSome_atEnd {c : Cursor} : (atEnd c).isSome ↔ c.rest = [] := by
  simp [atEnd]

/-- A line feed between two fields is passed over if it is next. -/
theorem isSome_run_lineFeed {folding : Folding} {k : Cursor → Option Cursor} {c : Cursor} :
    (Regex.run (.char '\n'.toNat folding) k c).isSome ↔
      ∃ rest, c.rest = '\n' :: rest ∧ (k (c.after ['\n'] rest)).isSome := by
  rw [takes_char folding '\n']
  constructor
  · rintro ⟨taken, rest, hrest, htaken, h⟩
    obtain ⟨y, t, hy, ht, rfl⟩ := List.forall₂_cons_left_iff.1 htaken
    obtain rfl := List.forall₂_nil_left_iff.1 ht
    obtain rfl : y = '\n' := Folding.lineFeed_mem_mates hy
    exact ⟨rest, hrest, h⟩
  · rintro ⟨rest, hrest, h⟩
    exact ⟨['\n'], rest, hrest, .cons (by simp [Folding.mates_lineFeed]) .nil, h⟩

/-- The group of a plain field passes a value that the field matches. -/
theorem isSome_run_group {folding : Folding} {field : List Char} {i : Nat}
    {k : Cursor → Option Cursor} {c : Cursor} (hplain : isPlain field = true) :
    (Regex.run (.group i (fieldRegex folding field)) k c).isSome ↔
      ∃ taken rest, c.rest = taken ++ rest ∧ (FieldMatches folding field taken ∧ '\n' ∉ taken) ∧
        (k (c.capture i (c.after taken rest))).isSome :=
  takes_field hplain (fun c' => k (c.capture i c')) c

theorem sequence_rowRegexes (folding : Folding) (i : Nat) (f g : List Char)
    (fields : List (List Char)) :
    Regex.sequence (rowRegexes folding i (f :: g :: fields)) =
      .seq (.group (i + 1) (fieldRegex folding f)) (.seq (.char '\n'.toNat folding)
        (Regex.sequence (rowRegexes folding (i + 1) (g :: fields)))) := by
  cases fields <;> rfl

/-- The groups of plain fields match joined values field by field. -/
theorem isSome_run_row {folding : Folding} : ∀ {fields values : List (List Char)} {i : Nat}
    {c : Cursor}, (∀ f ∈ fields, isPlain f = true) → fields ≠ [] →
    (∀ v ∈ values, '\n' ∉ v) → values ≠ [] → c.rest = Text.joined ['\n'] values →
    (((Regex.sequence (rowRegexes folding i fields)).run atEnd c).isSome ↔
      List.Forall₂ (FieldMatches folding) fields values)
  | [], _, _, _, _, h, _, _, _ => absurd rfl h
  | [f], values, i, c, hfields, _, hvalues, hne, hrest => by
    refine (isSome_run_group (hfields f (by simp))).trans ?_
    simp only [isSome_atEnd]
    constructor
    · rintro ⟨taken, rest, hsplit, ⟨hmatch, htaken⟩, hend⟩
      obtain rfl : rest = [] := hend
      obtain ⟨v, values, rfl⟩ := List.exists_cons_of_ne_nil hne
      cases values with
      | nil =>
        obtain rfl : v = taken := by simpa [Text.joined, hsplit] using hrest.symm
        exact .cons hmatch .nil
      | cons w values =>
        rw [hsplit, List.append_nil] at hrest
        simp [hrest, Text.joined_cons_cons] at htaken
    · intro h
      obtain ⟨v, values, hmatch, hnil, rfl⟩ := List.forall₂_cons_left_iff.1 h
      obtain rfl := List.forall₂_nil_left_iff.1 hnil
      exact ⟨v, [], by simp [hrest, Text.joined], ⟨hmatch, hvalues v (by simp)⟩, rfl⟩
  | f :: g :: fields, values, i, c, hfields, _, hvalues, hne, hrest => by
    rw [sequence_rowRegexes]
    have hothers : ∀ h ∈ g :: fields, isPlain h = true := fun f hf =>
      hfields f (by simp [hf])
    refine (isSome_run_group (hfields f (by simp))).trans ?_
    constructor
    · rintro ⟨taken, rest, hsplit, ⟨hmatch, htaken⟩, hrun⟩
      -- what the field takes has no line feed, so it ends where the first value ends
      obtain ⟨rest, rfl, hrun⟩ := isSome_run_lineFeed.1 hrun
      obtain ⟨v, values, rfl, rfl⟩ :=
        Text.joined_eq_append hvalues htaken (hrest.symm.trans hsplit)
      exact .cons hmatch ((isSome_run_row hothers (by simp)
        (fun w hw => hvalues w (by simp [hw])) (by simp) rfl).1 hrun)
    · intro h
      obtain ⟨v, values, hmatch, hmore, rfl⟩ := List.forall₂_cons_left_iff.1 h
      obtain ⟨w, values, -, -, rfl⟩ := List.forall₂_cons_left_iff.1 hmore
      refine ⟨v, '\n' :: Text.joined ['\n'] (w :: values), by simp [hrest, Text.joined_cons_cons],
        ⟨hmatch, hvalues v (by simp)⟩, isSome_run_lineFeed.2 ⟨_, rfl, ?_⟩⟩
      exact (isSome_run_row hothers (by simp) (fun w hw => hvalues w (by simp [hw])) (by simp)
        rfl).2 hmore

end PatternReader

end PropertyDocs
