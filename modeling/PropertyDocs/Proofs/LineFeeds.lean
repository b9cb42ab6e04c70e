import PropertyDocs.Proofs.CaseTables
import PropertyDocs.Proofs.Matching

/-!
# Line feeds in matches

How many line feeds a match takes up, where the expression alone decides it. A matcher hands every
place that it comes to over to its continuation, so what it gives is given at one of those places;
what lies between where it began and that place is counted by induction over the expression.
-/
namespace PropertyDocs

/-! ## Line feeds have no letter case -/

namespace Text

/-- Where all runs lie above a number, and so do their images, only the number itself maps to it. -/
theorem shifted_eq_iff {m n : Nat} : ∀ {runs : List ShiftRun},
    (∀ r ∈ runs, m < r.first ∧ (m : Int) < r.first + r.shift) → (shifted runs n = m ↔ n = m)
  | [], _ => Iff.rfl
  | r :: runs, h => by
    obtain ⟨hfirst, himage⟩ := h r (by simp)
    rw [shifted]
    split
    · rfl
    · split
      · constructor <;> intro heq <;> omega
      · exact shifted_eq_iff fun r hr => h r (by simp [hr])

theorem lineFeed_lt_lowerRuns :
    ∀ r ∈ lowerRuns, 10 < r.first ∧ ((10 : Nat) : Int) < r.first + r.shift := by
  decide +kernel

theorem toNat_lowerChar_eq_iff {c : Char} : (lowerChar c).toNat = 10 ↔ c = '\n' := by
  have hfeed {d : Char} : d.toNat = 10 ↔ d = '\n' := @Char.toNat_inj d '\n'
  have hnumber : Char.ofNat (shifted lowerRuns c.toNat) = '\n' ↔ shifted lowerRuns c.toNat = 10 :=
    ofNat_eq_iff (by decide)
  rw [lowerChar, hfeed, hnumber, shifted_eq_iff lineFeed_lt_lowerRuns, hfeed]

theorem toLower_eq_lineFeed_iff {c : Char} : c.toLower = '\n' ↔ c = '\n' := by
  by_cases hupper : c.val ≥ 'A'.val ∧ c.val ≤ 'Z'.val
  · have hval : c.toLower.val = c.val + ('a'.val - 'A'.val) := congrArg Char.val (dif_pos hupper)
    simp only [UInt32.le_iff_toNat_le, ge_iff_le] at hupper
    constructor <;> rintro h
    · have hlow := congrArg UInt32.toNat (hval.symm.trans (congrArg Char.val h))
      simp at hlow hupper
      omega
    · simp [h] at hupper
  · have hsame : c.toLower = c := dif_neg hupper
    rw [hsame]

theorem toUpper_eq_lineFeed {c : Char} (h : c.toUpper = '\n') : c = '\n' := by
  by_cases hlower : 'a'.val ≤ c.val ∧ c.val ≤ 'z'.val
  · have hupper : c.toUpper = ⟨c.val + ('A'.val - 'a'.val), _⟩ := dif_pos hlower
    have hup := congrArg UInt32.toNat (congrArg Char.val (hupper.symm.trans h))
    simp only [UInt32.le_iff_toNat_le] at hlower
    simp at hup hlower
    omega
  · have hsame : c.toUpper = c := dif_neg hlower
    exact hsame.symm.trans h

theorem lineFeed_mem_loweredTo {n : Nat} (h : 10 ∈ loweredTo n) : n = 10 := by
  rw [loweredTo, List.mem_append] at h
  rcases h with h | h
  · split at h <;> simp_all
  · obtain ⟨r, hr, h⟩ := List.mem_filterMap.1 h
    have hfirst := (lineFeed_lt_lowerRuns r hr).1
    simp only [ShiftRun.preimage?] at h
    split at h
    · next hrun =>
      simp only [Bool.and_eq_true, decide_eq_true_eq, Option.some.injEq] at hrun h
      omega
    · cases h

theorem lineFeed_mem_caseMates {c : Char} (h : 10 ∈ caseMates c) : c = '\n' := by
  have hshared : ∀ shared ∈ sharedUpper, 10 ∉ shared := by decide
  simp only [caseMates] at h
  split at h
  · next shared hfind =>
    obtain ⟨n, hn, h⟩ := List.mem_flatMap.1 h
    exact absurd (lineFeed_mem_loweredTo h ▸ hn) (hshared _ (List.mem_of_find?_eq_some hfind))
  · exact toNat_lowerChar_eq_iff.1 (lineFeed_mem_loweredTo h)

end Text

namespace Folding

theorem mates_lineFeed (f : Folding) : f.mates '\n' = [10] := by
  cases f <;> decide +kernel

theorem lineFeed_mem_mates {f : Folding} {c : Char} (h : 10 ∈ f.mates c) : c = '\n' := by
  cases f with
  | exact => exact (Char.toNat_inj.1 (by simpa [mates] using h)).symm
  | ascii =>
    simp only [mates] at h
    split at h
    · simp only [List.mem_cons, List.not_mem_nil, or_false] at h
      rcases h with h | h
      · exact Text.toLower_eq_lineFeed_iff.1 (Char.toNat_inj.1 h.symm)
      · exact Text.toUpper_eq_lineFeed (Char.toNat_inj.1 h.symm)
    · exact (Char.toNat_inj.1 (by simpa using h)).symm
  | unicode => exact Text.lineFeed_mem_caseMates h

theorem lowered_eq_lineFeed_iff {f : Folding} {c : Char} : f.lowered c = '\n' ↔ c = '\n' := by
  cases f with
  | exact => rfl
  | ascii => exact Text.toLower_eq_lineFeed_iff
  | unicode => exact Char.toNat_inj.symm.trans Text.toNat_lowerChar_eq_iff

end Folding

/-! ## Counting in an expression -/

namespace Regex

/-- The line feeds of a repetition whose rounds take up `n` each. -/
def repeatedLineFeeds (least : Nat) (most : Option Nat) (n : Nat) : Option Nat :=
  if n = 0 then some 0 else if most = some least then some (least * n) else none

/-- The number of line feeds that every match takes up, where the expression alone decides it;
`groups` tells the number of a group that is referred to. -/
def lineFeeds? (groups : Nat → Option Nat) : Regex → Option Nat
  | .empty | .anchor _ | .lookahead _ _ | .lookbehind _ _ _ => some 0
  | .char code _ => some (if code = 10 then 1 else 0)
  | .anyChar newline => if newline then none else some 0
  | .set negated items folding ascii =>
    if setHolds negated items folding ascii '\n' then none else some 0
  | .seq a b => do return (← a.lineFeeds? groups) + (← b.lineFeeds? groups)
  | .alt a b | .conditional _ a b =>
    if a.lineFeeds? groups = b.lineFeeds? groups then a.lineFeeds? groups else none
  | .group _ r | .atomic r => r.lineFeeds? groups
  | .repeated least most _ r => (r.lineFeeds? groups).bind (repeatedLineFeeds least most)
  | .reference i _ => groups i

/-- Every group takes up the number of line feeds that `groups` tells of it. -/
def agrees (groups : Nat → Option Nat) : Regex → Bool
  | .seq a b | .alt a b | .conditional _ a b => a.agrees groups && b.agrees groups
  | .group i r => (groups i == none || r.lineFeeds? groups == groups i) && r.agrees groups
  | .repeated _ _ _ r | .atomic r | .lookahead _ r | .lookbehind _ _ r => r.agrees groups
  | _ => true

end Regex

/-! ## Counting in a match -/

namespace Cursor
variable {groups : Nat → Option Nat} {c c' c'' : Cursor}

/-- What is captured holds as many line feeds as `groups` tells. -/
def Counted (groups : Nat → Option Nat) (c : Cursor) : Prop :=
  ∀ i text, (i, text) ∈ c.captures → ∀ n ∈ groups i, text.count '\n' = n

/-- A match takes up what lies between two places. From captures that hold what `groups` tells,
this has `n` line feeds if that is known, and the captures hold what `groups` tells again. -/
structure Passes (groups : Nat → Option Nat) (n : Option Nat) (c c' : Cursor) : Prop where
  between : ∃ taken, c.rest = taken ++ c'.rest ∧
    (c.Counted groups → ∀ m ∈ n, taken.count '\n' = m)
  counted : c.Counted groups → c'.Counted groups

namespace Passes

theorem of_rest_eq (hrest : c'.rest = c.rest) (hcounted : c.Counted groups → c'.Counted groups) :
    Passes groups (some 0) c c' where
  between := ⟨[], by simp [hrest], by simp⟩
  counted := hcounted

theorem refl (c : Cursor) : Passes groups (some 0) c c := of_rest_eq rfl id

theorem add {m n : Nat} (h : Passes groups (some m) c c') (h' : Passes groups (some n) c' c'') :
    Passes groups (some (m + n)) c c'' := by
  obtain ⟨a, ha, hm⟩ := h.between
  obtain ⟨b, hb, hn⟩ := h'.between
  refine ⟨⟨a ++ b, by simp [ha, hb], fun hc => ?_⟩, h'.counted ∘ h.counted⟩
  simp [hm hc m rfl, hn (h.counted hc) n rfl]

theorem unknown {n : Option Nat} (h : Passes groups n c c') : Passes groups none c c' :=
  have ⟨taken, htaken, _⟩ := h.between
  ⟨⟨taken, htaken, by simp⟩, h.counted⟩

theorem trans (h : Passes groups none c c') (h' : Passes groups none c' c'') :
    Passes groups none c c'' := by
  obtain ⟨a, ha, -⟩ := h.between
  obtain ⟨b, hb, -⟩ := h'.between
  exact ⟨⟨a ++ b, by simp [ha, hb], by simp⟩, h'.counted ∘ h.counted⟩

/-- One place after another. -/
theorem seq {m n : Option Nat} (h : Passes groups m c c') (h' : Passes groups n c' c'') :
    Passes groups (do return (← m) + (← n)) c c'' := by
  cases m with
  | none => exact h.trans h'.unknown
  | some m =>
    cases n with
    | none => exact h.unknown.trans h'
    | some n => exact h.add h'

theorem left {m n : Option Nat} (h : Passes groups m c c') :
    Passes groups (if m = n then m else none) c c' := by
  split
  · exact h
  · exact h.unknown

theorem right {m n : Option Nat} (h : Passes groups n c c') :
    Passes groups (if m = n then m else none) c c' := by
  split
  · next heq => exact heq ▸ h
  · exact h.unknown

theorem rounds {m n : Nat} (h : Matcher.Rounds (Passes groups (some m)) n c c') :
    Passes groups (some (n * m)) c c' := by
  induction h with
  | none c => simpa using refl c
  | next hround _ ih => simpa [Nat.add_mul, Nat.add_comm] using hround.add ih

theorem rounds_unknown {n : Nat} (h : Matcher.Rounds (Passes groups none) n c c') :
    Passes groups none c c' := by
  induction h with
  | none c => exact (refl c).unknown
  | next hround _ ih => exact hround.trans ih

end Passes

theorem counted_of_captures_eq (h : c'.captures = c.captures) (hc : c.Counted groups) :
    c'.Counted groups := by
  rwa [Counted, h]

theorem captures_of_back {n : Nat} (h : c.back n = some c') : c'.captures = c.captures := by
  induction n generalizing c with
  | zero =>
    obtain rfl : c = c' := by simpa [back] using h
    rfl
  | succ n ih =>
    rw [back] at h
    split at h
    · cases h
    · exact (ih h :)

/-- Following a text takes up as many line feeds as it has. -/
theorem passes_of_follow {f : Folding} : ∀ {text : List Char} {c c' : Cursor},
    c.follow f text = some c' → Passes groups (some (text.count '\n')) c c'
  | [], c, c', h => by
    obtain rfl : c = c' := by simpa [follow] using h
    exact .refl c
  | x :: xs, ⟨before, [], captures⟩, c', h => by simp [follow] at h
  | x :: xs, ⟨before, y :: rest, captures⟩, c', h => by
    simp only [follow] at h
    split at h
    · next heq =>
      -- no other character is folded to a line feed
      have hsame : x = '\n' ↔ y = '\n' := by
        rw [← Folding.lowered_eq_lineFeed_iff, beq_iff_eq.1 heq, Folding.lowered_eq_lineFeed_iff]
      have hstep : Passes groups (some ([x].count '\n')) ⟨before, y :: rest, captures⟩
          ⟨y :: before, rest, captures⟩ :=
        ⟨⟨[y], rfl, by simp [List.count_singleton, hsame]⟩, id⟩
      have hcount : ([x] ++ xs).count '\n' = [x].count '\n' + xs.count '\n' :=
        List.count_append
      exact hcount ▸ hstep.add (passes_of_follow h)
    · cases h

theorem since_eq {taken : List Char} (h : c.rest = taken ++ c'.rest) : c.since c' = taken := by
  simp [since, h]

/-- The text of a group is what its body took up. -/
theorem Passes.capture {n : Option Nat} {i : Nat} (h : Passes groups n c c')
    (hgroup : groups i = none ∨ n = groups i) : Passes groups n c (c.capture i c') := by
  obtain ⟨taken, htaken, hn⟩ := h.between
  refine ⟨⟨taken, htaken, hn⟩, fun hc j text hmem m hm => ?_⟩
  rcases List.mem_cons.1 hmem with heq | hmem
  · cases heq
    rw [since_eq htaken]
    rcases hgroup with hgroup | rfl
    · simp [hgroup] at hm
    · exact hn hc m hm
  · exact h.counted hc j text hmem m hm

/-- Following what a group captured takes up what `groups` tells of the group. -/
theorem Passes.of_captured {i : Nat} {text : List Char}
    (h : Passes groups (some (text.count '\n')) c c') (htext : c.captured? i = some text) :
    Passes groups (groups i) c c' := by
  obtain ⟨taken, htaken, hn⟩ := h.between
  refine ⟨⟨taken, htaken, fun hc m hm => ?_⟩, h.counted⟩
  rw [hn hc _ rfl]
  obtain ⟨above, below, hcaptures, -⟩ := List.lookup_eq_some_iff.1 htext
  exact hc i text (by simp [hcaptures]) m hm

end Cursor

/-! ## Counting in a run -/

namespace Regex
variable {groups : Nat → Option Nat}

open Cursor (Passes)

theorem leads_step {p : Char → Bool} {n : Option Nat}
    (h : ∀ x, p x = true → ∀ m ∈ n, [x].count '\n' = m) :
    Matcher.Leads (Passes groups n) fun k c => c.step p k := by
  rintro k ⟨before, rest, captures⟩ r hm
  cases rest with
  | nil => simp [Cursor.step] at hm
  | cons x rest =>
    simp only [Cursor.step] at hm
    split at hm
    · next hx => exact ⟨⟨x :: before, rest, captures⟩, ⟨⟨[x], rfl, fun _ => h x hx⟩, id⟩, hm⟩
    · cases hm

theorem passes_repeated {least n : Nat} {most : Option Nat} {m : Option Nat} {c c' : Cursor}
    (hleast : least ≤ n) (hmost : ∀ bound ∈ most, n ≤ max least bound)
    (h : Matcher.Rounds (Passes groups m) n c c') :
    Passes groups (m.bind (repeatedLineFeeds least most)) c c' := by
  cases m with
  | none => exact Passes.rounds_unknown h
  | some m =>
    simp only [Option.bind_some, repeatedLineFeeds]
    split
    · next hm => simpa [hm] using Passes.rounds h
    · split
      · next hbound =>
        obtain rfl : n = least := by
          have := hmost least hbound
          omega
        exact Passes.rounds h
      · exact (Passes.rounds h).unknown

/-- A look around a place keeps the place. -/
theorem passes_look {n : Option Nat} {b c c' : Cursor} (hcaptures : b.captures = c.captures)
    (h : Passes groups n b c') : Passes groups (some 0) c { c with captures := c'.captures } :=
  .of_rest_eq rfl fun hc => h.counted (Cursor.counted_of_captures_eq hcaptures hc)

/-- After a look around, whether it is to find something or nothing, the place is the same. -/
theorem exists_passes_look {negated : Bool} {found : Option Cursor}
    {k : Cursor → Option Cursor} {c r : Cursor}
    (hm : (match found with
      | some c' => if negated then none else k { c with captures := c'.captures }
      | none => if negated then k c else none) = some r)
    (h : ∀ c', found = some c' → Passes groups (some 0) c { c with captures := c'.captures }) :
    ∃ c', Passes groups (some 0) c c' ∧ k c' = some r := by
  cases found with
  | some c' =>
    cases negated with
    | true => simp at hm
    | false => exact ⟨_, h c' rfl, by simpa using hm⟩
  | none =>
    cases negated with
    | true => exact ⟨c, .refl c, by simpa using hm⟩
    | false => simp at hm

/-- Whatever a match of an expression ends at, it took up the line feeds that are known of it. By
induction over the expression; what is counted of a reference comes from the captures, and what is
counted of a look around comes to nothing, although its captures stay. -/
theorem leads_run : ∀ (r : Regex), r.agrees groups = true →
    Matcher.Leads (Passes groups (r.lineFeeds? groups)) r.run
  | .empty, _, k, c, r, hm => ⟨c, .refl c, hm⟩
  | .char code f, _, k, c, r, hm => by
    refine leads_step (fun x hx n hn => ?_) hm
    obtain rfl : _ = n := by simpa [lineFeeds?] using hn
    have hx : code ∈ f.mates x := by simpa using hx
    split
    · next hcode =>
      subst hcode
      simp [Folding.lineFeed_mem_mates hx]
    · next hcode =>
      have hne : x ≠ '\n' := by
        rintro rfl
        exact hcode (by simpa [Folding.mates_lineFeed] using hx)
      simp [hne]
  | .anyChar newline, _, k, c, r, hm => by
    refine leads_step (fun x hx n hn => ?_) hm
    cases newline with
    | true => simp [lineFeeds?] at hn
    | false =>
      obtain rfl : _ = n := by simpa [lineFeeds?] using hn
      have hne : x ≠ '\n' := by simpa using hx
      simp [hne]
  | .set negated items f ascii, _, k, c, r, hm => by
    refine leads_step (fun x hx n hn => ?_) hm
    rw [lineFeeds?] at hn
    split at hn
    · cases hn
    · next hholds =>
      obtain rfl : _ = n := by simpa using hn
      have hne : x ≠ '\n' := by
        rintro rfl
        exact hholds hx
      simp [hne]
  | .anchor place, _, k, c, r, hm => by
    simp only [run] at hm
    split at hm
    · exact ⟨c, .refl c, hm⟩
    · cases hm
  | .seq a b, h, k, c, r, hm => by
    simp only [agrees, Bool.and_eq_true] at h
    obtain ⟨c₁, hfirst, hm⟩ := leads_run a h.1 hm
    obtain ⟨c₂, hsecond, hk⟩ := leads_run b h.2 hm
    exact ⟨c₂, hfirst.seq hsecond, hk⟩
  | .alt a b, h, k, c, r, hm => by
    simp only [agrees, Bool.and_eq_true] at h
    simp only [run] at hm
    split at hm
    · next r' ha =>
      obtain rfl : r' = r := by simpa using hm
      obtain ⟨c', hc', hk⟩ := leads_run a h.1 ha
      exact ⟨c', hc'.left, hk⟩
    · obtain ⟨c', hc', hk⟩ := leads_run b h.2 hm
      exact ⟨c', hc'.right, hk⟩
  | .group i body, h, k, c, r, hm => by
    simp only [agrees, Bool.and_eq_true, Bool.or_eq_true, beq_iff_eq] at h
    obtain ⟨c', hbody, hk⟩ := leads_run body h.2 hm
    exact ⟨_, hbody.capture h.1, hk⟩
  | .repeated least most greed body, h, k, c, r, hm => by
    obtain ⟨c', ⟨n, hleast, hmost, hrounds⟩, hk⟩ :=
      (leads_run body h).rounds least most greed hm
    exact ⟨c', passes_repeated hleast hmost hrounds, hk⟩
  | .atomic body, h, k, c, r, hm => by
    obtain ⟨c', hbody, hk⟩ := Option.bind_eq_some_iff.1 hm
    exact ⟨c', (leads_run body h).settle hbody, hk⟩
  | .lookahead negated body, h, k, c, r, hm =>
    exists_passes_look hm fun c' hbody => passes_look rfl ((leads_run body h).settle hbody)
  | .lookbehind negated width body, h, k, c, r, hm => by
    refine exists_passes_look hm fun c' hbody => ?_
    obtain ⟨b, hback, hbody⟩ := Option.bind_eq_some_iff.1 hbody
    exact passes_look (Cursor.captures_of_back hback) ((leads_run body h).settle hbody)
  | .reference i f, _, k, c, r, hm => by
    obtain ⟨text, htext, hm⟩ := Option.bind_eq_some_iff.1 hm
    obtain ⟨c', hfollow, hk⟩ := Option.bind_eq_some_iff.1 hm
    exact ⟨c', (Cursor.passes_of_follow hfollow).of_captured htext, hk⟩
  | .conditional i yes no, h, k, c, r, hm => by
    simp only [agrees, Bool.and_eq_true] at h
    simp only [run] at hm
    split at hm
    · obtain ⟨c', hc', hk⟩ := leads_run yes h.1 hm
      exact ⟨c', hc'.left, hk⟩
    · obtain ⟨c', hc', hk⟩ := leads_run no h.2 hm
      exact ⟨c', hc'.right, hk⟩

/-- A text that matches as a whole has the line feeds that are known of the expression. -/
theorem count_of_fullMatch? {r : Regex} {n : Nat} {text : List Char} {c : Cursor}
    (hgroups : r.agrees groups = true) (hn : r.lineFeeds? groups = some n)
    (h : r.fullMatch? text = some c) : text.count '\n' = n := by
  obtain ⟨c', hpasses, hend⟩ := leads_run r hgroups h
  obtain ⟨taken, htaken, hcount⟩ := hpasses.between
  split at hend
  · next hrest =>
    have htext : text = taken := by
      simpa [Cursor.start, List.isEmpty_iff.1 hrest] using htaken
    rw [htext]
    exact hcount (by simp [Cursor.Counted, Cursor.start]) n hn
  · cases hend

end Regex

end PropertyDocs
