import PropertyDocs.Proofs.MaskedOutput

/-!
# Markers in keys

Key and marker are lowered each by itself. All characters but one are lowered in the same way
wherever they stand; a capital sigma becomes a final one or not by what is around it. So a marker
that stands in a key as it is written is found in the lowered key if none of its capital sigmas ends
a word in the one and not in the other.
-/
namespace PropertyDocs

namespace Text

/-! ## Lowering in a context -/

/-- Whether a capital sigma between two texts is lowered to a final one; the first of them is given
last character first. -/
def isFinalSigma (before after : List Char) : Bool := meetsCased before && !meetsCased after

/-- What a character between two texts is lowered to. -/
def lowerBetween (before : List Char) (c : Char) (after : List Char) : List Char :=
  if c == 'Σ' then [if isFinalSigma before after then 'ς' else 'σ'] else lowerFull c

/-- What a text between two others is lowered to. -/
def lowerWithin (before : List Char) : List Char → (after : List Char) → List Char
  | [], _ => []
  | c :: cs, after => lowerBetween before c (cs ++ after) ++ lowerWithin (c :: before) cs after

theorem lowerFrom_append (before part after : List Char) :
    lowerFrom before (part ++ after) =
      lowerWithin before part after ++ lowerFrom (part.reverse ++ before) after := by
  induction part generalizing before with
  | nil => rfl
  | cons c part ih =>
    rw [List.cons_append, lowerFrom, ih, lowerWithin, List.append_assoc, List.reverse_cons,
      List.append_assoc]
    rfl

theorem lowerFrom_eq_lowerWithin (before part : List Char) :
    lowerFrom before part = lowerWithin before part [] := by
  have h := lowerFrom_append before part []
  rwa [List.append_nil, lowerFrom, List.append_nil] at h

variable {before before' after after' part : List Char} {c : Char}

theorem length_lowerBetween :
    (lowerBetween before c after).length = (lowerBetween before' c after').length := by
  rw [lowerBetween, lowerBetween]
  split <;> rfl

/-- Only a capital sigma is lowered by what is around it. -/
theorem lowerBetween_eq_iff :
    lowerBetween before c after = lowerBetween before' c after' ↔
      (c = 'Σ' → isFinalSigma before after = isFinalSigma before' after') := by
  rw [lowerBetween, lowerBetween]
  by_cases hc : c = 'Σ'
  · subst hc
    cases isFinalSigma before after <;> cases isFinalSigma before' after' <;> decide
  · simp [hc]

/-- Every capital sigma of a text ends a word between the first two texts just if it does between
the other two. -/
def SameSigmas (before before' part after after' : List Char) : Prop :=
  ∀ first rest, part = first ++ 'Σ' :: rest →
    isFinalSigma (first.reverse ++ before) (rest ++ after) =
      isFinalSigma (first.reverse ++ before') (rest ++ after')

theorem sameSigmas_cons :
    SameSigmas before before' (c :: part) after after' ↔
      (c = 'Σ' → isFinalSigma before (part ++ after) = isFinalSigma before' (part ++ after')) ∧
        SameSigmas (c :: before) (c :: before') part after after' := by
  constructor
  · intro h
    refine ⟨?_, ?_⟩
    · rintro rfl
      exact h [] part rfl
    · rintro first rest rfl
      simpa using h (c :: first) rest rfl
  · rintro ⟨hc, hpart⟩ first rest heq
    cases first with
    | nil =>
      obtain ⟨rfl, rfl⟩ := List.cons.inj heq
      exact hc rfl
    | cons x first =>
      obtain ⟨rfl, rfl⟩ := List.cons.inj heq
      simpa using hpart first rest rfl

/-- A text is lowered alike in two places just if its capital sigmas are. -/
theorem lowerWithin_eq_iff :
    lowerWithin before part after = lowerWithin before' part after' ↔
      SameSigmas before before' part after after' := by
  induction part generalizing before before' with
  | nil => simp [lowerWithin, SameSigmas]
  | cons c part ih =>
    rw [lowerWithin, lowerWithin, sameSigmas_cons, ← ih, ← lowerBetween_eq_iff]
    constructor
    · exact fun h => List.append_inj h length_lowerBetween
    · rintro ⟨hc, hpart⟩
      rw [hc, hpart]

/-- Whether a marker has its capital sigmas lowered between two texts as by itself. -/
def KeepsSigmas (before part after : List Char) : Prop :=
  SameSigmas before.reverse [] part after []

/-- A marker without a capital sigma is lowered alike everywhere. -/
theorem keepsSigmas_of_notMem (h : 'Σ' ∉ part) : KeepsSigmas before part after := by
  rintro first rest rfl
  simp at h

/-- What is lowered between two texts as by itself is found in the lowered whole. -/
theorem lowercase_infix {part whole : String} (hwhole : whole.toList = before ++ part.toList ++ after)
    (h : KeepsSigmas before part.toList after) :
    (lowercase part).toList <:+: (lowercase whole).toList := by
  have hpart : (lowercase part).toList = lowerWithin before.reverse part.toList after := by
    rw [lowercase, String.toList_ofList, lowerFrom_eq_lowerWithin]
    exact (lowerWithin_eq_iff.2 h).symm
  have hlower : (lowercase whole).toList =
      lowerWithin [] before (part.toList ++ after) ++
        (lowerWithin before.reverse part.toList after ++
          lowerFrom (part.toList.reverse ++ before.reverse) after) := by
    rw [lowercase, String.toList_ofList, hwhole, List.append_assoc, lowerFrom_append,
      List.append_nil, lowerFrom_append]
  rw [hpart, hlower, ← List.append_assoc]
  exact List.infix_append _ _ _

end Text

/-! ## Masking -/

namespace Masking
variable {markers : List String} {marker key : String} {before after : List Char}

def stars (n : Nat) : String := String.ofList (List.replicate n '*')

/-- Nothing but asterisks is shown under the key, as many as its value has characters. -/
def Conceals (key : String) (l : Level) (entries : List (String × String)) : Prop :=
  ∀ x, (key, x) ∈ entries → ∃ v, l.get? key = some v ∧ x = stars v.length

theorem hasMarker_of_occurs (hmarker : marker ∈ markers)
    (hkey : key.toList = before ++ marker.toList ++ after)
    (hsigmas : Text.KeepsSigmas before marker.toList after) : HasMarker markers key :=
  ⟨marker, hmarker, Text.lowercase_infix hkey hsigmas⟩

theorem conceals_shownEntries (h : HasMarker markers key) (l : Level) :
    Conceals key l (shownEntries markers l) := by
  intro x hx
  obtain ⟨v, hv, hshown⟩ := mem_shownEntries.1 hx
  exact ⟨v, hv, hshown.symm.trans (shown_of_marker h v)⟩

/-- **A marker in a key masks its value.** Where a marker stands in a key as it is written, and none
of its capital sigmas is final there and not in the marker or the other way round, the value of the
key is shown as asterisks, one for each character: by itself, among the entries of a level, which
are all that is logged of it, and in what the commands tell of levels that they have loaded. -/
theorem marker_in_key_masks (hmarker : marker ∈ markers)
    (hkey : key.toList = before ++ marker.toList ++ after)
    (hsigmas : Text.KeepsSigmas before marker.toList after) :
    (∀ value, shown markers key value = stars value.length) ∧
    (∀ l title, ∃ entries, Conceals key l entries ∧
      report markers title l = title :: entries.map fun e => " " ++ e.1 ++ " = " ++ e.2) ∧
    (∀ (d : Disk) (format : Report.Format) (above : List Level) (files : List Path)
      (loaded : List (Path × Level)), d.loadChain none above files = .ok loaded →
      ∃ told : List (String × List (String × String)),
        List.Forall₂ (fun t f => t.1 = f.1.text ∧ Conceals key f.2 t.2) told loaded ∧
        CommandLine.showFiles d markers format above files =
          .ofReport (Report.several format told)) ∧
    ∀ (d : Disk) (format : Report.Format) (above : List Level) (folder : Path) (name : String),
      let loaded := d.loadTemplates none folder name ⟨.empty, above⟩
      loaded.failure = none →
      ∃ entries, Conceals key loaded.level entries ∧
        CommandLine.resolveFile d markers format above folder name =
          .ofReport (Report.inTurn [Report.single format name entries]) := by
  have hhas : HasMarker markers key := hasMarker_of_occurs hmarker hkey hsigmas
  refine ⟨shown_of_marker hhas, ?_, ?_, ?_⟩
  · intro l title
    exact ⟨_, conceals_shownEntries hhas l, rfl⟩
  · intro d format above files loaded hload
    refine ⟨CommandLine.shownFiles markers loaded, ?_,
      CommandLine.showFiles_of_loadChain hload format⟩
    rw [CommandLine.shownFiles, List.forall₂_map_left_iff, List.forall₂_same]
    exact fun f _ => ⟨rfl, conceals_shownEntries hhas f.2⟩
  · intro d format above folder name loaded hdone
    exact ⟨_, conceals_shownEntries hhas loaded.level,
      CommandLine.resolveFile_of_loaded rfl hdone format⟩

/-- A marker without a sigma, and one whose sigma ends it and the key too. -/
theorem marker_in_key_masks_sample :
    "db.password".toList = "db.".toList ++ "password".toList ++ [] ∧
    shown defaultMarkers "db.password" "x1" = "**" ∧
    "db.ΚΩΔΙΚΟΣ".toList = "db.".toList ++ "ΚΩΔΙΚΟΣ".toList ++ [] ∧
    Text.KeepsSigmas "db.".toList "ΚΩΔΙΚΟΣ".toList [] ∧
    shown ["ΚΩΔΙΚΟΣ"] "db.ΚΩΔΙΚΟΣ" "x1" = "**" := by
  have hplain : "db.password".toList = "db.".toList ++ "password".toList ++ [] := by decide
  have hkey : "db.ΚΩΔΙΚΟΣ".toList = "db.".toList ++ "ΚΩΔΙΚΟΣ".toList ++ [] := by decide
  have hsigmas : Text.KeepsSigmas "db.".toList "ΚΩΔΙΚΟΣ".toList [] :=
    Text.lowerWithin_eq_iff.1 (by decide +kernel)
  refine ⟨hplain, ?_, hkey, hsigmas, ?_⟩
  · have hmarker : "password" ∈ defaultMarkers := List.mem_cons_self
    exact (marker_in_key_masks hmarker hplain (Text.keepsSigmas_of_notMem (by decide))).1 "x1"
  · have hmarker : "ΚΩΔΙΚΟΣ" ∈ ["ΚΩΔΙΚΟΣ"] := List.mem_singleton_self _
    exact (marker_in_key_masks hmarker hkey hsigmas).1 "x1"

/-- In a key that goes on behind it the sigma is no final one any more, and the marker is not
found. -/
theorem marker_with_final_sigma_missed :
    "ΚΩΔΙΚΟΣ".toList <:+: "ΚΩΔΙΚΟΣ.db".toList ∧
    shown ["ΚΩΔΙΚΟΣ"] "ΚΩΔΙΚΟΣ.db" "x1" = "x1" := by
  decide +kernel

end Masking

end PropertyDocs
