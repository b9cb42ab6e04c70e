import Mathlib
import PropertyDocs.Proofs.ChainedLoading
import PropertyDocs.CommandLine.Commands

/-!
# What is shown of secrets

Entries are sorted with their values before any value is masked. The values do not decide the order
all the same, since a level has no key twice. So what is shown of a level tells its keys, the values
of those that hold no marker and the lengths of the other values, and no more.
-/
namespace PropertyDocs

namespace Masking
variable {markers : List String} {key value : String} {l l' : Level}

/-! ## Markers -/

/-- A key holds a marker in any letter case. -/
def HasMarker (markers : List String) (key : String) : Prop :=
  ∃ m ∈ markers, (Text.lowercase m).toList <:+: (Text.lowercase key).toList

theorem occursIn_iff {part text : List Char} : occursIn part text = true ↔ part <:+: text := by
  induction text with
  | nil => simp [occursIn]
  | cons c cs ih => rw [occursIn, Bool.or_eq_true, ih, List.isPrefixOf_iff_prefix,
      List.infix_cons_iff]

theorem isSecret_iff : isSecret markers key = true ↔ HasMarker markers key := by
  simp only [isSecret, HasMarker, List.any_eq_true, occursIn_iff]

instance : Decidable (HasMarker markers key) := decidable_of_iff _ isSecret_iff

theorem shown_of_marker (h : HasMarker markers key) (value : String) :
    shown markers key value = String.ofList (List.replicate value.length '*') := by
  rw [shown, if_pos (isSecret_iff.2 h), List.map_const', String.length_toList]

theorem shown_of_noMarker (h : ¬ HasMarker markers key) (value : String) :
    shown markers key value = value := by
  rw [shown, if_neg (mt isSecret_iff.1 h)]

/-- Under a key with a marker the length is all that counts. -/
theorem shown_eq_iff_of_marker (h : HasMarker markers key) {v v' : String} :
    shown markers key v = shown markers key v' ↔ v.length = v'.length := by
  rw [shown_of_marker h, shown_of_marker h, String.ofList_inj]
  simp

/-! ## The order of entries -/

theorem precedes_iff {a b : String × String} : precedes a b = true ↔ toLex a ≤ toLex b := by
  rw [precedes, Prod.Lex.toLex_le_toLex]
  by_cases h : a.1 = b.1
  · simp [h]
  · simp [h]

theorem pairwise_precedes (l : Level) :
    (l.entries.mergeSort precedes).Pairwise fun a b => toLex a ≤ toLex b := by
  have htrans : ∀ a b c : String × String, precedes a b → precedes b c → precedes a c :=
    fun a b c hab hbc => precedes_iff.2 ((precedes_iff.1 hab).trans (precedes_iff.1 hbc))
  have htotal : ∀ a b : String × String, precedes a b || precedes b a := by
    intro a b
    rw [Bool.or_eq_true, precedes_iff, precedes_iff]
    exact le_total _ _
  exact (List.pairwise_mergeSort htrans htotal l.entries).imp precedes_iff.1

/-- Since no key is there twice, the values do not decide the order. -/
theorem pairwise_sorted (l : Level) :
    (l.entries.mergeSort precedes).Pairwise fun a b => a.1 < b.1 := by
  have hdistinct : (l.entries.mergeSort precedes).Pairwise fun a b => a.1 ≠ b.1 := by
    have hperm := (List.mergeSort_perm l.entries precedes).map (·.1)
    exact List.pairwise_map.1 (hperm.nodup_iff.2 l.distinct)
  refine (pairwise_precedes l).imp₂ (fun a b hle hne => ?_) hdistinct
  rcases Prod.Lex.toLex_le_toLex.1 hle with hlt | ⟨heq, -⟩
  · exact hlt
  · exact absurd heq hne

theorem pairwise_shownEntries (markers : List String) (l : Level) :
    (shownEntries markers l).Pairwise fun a b => a.1 < b.1 :=
  List.pairwise_map.2 (pairwise_sorted l)

theorem keys_shownEntries (markers : List String) (l : Level) :
    ((shownEntries markers l).map (·.1)).Perm l.keys := by
  rw [shownEntries, List.map_map]
  exact (List.mergeSort_perm l.entries precedes).map (·.1)

theorem mem_shownEntries {e : String × String} :
    e ∈ shownEntries markers l ↔ ∃ v, l.get? e.1 = some v ∧ shown markers e.1 v = e.2 := by
  obtain ⟨k, x⟩ := e
  rw [shownEntries, List.mem_map]
  constructor
  · rintro ⟨⟨k', v⟩, hmem, heq⟩
    obtain ⟨rfl, rfl⟩ := Prod.mk.inj heq
    exact ⟨v, Level.mem_entries_iff.1 ((List.mergeSort_perm _ _).mem_iff.1 hmem), rfl⟩
  · rintro ⟨v, hv, hshown⟩
    have hmem : (k, v) ∈ l.entries := Level.mem_entries_iff.2 hv
    exact ⟨(k, v), (List.mergeSort_perm _ _).mem_iff.2 hmem, Prod.ext rfl hshown⟩

/-- Entries in strict order are known from which ones they are. -/
theorem eq_of_mem_iff {xs ys : List (String × String)} (hxs : xs.Pairwise fun a b => a.1 < b.1)
    (hys : ys.Pairwise fun a b => a.1 < b.1) (hmem : ∀ e, e ∈ xs ↔ e ∈ ys) : xs = ys :=
  have : Std.Antisymm fun a b : String × String => a.1 < b.1 :=
    ⟨fun _ _ hab hba => absurd hba (lt_asymm hab)⟩
  have : Std.Irrefl fun a b : String × String => a.1 < b.1 := ⟨fun a => lt_irrefl a.1⟩
  hxs.eq_of_mem_iff hys hmem

/-! ## Levels that are shown alike -/

/-- The keys are the same, and so are the values of those without a marker and the lengths of the
others. -/
structure Alike (markers : List String) (l l' : Level) : Prop where
  keys (k : String) : k ∈ l.keys ↔ k ∈ l'.keys
  plain {k : String} : ¬ HasMarker markers k → l.get? k = l'.get? k
  lengths {k v v' : String} : HasMarker markers k → l.get? k = some v → l'.get? k = some v' →
    v.length = v'.length

theorem Alike.symm (h : Alike markers l l') : Alike markers l' l where
  keys k := (h.keys k).symm
  plain hk := (h.plain hk).symm
  lengths hk hv hv' := (h.lengths hk hv' hv).symm

/-- A value that is shown of one level is shown of the other. -/
theorem Alike.exists_shown (h : Alike markers l l') {k v : String} (hv : l.get? k = some v) :
    ∃ v', l'.get? k = some v' ∧ shown markers k v' = shown markers k v := by
  by_cases hk : HasMarker markers k
  · have hmem : k ∈ l'.keys := (h.keys k).1 (Level.mem_keys_iff.2 (by simp [hv]))
    obtain ⟨v', hv'⟩ := Option.ne_none_iff_exists'.1 (Level.mem_keys_iff.1 hmem)
    exact ⟨v', hv', (shown_eq_iff_of_marker hk).2 (h.lengths hk hv hv').symm⟩
  · exact ⟨v, (h.plain hk).symm.trans hv, rfl⟩

theorem shownEntries_of_alike (h : Alike markers l l') :
    shownEntries markers l = shownEntries markers l' := by
  have hsub : ∀ {l l' : Level}, Alike markers l l' →
      ∀ e ∈ shownEntries markers l, e ∈ shownEntries markers l' := by
    intro l l' h e he
    obtain ⟨v, hv, hshown⟩ := mem_shownEntries.1 he
    obtain ⟨v', hv', heq⟩ := h.exists_shown hv
    exact mem_shownEntries.2 ⟨v', hv', heq.trans hshown⟩
  exact eq_of_mem_iff (pairwise_shownEntries markers l) (pairwise_shownEntries markers l')
    fun e => ⟨hsub h e, hsub h.symm e⟩

/-- A value that is in what is shown of both levels is shown of both in the same way. -/
theorem exists_shown_of_shownEntries (h : shownEntries markers l = shownEntries markers l')
    {k v : String} (hv : l.get? k = some v) :
    ∃ v', l'.get? k = some v' ∧ shown markers k v' = shown markers k v := by
  have hmem : (k, shown markers k v) ∈ shownEntries markers l := mem_shownEntries.2 ⟨v, hv, rfl⟩
  rw [h] at hmem
  exact mem_shownEntries.1 hmem

theorem alike_of_shownEntries (h : shownEntries markers l = shownEntries markers l') :
    Alike markers l l' where
  keys k := by
    rw [← (keys_shownEntries markers l).mem_iff, ← (keys_shownEntries markers l').mem_iff, h]
  plain {k} hk := by
    have hsub : ∀ {l l' : Level}, shownEntries markers l = shownEntries markers l' →
        ∀ v, l.get? k = some v → l'.get? k = some v := by
      intro l l' h v hv
      obtain ⟨v', hv', heq⟩ := exists_shown_of_shownEntries h hv
      rw [shown_of_noMarker hk, shown_of_noMarker hk] at heq
      rwa [← heq]
    exact Option.ext fun v => ⟨hsub h v, hsub h.symm v⟩
  lengths {k v v'} hk hv hv' := by
    obtain ⟨w, hw, heq⟩ := exists_shown_of_shownEntries h hv
    obtain rfl : w = v' := Option.some.inj (hw.symm.trans hv')
    exact ((shown_eq_iff_of_marker hk).1 heq).symm

/-- Levels are shown alike just if they are. -/
theorem shownEntries_eq_iff :
    shownEntries markers l = shownEntries markers l' ↔ Alike markers l l' :=
  ⟨alike_of_shownEntries, shownEntries_of_alike⟩

/-- Without a marker the value itself is shown. -/
theorem mem_shownEntries_of_noMarker (h : ¬ HasMarker markers key) :
    (key, value) ∈ shownEntries markers l ↔ l.get? key = some value := by
  rw [mem_shownEntries]
  simp only [shown_of_noMarker h]
  constructor
  · rintro ⟨v, hv, rfl⟩
    exact hv
  · exact fun hv => ⟨value, hv, rfl⟩

theorem report_of_alike (h : Alike markers l l') (title : String) :
    report markers title l = report markers title l' := by
  rw [report, report, shownEntries_of_alike h]

end Masking

/-! ## Commands -/

namespace CommandLine
open Masking
variable {d d' : Disk} {markers : List String} {above above' : List Level} {files files' : List Path}

/-- What is shown of files under their paths. -/
def shownFiles (markers : List String) (loaded : List (Path × Level)) :
    List (String × List (String × String)) :=
  loaded.map fun f => (f.1.text, shownEntries markers f.2)

/-- Files with the same paths, and with alike levels. -/
def AlikeFiles (markers : List String) : List (Path × Level) → List (Path × Level) → Prop :=
  List.Forall₂ fun f f' => f.1.text = f'.1.text ∧ Alike markers f.2 f'.2

theorem shownFiles_of_alike {loaded loaded' : List (Path × Level)}
    (h : AlikeFiles markers loaded loaded') :
    shownFiles markers loaded = shownFiles markers loaded' := by
  induction h with
  | nil => rfl
  | cons hf _ ih =>
    rw [shownFiles, List.map_cons, hf.1, shownEntries_of_alike hf.2]
    exact congrArg _ ih

theorem showFiles_of_loadChain {loaded : List (Path × Level)}
    (h : d.loadChain none above files = .ok loaded) (format : Report.Format) :
    showFiles d markers format above files =
      .ofReport (Report.several format (shownFiles markers loaded)) := by
  rw [showFiles, h]
  rfl

theorem resolveFile_of_loaded {folder : Path} {name : String} {loaded : Loaded}
    (h : d.loadTemplates none folder name ⟨.empty, above⟩ = loaded) (hdone : loaded.failure = none)
    (format : Report.Format) :
    resolveFile d markers format above folder name =
      .ofReport
        (Report.inTurn [Report.single format name (shownEntries markers loaded.level)]) := by
  unfold resolveFile
  simp only [h, hdone]

end CommandLine

/-- **What is shown of a secret is its length.** Two levels are shown in the same way just if they
have the same keys, the same values under those without a marker and values of the same length under
the others. Alike levels then give the same log lines, and commands that have loaded alike levels
answer the same in every format. What is shown stands in strictly increasing order of the keys, has
the keys of the level itself and no others, and holds the true values of those without a marker. -/
theorem shown_tells_lengths_only (markers : List String) :
    (∀ l l', Masking.shownEntries markers l = Masking.shownEntries markers l' ↔
      Masking.Alike markers l l') ∧
    (∀ l l', Masking.Alike markers l l' → ∀ title,
      Masking.report markers title l = Masking.report markers title l') ∧
    (∀ (d d' : Disk) (above above' : List Level) (files files' : List Path)
      (loaded loaded' : List (Path × Level)),
      d.loadChain none above files = .ok loaded → d'.loadChain none above' files' = .ok loaded' →
        CommandLine.AlikeFiles markers loaded loaded' →
        ∀ format, CommandLine.showFiles d markers format above files =
          CommandLine.showFiles d' markers format above' files') ∧
    (∀ (d d' : Disk) (above above' : List Level) (folder folder' : Path) (name : String),
      let loaded := d.loadTemplates none folder name ⟨.empty, above⟩
      let loaded' := d'.loadTemplates none folder' name ⟨.empty, above'⟩
      loaded.failure = none → loaded'.failure = none →
        Masking.Alike markers loaded.level loaded'.level →
        ∀ format, CommandLine.resolveFile d markers format above folder name =
          CommandLine.resolveFile d' markers format above' folder' name) ∧
    ∀ l : Level,
      ((Masking.shownEntries markers l).Pairwise fun a b => a.1 < b.1) ∧
      ((Masking.shownEntries markers l).map (·.1)).Perm l.keys ∧
      ∀ k v, ¬ Masking.HasMarker markers k →
        ((k, v) ∈ Masking.shownEntries markers l ↔ l.get? k = some v) := by
  refine ⟨fun l l' => Masking.shownEntries_eq_iff, fun l l' h => Masking.report_of_alike h, ?_, ?_,
    fun l => ⟨Masking.pairwise_shownEntries markers l, Masking.keys_shownEntries markers l,
      fun k v hk => Masking.mem_shownEntries_of_noMarker hk⟩⟩
  · intro d d' above above' files files' loaded loaded' hload hload' h format
    rw [CommandLine.showFiles_of_loadChain hload, CommandLine.showFiles_of_loadChain hload',
      CommandLine.shownFiles_of_alike h]
  · intro d d' above above' folder folder' name loaded loaded' hdone hdone' h format
    rw [CommandLine.resolveFile_of_loaded rfl hdone, CommandLine.resolveFile_of_loaded rfl hdone',
      Masking.shownEntries_of_alike h]

/-- A folder with one file. -/
def noteDisk (text : String) : Disk :=
  ⟨⟨"/", []⟩, .folder [("a.properties", .file text.toUTF8.toList)]⟩

theorem loadChain_note :
    (noteDisk "n=1\nKEY=abc").loadChain none [] [.ofText "a.properties"] =
      .ok [(.ofText "a.properties", .ofPairs [("n", "1"), ("KEY", "abc")])] ∧
    (noteDisk "KEY=xyz\nn=1").loadChain none [] [.ofText "a.properties"] =
      .ok [(.ofText "a.properties", .ofPairs [("KEY", "xyz"), ("n", "1")])] := by
  have hload : ∀ (text : String) (entries : List (String × String)),
      Document.bodyOf (.bytes text.toUTF8.toList) .flat =
          .ok (entries.map Document.flatStatement) →
        (noteDisk text).loadChain none [] [.ofText "a.properties"] =
          .ok [(.ofText "a.properties", .ofPairs entries)] := by
    intro text entries hbody
    have hread : (noteDisk text).read (.ofText "a.properties") = .ok text.toUTF8.toList := rfl
    have hfile : (noteDisk text).loadFile none [] (.ofText "a.properties") =
        .ok (.ofPairs entries) := Disk.loadFile_of_flat hread (by cbv) hbody []
    rw [Disk.loadChain_cons_of_ok hfile]
    rfl
  exact ⟨hload _ [("n", "1"), ("KEY", "abc")] (by cbv),
    hload _ [("KEY", "xyz"), ("n", "1")] (by cbv)⟩

/-- The levels differ in the value of a key with a marker and in the order of their keys. -/
theorem shown_tells_lengths_only_sample :
    let l := Level.ofPairs [("n", "1"), ("KEY", "abc")]
    let l' := Level.ofPairs [("KEY", "xyz"), ("n", "1")]
    Masking.Alike ["key"] l l' ∧ l.get? "KEY" ≠ l'.get? "KEY" ∧
    Masking.shownEntries ["key"] l = Masking.shownEntries ["key"] l' ∧
    ∀ format, CommandLine.showFiles (noteDisk "n=1\nKEY=abc") ["key"] format []
        [.ofText "a.properties"] =
      CommandLine.showFiles (noteDisk "KEY=xyz\nn=1") ["key"] format []
        [.ofText "a.properties"] := by
  intro l l'
  have hkey : Text.lowercase "key" = "key" ∧ Text.lowercase "KEY" = "key" := by decide +kernel
  have hn : Text.lowercase "n" = "n" := by decide +kernel
  have hmarker : Masking.HasMarker ["key"] "KEY" := by
    simp [Masking.HasMarker, hkey.1, hkey.2]
  have hplain : ¬ Masking.HasMarker ["key"] "n" := by
    simp only [Masking.HasMarker, List.mem_singleton, exists_eq_left, hkey.1, hn]
    decide
  have hl : l.entries = [("n", "1"), ("KEY", "abc")] := rfl
  have hl' : l'.entries = [("KEY", "xyz"), ("n", "1")] := rfl
  have hkeys : l.keys = ["n", "KEY"] ∧ l'.keys = ["KEY", "n"] := ⟨rfl, rfl⟩
  have hget : ∀ k, k ≠ "KEY" → l.get? k = l'.get? k := by
    intro k hk
    rw [Level.get?, Level.get?, hl, hl']
    simp only [Level.lookup_cons_if, if_neg hk]
  have halike : Masking.Alike ["key"] l l' := by
    refine ⟨fun k => ?_, fun {k} hk => hget k ?_, fun {k v v'} hk hv hv' => ?_⟩
    · rw [hkeys.1, hkeys.2]
      simp [or_comm]
    · rintro rfl
      exact hk hmarker
    · by_cases hkey : k = "KEY"
      · subst hkey
        rw [Level.get?, hl] at hv
        rw [Level.get?, hl'] at hv'
        obtain rfl : "abc" = v := by simpa [Level.lookup_cons_if] using hv
        obtain rfl : "xyz" = v' := by simpa [Level.lookup_cons_if] using hv'
        decide
      · have hmem : k ∈ l.keys := Level.mem_keys_iff.2 (by simp [hv])
        rw [hkeys.1] at hmem
        obtain rfl : k = "n" := by simpa [hkey] using hmem
        exact absurd hk hplain
  obtain ⟨hiff, -, hshow, -⟩ := shown_tells_lengths_only ["key"]
  refine ⟨halike, by decide, (hiff l l').2 halike, fun format => ?_⟩
  exact hshow _ _ _ _ _ _ _ _ loadChain_note.1 loadChain_note.2
    (.cons ⟨rfl, halike⟩ .nil) format

end PropertyDocs
