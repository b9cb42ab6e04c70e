import Mathlib
import PropertyDocs.CommandLine.Run
import PropertyDocs.Proofs.ChainedLoading

/-!
# Exit codes of the commands

Checking compiles each file by itself; showing compiles and runs them one below the other. They
agree on which files compile, since running a document never fails the way reading or compiling it
does. Where the refusal of a pattern has no message, checking ends at once and reports nothing.
-/
namespace PropertyDocs

/-! ## Files and chains of files -/

namespace Disk
variable {d : Disk} {decryptor : Option Decryptor}

/-- A file is loaded if it compiles and its document does not fail as it runs. -/
theorem loadFile_cases (d : Disk) (decryptor : Option Decryptor) (ancestors : List Level)
    (p : Path) :
    (∃ e, d.parseFile decryptor p = .error e ∧ d.loadFile decryptor ancestors p = .error e) ∨
    (∃ document, d.parseFile decryptor p = .ok document ∧
      ((∃ x, d.loadFile decryptor ancestors p = .error (.evaluation x)) ∨
        ∃ level, d.loadFile decryptor ancestors p = .ok level)) := by
  unfold loadFile
  cases d.parseFile decryptor p with
  | error e => exact .inl ⟨e, rfl, rfl⟩
  | ok document =>
    refine .inr ⟨document, rfl, ?_⟩
    simp only [bind, Except.bind]
    cases (document.load ancestors).error with
    | some x => exact .inl ⟨x, rfl⟩
    | none => exact .inr ⟨_, rfl⟩

/-- A chain fails as a document fails that runs, or as one of the files fails to compile. -/
theorem loadChain_eq_error {e : LoadFailure} {ps : List Path} {ancestors : List Level}
    (h : d.loadChain decryptor ancestors ps = .error e) :
    (∃ x, e = .evaluation x) ∨ ∃ p ∈ ps, d.parseFile decryptor p = .error e := by
  induction ps generalizing ancestors with
  | nil => simp [loadChain] at h
  | cons p ps ih =>
    rcases loadChain_cons_eq_error h with hp | ⟨level, -, hps⟩
    · rcases d.loadFile_cases decryptor ancestors p with
        ⟨e', hparse, hload⟩ | ⟨document, -, ⟨x, hload⟩ | ⟨level, hload⟩⟩
      · obtain rfl : e' = e := Except.error.inj (hload.symm.trans hp)
        exact .inr ⟨p, by simp, hparse⟩
      · exact .inl ⟨x, (Except.error.inj (hload.symm.trans hp)).symm⟩
      · simp [hload] at hp
    · rcases ih hps with hx | ⟨q, hq, hparse⟩
      · exact .inl hx
      · exact .inr ⟨q, by simp [hq], hparse⟩

/-- Where a chain is loaded, every file compiles. -/
theorem exists_document_of_loadChain {p : Path} {ps : List Path} {ancestors : List Level}
    {loaded : List (Path × Level)} (h : d.loadChain decryptor ancestors ps = .ok loaded)
    (hp : p ∈ ps) : ∃ document, d.parseFile decryptor p = .ok document := by
  induction ps generalizing ancestors loaded with
  | nil => simp at hp
  | cons q ps ih =>
    obtain ⟨level, more, -, hq, hps⟩ := loadChain_cons_eq_ok h
    rcases List.mem_cons.1 hp with rfl | hp
    · rcases d.loadFile_cases decryptor ancestors p with
        ⟨e', -, hload⟩ | ⟨document, hparse, -⟩
      · simp [hload] at hq
      · exact ⟨document, hparse⟩
    · exact ih hps hp

end Disk

namespace CommandLine

/-! ## Showing -/

theorem code_ofReport (r : String × Option Report.MarkupError) :
    (Answer.ofReport r).ending.code ≤ 1 := by
  obtain ⟨text, e⟩ := r
  cases e <;> simp [Answer.ofReport, Ending.code]

theorem code_ofFailure_evaluation (x : EvaluationError) :
    (Answer.ofFailure (.evaluation x)).ending.code = 1 := rfl

theorem code_ofFailure_pos (e : LoadFailure) : 0 < (Answer.ofFailure e).ending.code := by
  unfold Answer.ofFailure
  split
  · simp [Answer.failed, Ending.code]
  · cases e <;> simp [Answer.error, Ending.code, exitCode]

section Showing
variable {d : Disk} {markers : List String} {format : Report.Format} {ancestors : List Level}
  {files : List Path}

variable (markers format ancestors) in
/-- Files that all compile are shown, or one of them fails as it runs. -/
theorem code_showFiles_le (h : ∀ p ∈ files, ∃ document, d.parseFile none p = .ok document) :
    (showFiles d markers format ancestors files).ending.code ≤ 1 := by
  unfold showFiles
  cases hload : d.loadChain none ancestors files with
  | ok loaded => exact code_ofReport _
  | error e =>
    rcases Disk.loadChain_eq_error hload with ⟨x, rfl⟩ | ⟨p, hp, hparse⟩
    · exact Nat.le_of_eq (code_ofFailure_evaluation x)
    · obtain ⟨document, hdocument⟩ := h p hp
      simp [hdocument] at hparse

theorem exists_document_of_code_showFiles
    (h : (showFiles d markers format ancestors files).ending.code = 0) :
    ∀ p ∈ files, ∃ document, d.parseFile none p = .ok document := by
  unfold showFiles at h
  cases hload : d.loadChain none ancestors files with
  | ok loaded => exact fun p hp => Disk.exists_document_of_loadChain hload hp
  | error e =>
    rw [hload] at h
    exact absurd h (Nat.ne_of_gt (code_ofFailure_pos e))

end Showing

/-! ## Checking -/

/-- The failures of the files that do not compile. -/
def failures (d : Disk) (files : List Path) : List LoadFailure :=
  files.filterMap fun p =>
    match d.parseFile none p with
    | .ok _ => none
    | .error e => some e

/-- The line that a file adds to the output. -/
def passLine (d : Disk) (p : Path) : String :=
  match d.parseFile none p with
  | .ok document => okLine p document
  | .error _ => ""

/-- The line that a file adds to the errors. -/
def faultLine (d : Disk) (p : Path) : String :=
  match d.parseFile none p with
  | .ok _ => ""
  | .error e => failLine e

section Checking
variable {d : Disk} {files : List Path}

theorem mem_failures {e : LoadFailure} :
    e ∈ failures d files ↔ ∃ p ∈ files, d.parseFile none p = .error e := by
  rw [failures, List.mem_filterMap]
  refine exists_congr fun p => and_congr_right fun _ => ?_
  cases d.parseFile none p <;> simp

theorem failures_eq_nil_iff :
    failures d files = [] ↔ ∀ p ∈ files, ∃ document, d.parseFile none p = .ok document := by
  rw [failures, List.filterMap_eq_nil_iff]
  refine forall₂_congr fun p _ => ?_
  cases d.parseFile none p <;> simp

theorem join_filterMap {α : Type} (f : α → Option String) (xs : List α) :
    String.join (xs.filterMap f) = String.join (xs.map fun x => (f x).getD "") := by
  induction xs with
  | nil => rfl
  | cons x xs ih =>
    rw [List.map_cons, String.join_cons, ← ih]
    cases hx : f x with
    | none => simp [hx]
    | some line => simp [hx, String.join_cons]

theorem join_failLines (d : Disk) (files : List Path) :
    String.join ((failures d files).map failLine) = String.join (files.map (faultLine d)) := by
  rw [failures, List.map_filterMap, join_filterMap]
  congr 1
  refine List.map_congr_left fun p _ => ?_
  rw [faultLine]
  cases d.parseFile none p <;> rfl

theorem filterMap_failures {pick : Path × Except LoadFailure Document → Option LoadFailure}
    (hok : ∀ p document, pick (p, .ok document) = none)
    (herror : ∀ p e, pick (p, .error e) = some e) :
    (files.map fun p => (p, d.parseFile none p)).filterMap pick = failures d files := by
  rw [List.filterMap_map, failures]
  congr 1
  funext p
  rw [Function.comp_apply]
  cases d.parseFile none p with
  | ok document => exact hok p document
  | error e => exact herror p e

theorem join_okLines {pick : Path × Except LoadFailure Document → Option String}
    (hok : ∀ p document, pick (p, .ok document) = some (okLine p document))
    (herror : ∀ p e, pick (p, .error e) = none) :
    String.join ((files.map fun p => (p, d.parseFile none p)).filterMap pick) =
      String.join (files.map (passLine d)) := by
  rw [List.filterMap_map, join_filterMap]
  congr 1
  refine List.map_congr_left fun p _ => ?_
  rw [passLine, Function.comp_apply]
  cases d.parseFile none p with
  | ok document => rw [hok, Option.getD_some]
  | error e => rw [herror, Option.getD_none]

/-- Each file is reported by itself, unless a failure has no message. -/
theorem checkFiles_eq (d : Disk) (files : List Path) :
    checkFiles d files =
      match (failures d files).findSome? escaping? with
      | some e => .failed e
      | none =>
        { out := String.join (files.map (passLine d))
          err := String.join (files.map (faultLine d))
          ending := .exit (if (failures d files).isEmpty then 0 else 2) } := by
  unfold checkFiles
  dsimp only
  rw [filterMap_failures]
  · cases (failures d files).findSome? escaping? with
    | some e => rfl
    | none =>
      dsimp only
      rw [join_okLines, join_failLines]
      all_goals exact fun _ _ => rfl
  all_goals exact fun _ _ => rfl

theorem checkFiles_of_reported (h : ∀ e ∈ failures d files, escaping? e = none) :
    checkFiles d files =
      { out := String.join (files.map (passLine d))
        err := String.join (files.map (faultLine d))
        ending := .exit (if (failures d files).isEmpty then 0 else 2) } := by
  rw [checkFiles_eq, List.findSome?_eq_none_iff.2 h]

/-- Checking ends well only if all files compile. -/
theorem code_checkFiles_eq_zero_iff : (checkFiles d files).ending.code = 0 ↔
    ∀ p ∈ files, ∃ document, d.parseFile none p = .ok document := by
  rw [← failures_eq_nil_iff]
  constructor
  · intro h
    rw [checkFiles_eq] at h
    cases hescape : (failures d files).findSome? escaping? with
    | some e => simp [hescape, Answer.failed, Ending.code] at h
    | none =>
      by_contra hne
      simp [hescape, hne, Ending.code] at h
  · intro h
    rw [checkFiles_of_reported (by simp [h]), h]
    rfl

theorem exists_document_of_no_error (h : ¬ ∃ p ∈ files, ∃ e, d.parseFile none p = .error e) :
    ∀ p ∈ files, ∃ document, d.parseFile none p = .ok document := by
  intro p hp
  cases hparse : d.parseFile none p with
  | ok document => exact ⟨document, rfl⟩
  | error e => exact absurd ⟨p, hp, e, hparse⟩ h

theorem code_checkFiles_eq_two_iff (h : ∀ e ∈ failures d files, escaping? e = none) :
    (checkFiles d files).ending.code = 2 ↔ ∃ p ∈ files, ∃ e, d.parseFile none p = .error e := by
  rw [checkFiles_of_reported h]
  constructor
  · intro h
    obtain ⟨e, he⟩ := List.exists_mem_of_ne_nil (failures d files) fun hnil => by
      simp [hnil, Ending.code] at h
    obtain ⟨p, hp, hparse⟩ := mem_failures.1 he
    exact ⟨p, hp, e, hparse⟩
  · rintro ⟨p, hp, e, hparse⟩
    have hne : failures d files ≠ [] := List.ne_nil_of_mem (mem_failures.2 ⟨p, hp, hparse⟩)
    simp [hne, Ending.code]

end Checking

/-! ## Both commands -/

section Running
variable (d : Disk) (environment : Level) (s : Settings) {a : Arguments}

theorem run_checkFiles (hwords : a.words ≠ []) :
    Command.checkFiles.run d environment s ⟨[], a.words⟩ =
      checkFiles d (a.words.map Path.ofText) := by
  simp only [Command.run, runCheck, List.isEmpty_iff, hwords, if_false]

theorem exists_run_showFiles (hwords : a.words ≠ []) (hformat : (format? a).isSome)
    (hseeds : ((a.values .seed).mapM seed?).isSome) :
    ∃ format above, Command.showFiles.run d environment s a =
      showFiles d s.markers format above (a.words.map Path.ofText) := by
  obtain ⟨format, hformat⟩ := Option.isSome_iff_exists.1 hformat
  obtain ⟨seeds, hseeds⟩ := Option.isSome_iff_exists.1 hseeds
  refine ⟨format, ancestors (a.inherits?.getD s.inheritEnvironment) environment seeds, ?_⟩
  simp [Command.run, runShow, hformat, hwords, hseeds]

end Running

/-- **Checking and showing agree.** Files that check well are shown, or a document among them fails
as it runs; files that are shown check well. Where every failure to compile has a message, checking
fails if showing cannot compile a file, its report is made of what each file gives by itself, and
its code is 2 exactly if a file does not compile. -/
theorem check_and_show_agree (d : Disk) (environment : Level) (s : Settings) {a : Arguments}
    (hwords : a.words ≠ []) (hformat : (format? a).isSome)
    (hseeds : ((a.values .seed).mapM seed?).isSome) :
    let files := a.words.map Path.ofText
    let shown := Command.showFiles.run d environment s a
    let checked := Command.checkFiles.run d environment s ⟨[], a.words⟩
    (checked.ending.code = 0 → shown.ending.code = 0 ∨ shown.ending.code = 1) ∧
    (shown.ending.code = 0 → checked.ending.code = 0) ∧
    ((∀ p ∈ files, ∀ e, d.parseFile none p = .error e → escaping? e = none) →
      (shown.ending.code = 2 → checked.ending.code = 2) ∧
      checked.out = String.join (files.map (passLine d)) ∧
      checked.err = String.join (files.map (faultLine d)) ∧
      (checked.ending.code = 2 ↔ ∃ p ∈ files, ∃ e, d.parseFile none p = .error e)) := by
  intro files shown checked
  obtain ⟨format, above, hshown⟩ := exists_run_showFiles d environment s hwords hformat hseeds
  have hchecked : checked = checkFiles d files := run_checkFiles d environment s hwords
  have hshown : shown = showFiles d s.markers format above files := hshown
  rw [hchecked, hshown]
  refine ⟨fun h => ?_, fun h => ?_, fun hreported => ?_⟩
  · have hle := code_showFiles_le s.markers format above (code_checkFiles_eq_zero_iff.1 h)
    omega
  · exact code_checkFiles_eq_zero_iff.2 (exists_document_of_code_showFiles h)
  · have hreported : ∀ e ∈ failures d files, escaping? e = none := by
      intro e he
      obtain ⟨p, hp, hparse⟩ := mem_failures.1 he
      exact hreported p hp e hparse
    have hcode := code_checkFiles_eq_two_iff hreported
    refine ⟨fun h => ?_, by rw [checkFiles_of_reported hreported],
      by rw [checkFiles_of_reported hreported], hcode⟩
    -- a chain that does not compile has a file that does not
    by_contra hne
    have hle := code_showFiles_le s.markers format above
      (exists_document_of_no_error fun hsome => hne (hcode.2 hsome))
    omega

/-! ## A file that is refused without a message -/

/-- A document with a pattern that asks for ASCII and for Unicode text. -/
def conflictingText : String := "<properties><if key='a' match='(?a)(?u)x'/></properties>"

def conflictingDisk : Disk :=
  ⟨⟨"/", []⟩, .folder [("b.xml", .file conflictingText.toUTF8.toList)]⟩

def conflictingRoot : Xml.Node :=
  .element ⟨"properties", [], 1⟩
    [.element ⟨"if", [("key", "a"), ("match", "(?a)(?u)x")], 1⟩ []]

theorem parseFile_missing :
    conflictingDisk.parseFile none (.ofText "a") =
      .error (.load (.unreadable (.ofText "a") .missing)) := by
  cbv

theorem check_and_show_agree_sample :
    let a : Arguments := ⟨[], ["a"]⟩
    (a.words ≠ [] ∧ (format? a).isSome ∧ ((a.values .seed).mapM seed?).isSome) ∧
    (∀ e, conflictingDisk.parseFile none (.ofText "a") = .error e → escaping? e = none) ∧
    (Command.checkFiles.run conflictingDisk .empty .standard ⟨[], a.words⟩).ending.code = 2 := by
  intro a
  have hwords : a.words ≠ [] := by simp [a]
  have hformat : (format? a).isSome := by decide
  have hseeds : ((a.values .seed).mapM seed?).isSome := by decide
  have hreported : ∀ e, conflictingDisk.parseFile none (.ofText "a") = .error e →
      escaping? e = none := by
    intro e h
    rw [parseFile_missing] at h
    cases h
    rfl
  obtain ⟨-, -, h⟩ :=
    check_and_show_agree conflictingDisk .empty .standard hwords hformat hseeds
  obtain ⟨-, -, -, hcode⟩ := h fun p hp => by
    obtain rfl : p = .ofText "a" := by simpa [a] using hp
    exact hreported
  exact ⟨⟨hwords, hformat, hseeds⟩, hreported,
    hcode.2 ⟨.ofText "a", by simp [a], _, parseFile_missing⟩⟩

set_option maxRecDepth 10000 in
theorem parse_conflictingText :
    Xml.parse conflictingText.toUTF8.toList = .ok conflictingRoot := by
  cbv

set_option maxRecDepth 10000 in
theorem document_conflictingRoot :
    Grammar.document conflictingRoot = .error (.pattern .conflictingTypes) := by
  cbv

theorem formatOf_conflicting : Disk.formatOf (.ofText "b.xml") = .xml := by
  have hsuffix : (Path.ofText "b.xml").suffix = ".xml" := by cbv
  have hlower : Text.lowercase ".xml" = ".xml" := by decide +kernel
  rw [Disk.formatOf, hsuffix, hlower]
  rfl

theorem parseFile_conflicting :
    conflictingDisk.parseFile none (.ofText "b.xml") =
      .error (.compile "b.xml" (.pattern .conflictingTypes)) := by
  have hread : conflictingDisk.read (.ofText "b.xml") = .ok conflictingText.toUTF8.toList := rfl
  have htext : (Path.ofText "b.xml").text = "b.xml" := by cbv
  rw [Disk.parseFile_eq, hread]
  simp only [formatOf_conflicting, htext, Document.bodyOf, Document.Content.toBytes,
    Document.xmlBody, parse_conflictingText, document_conflictingRoot]

/-- A chain whose first file is missing is not shown, and the code says so; checking the same files
ends with the code of a failed run, and says nothing of the missing file. -/
theorem check_silent_on_conflict :
    let a : Arguments := ⟨[], ["a", "b.xml"]⟩
    (Command.showFiles.run conflictingDisk .empty .standard a).ending.code = 2 ∧
    Command.checkFiles.run conflictingDisk .empty .standard a =
      ⟨"", "", .failure (.pattern .conflictingTypes)⟩ ∧
    (Command.checkFiles.run conflictingDisk .empty .standard a).ending.code = 1 := by
  intro a
  have hcheck : Command.checkFiles.run conflictingDisk .empty .standard a =
      ⟨"", "", .failure (.pattern .conflictingTypes)⟩ := by
    have hfailures : failures conflictingDisk [.ofText "a", .ofText "b.xml"] =
        [.load (.unreadable (.ofText "a") .missing),
          .compile "b.xml" (.pattern .conflictingTypes)] := by
      simp [failures, parseFile_missing, parseFile_conflicting]
    change checkFiles conflictingDisk [.ofText "a", .ofText "b.xml"] = _
    rw [checkFiles_eq, hfailures]
    rfl
  refine ⟨?_, hcheck, by rw [hcheck]; rfl⟩
  have hload : conflictingDisk.loadChain none [] [.ofText "a", .ofText "b.xml"] =
      .error (.load (.unreadable (.ofText "a") .missing)) := by
    simp [Disk.loadChain, Disk.loadFile, parseFile_missing, bind, Except.bind]
  change (showFiles conflictingDisk Settings.standard.markers .plain []
    [.ofText "a", .ofText "b.xml"]).ending.code = 2
  rw [showFiles, hload]
  rfl

end CommandLine

end PropertyDocs
