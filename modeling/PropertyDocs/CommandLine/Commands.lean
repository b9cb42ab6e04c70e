import PropertyDocs.Loading
import PropertyDocs.Report.Format
import PropertyDocs.Settings

/-!
# Commands

What each command writes and how it ends. Documents that are shown run one below the other, a
document that is checked is only compiled, and resolving takes all copies of a file together. A
command ends with 2 if files cannot be read or compiled, and with 1 if a document fails as it runs.
-/
namespace PropertyDocs.CommandLine

/-- What a command has no message for. -/
inductive Failure where
  | pattern (e : PatternError)
  | markup (e : Report.MarkupError)
  | notText (e : Text.Utf8Error)
deriving DecidableEq, Repr

def Failure.message : Failure → String
  | pattern e => e.message ""
  | markup e => e.message
  | notText e => e.message

inductive Ending where
  | exit (code : Nat)
  /-- The words on the line are not understood. -/
  | usage
  | failure (e : Failure)
deriving DecidableEq, Repr

def Ending.code : Ending → Nat
  | exit code => code
  | usage => 2
  | failure _ => 1

structure Answer where
  out : String
  err : String
  ending : Ending
deriving DecidableEq, Repr

namespace Answer

def usage : Answer := ⟨"", "", .usage⟩

def error (code : Nat) (message : String) : Answer := ⟨"", "Error: " ++ message ++ "\n", .exit code⟩

def failed (e : Failure) : Answer := ⟨"", "", .failure e⟩

def ofReport : String × Option Report.MarkupError → Answer
  | (text, none) => ⟨text, "", .exit 0⟩
  | (text, some e) => ⟨text, "", .failure (.markup e)⟩

end Answer

/-! ## Failures of loading -/

/-- What is no defect of a document, although it does not compile. -/
def escaping? : LoadFailure → Option Failure
  | .compile _ (.pattern e) => some (.pattern e)
  | _ => none

/-- `_exit_for`. -/
def exitCode : LoadFailure → Nat
  | .evaluation _ => 1
  | _ => 2

def Answer.ofFailure (e : LoadFailure) : Answer :=
  match escaping? e with
  | some e => failed e
  | none => error (exitCode e) e.message

/-! ## Commands -/

/-- `root_store`: the levels above those of the documents, which are the given entries and above
them the environment. -/
def ancestors (inherits : Bool) (environment : Level) (seeds : List (String × String)) :
    List Level :=
  (if seeds.isEmpty then [] else [Level.ofPairs seeds]) ++ if inherits then [environment] else []

/-- `show`, once its words are read. -/
def showFiles (d : Disk) (markers : List String) (format : Report.Format) (ancestors : List Level)
    (files : List Path) : Answer :=
  match d.loadChain none ancestors files with
  | .error e => .ofFailure e
  | .ok loaded =>
    .ofReport (Report.several format
      (loaded.map fun f => (f.1.text, Masking.shownEntries markers f.2)))

/-- The line for a document that compiles. -/
def okLine (p : Path) (document : Document) : String :=
  "OK: " ++ p.text ++ " (" ++ toString document.body.length ++ " statement(s))\n"

def failLine (e : LoadFailure) : String := "FAIL: " ++ e.message ++ "\n"

/-- `check`, once its words are read. -/
def checkFiles (d : Disk) (files : List Path) : Answer :=
  let results := files.map fun p => (p, d.parseFile none p)
  let failures := results.filterMap fun r =>
    match r.2 with
    | .error e => some e
    | .ok _ => none
  let passes := results.filterMap fun r =>
    match r.2 with
    | .ok document => some (okLine r.1 document)
    | .error _ => none
  match failures.findSome? escaping? with
  | some e => .failed e
  | none =>
    { out := String.join passes
      err := String.join (failures.map failLine)
      ending := .exit (if failures.isEmpty then 0 else 2) }

/-- `resolve`, once its words are read. -/
def resolveFile (d : Disk) (markers : List String) (format : Report.Format)
    (ancestors : List Level) (folder : Path) (name : String) : Answer :=
  let loaded := d.loadTemplates none folder name ⟨.empty, ancestors⟩
  match loaded.failure with
  | some e => .ofFailure e
  | none =>
    .ofReport
      (Report.inTurn [Report.single format name (Masking.shownEntries markers loaded.level)])

end PropertyDocs.CommandLine
