import PropertyDocs.Document
import PropertyDocs.Files.Tree

/-!
# Loading files

Documents are read from files, whose names tell their format. A configuration folder holds files
and, in subfolders, further copies of them, which are taken together in the order of the names of
the subfolders. Files are also loaded one after another, each below the one before.
-/
namespace PropertyDocs

/-- Why files cannot be found or read. -/
inductive LoadError where
  | unreadable (path : Path) (cause : AccessError)
  | noFolder (path : Path)
  /-- None of the folders has a file of the name. -/
  | nowhere (folder : Path) (name : String) (searched : List Path)
deriving DecidableEq, Repr

namespace LoadError

def message : LoadError → String
  | unreadable path cause => "Failed to read " ++ path.text ++ ": " ++ cause.message path
  | noFolder path => "Config directory not found: " ++ path.text
  | nowhere _ name searched =>
    "Unable to find " ++ name ++ " in the configuration directories: ["
      ++ ", ".intercalate (searched.map fun p => Text.quoted p.text) ++ "]"

/-- The path that was asked for. -/
def path : LoadError → Path
  | unreadable path _ => path
  | noFolder path => path
  | nowhere folder name _ => folder.join (.ofText name)

end LoadError

/-- Why loading failed. -/
inductive LoadFailure where
  | load (e : LoadError)
  /-- The document from `source` has a defect. -/
  | compile (source : String) (e : CompileError)
  | evaluation (e : EvaluationError)
deriving DecidableEq, Repr

def LoadFailure.message : LoadFailure → String
  | load e => e.message
  | compile source e => e.message (some source)
  | evaluation e => e.message

/-- What loading files on a leaf has come to. The leaf and the calls of the decryptor are kept also
when it failed. -/
structure Loaded where
  level : Level
  calls : List (String × String)
  failure : Option LoadFailure
deriving DecidableEq, Repr

def Loaded.ofOutcome (o : Outcome) : Loaded := ⟨o.level, o.calls, o.error.map .evaluation⟩

namespace Disk

/-! ## Single files -/

/-- The format of a file. -/
def formatOf (p : Path) : Document.Format :=
  if Text.lowercase p.suffix == ".xml" then .xml else .flat

/-- `parse_file`: compiles the document in a file. -/
def parseFile (d : Disk) (decryptor : Option Decryptor) (p : Path) : Except LoadFailure Document :=
  match d.read p with
  | .error e => .error (.load (.unreadable p e))
  | .ok bytes =>
    (Document.compile (.bytes bytes) (formatOf p) (some p.text) decryptor).mapError
      (.compile p.text)

/-! ## Configuration folders -/

def isHidden (name : String) : Bool := name.startsWith "."

/-- `ordered_config_dirs`: the folder and its subfolders that are not hidden, in the order of their
names. -/
def configFolders (d : Disk) (folder : Path) : Except LoadError (List Path) :=
  if d.isFolder folder then
    let names := (d.folders folder).filter fun n => !isHidden n
    .ok (folder :: (names.mergeSort fun a b => decide (a ≤ b)).map folder.child)
  else .error (.noFolder folder)

/-- `_resolve_candidate`: the file itself, or if it is missing and an XML file, the flat one beside
it. -/
def present? (d : Disk) (p : Path) : Option Path :=
  let candidate :=
    if !d.contains p && p.suffix == ".xml" then p.withSuffix ".properties" else p
  if d.contains candidate then some candidate else none

/-- `locate_config_files`: the copies of a file in a configuration folder. -/
def locate (d : Disk) (folder : Path) (name : String) : Except LoadError (List Path) :=
  (d.configFolders folder).map fun folders =>
    folders.filterMap fun f => d.present? (f.join (.ofText name))

/-- `parse_config_templates`: all copies of a file, as one document. -/
def parseTemplates (d : Disk) (decryptor : Option Decryptor) (folder : Path) (name : String) :
    Except LoadFailure Document := do
  let found ← (d.locate folder name).mapError .load
  if found.isEmpty then
    let searched ← (d.configFolders folder).mapError .load
    throw (.load (.nowhere folder name searched))
  let documents ← found.mapM (d.parseFile none)
  return Document.concat documents decryptor

/-- `load_config_files`: runs all copies of a file on the leaf of a chain. Nothing is run unless all
of them compile. -/
def loadTemplates (d : Disk) (decryptor : Option Decryptor) (folder : Path) (name : String)
    (c : Chain) : Loaded :=
  match d.parseTemplates decryptor folder name with
  | .error e => ⟨c.leaf, [], some e⟩
  | .ok document => .ofOutcome (document.run none c)

section LoadTemplates
variable {d : Disk} {decryptor : Option Decryptor} {folder : Path} {name : String}

end LoadTemplates

/-! ## Chains of files -/

/-- Runs the document in a file on a new level below `ancestors`. -/
def loadFile (d : Disk) (decryptor : Option Decryptor) (ancestors : List Level) (p : Path) :
    Except LoadFailure Level := do
  let document ← d.parseFile decryptor p
  let o := document.load ancestors
  match o.error with
  | some e => throw (.evaluation e)
  | none => return o.level

/-- `load_chain`: the level of each file, below that of the file before it. -/
def loadChain (d : Disk) (decryptor : Option Decryptor) :
    (ancestors : List Level) → List Path → Except LoadFailure (List (Path × Level))
  | _, [] => .ok []
  | ancestors, p :: ps => do
    let level ← d.loadFile decryptor ancestors p
    let rest ← loadChain d decryptor (level :: ancestors) ps
    return (p, level) :: rest

section LoadChain
variable {d : Disk} {decryptor : Option Decryptor} {ancestors : List Level} {p : Path}
  {ps : List Path} {loaded : List (Path × Level)} {e : LoadFailure}

theorem loadChain_cons_of_error (h : d.loadFile decryptor ancestors p = .error e)
    (ps : List Path) : d.loadChain decryptor ancestors (p :: ps) = .error e := by
  simp only [loadChain, h, bind, Except.bind]

theorem loadChain_cons_of_ok {level : Level} (h : d.loadFile decryptor ancestors p = .ok level)
    (ps : List Path) :
    d.loadChain decryptor ancestors (p :: ps) =
      (d.loadChain decryptor (level :: ancestors) ps).map ((p, level) :: ·) := by
  simp only [loadChain, h, bind, Except.bind]
  cases d.loadChain decryptor (level :: ancestors) ps <;> rfl

theorem loadChain_cons_eq_ok (h : d.loadChain decryptor ancestors (p :: ps) = .ok loaded) :
    ∃ level more, loaded = (p, level) :: more ∧ d.loadFile decryptor ancestors p = .ok level ∧
      d.loadChain decryptor (level :: ancestors) ps = .ok more := by
  cases hp : d.loadFile decryptor ancestors p with
  | error e =>
    rw [loadChain_cons_of_error hp] at h
    cases h
  | ok level =>
    rw [loadChain_cons_of_ok hp] at h
    cases hps : d.loadChain decryptor (level :: ancestors) ps with
    | error e => simp [hps, Except.map] at h
    | ok more =>
      have hcons : (p, level) :: more = loaded := by simpa [hps, Except.map] using h
      exact ⟨level, more, hcons.symm, rfl, hps⟩

theorem loadChain_cons_eq_error (h : d.loadChain decryptor ancestors (p :: ps) = .error e) :
    d.loadFile decryptor ancestors p = .error e ∨
      ∃ level, d.loadFile decryptor ancestors p = .ok level ∧
        d.loadChain decryptor (level :: ancestors) ps = .error e := by
  cases hp : d.loadFile decryptor ancestors p with
  | error e' =>
    rw [loadChain_cons_of_error hp] at h
    obtain rfl : e' = e := Except.error.inj h
    exact .inl rfl
  | ok level =>
    rw [loadChain_cons_of_ok hp] at h
    cases hps : d.loadChain decryptor (level :: ancestors) ps with
    | error e' =>
      obtain rfl : e' = e := by simpa [hps, Except.map] using h
      exact .inr ⟨level, rfl, hps⟩
    | ok more => simp [hps, Except.map] at h

end LoadChain

end Disk

end PropertyDocs
