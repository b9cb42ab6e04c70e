import PropertyDocs.Files.Tree
import PropertyDocs.Masking
import PropertyDocs.Text.Blank
import PropertyDocs.Text.Utf8
import PropertyDocs.Toml.Document

/-!
# Settings

A TOML document sets where files are found, which of them are loaded, which keys are secret, and
whether the variables of the environment are seen. All that is wrong with it is reported together.
-/
namespace PropertyDocs

/-- `LoaderSettings`. -/
structure Settings where
  configFolder : Option Path
  files : List String
  markers : List String
  inheritEnvironment : Bool
deriving DecidableEq, Repr

namespace Settings

def standard : Settings := ⟨none, [], Masking.defaultMarkers, false⟩

/-- `resolve_config_dir`: the configuration folder, seen from `base`. -/
def configFolderFrom (s : Settings) (base : Path) : Option Path := s.configFolder.map base.join

/-! ## What may be wrong -/

inductive Flaw where
  | noPath
  | noList
  | noText
  | blankMarker
  | noBoolean
  | unreadableBoolean
  | unknown
deriving DecidableEq, Repr

/-- A flaw of a setting, or of one of its items. -/
structure Issue where
  key : String
  item : Option Nat
  flaw : Flaw
deriving DecidableEq, Repr

inductive Error where
  | unreadable (path : Path) (cause : AccessError)
  | notText (cause : Text.Utf8Error)
  | notToml (path : Path)
  | invalid (path : Path) (issues : List Issue)
deriving DecidableEq, Repr

/-- The message of an error, without what is wrong in the document itself. -/
def Error.message : Error → String
  | unreadable path cause => "Failed to load TOML from " ++ path.text ++ ": " ++ cause.message path
  | notText cause => cause.message
  | notToml path => "Failed to load TOML from " ++ path.text
  | invalid path _ => "Invalid settings in " ++ path.text

/-! ## Reading values -/

abbrev Checked := Except (List Issue)

def checkPath (key : String) : Toml.Value → Checked (Option Path)
  | .text s => .ok (some (.ofText s))
  | _ => .error [⟨key, none, .noPath⟩]

/-- The texts of a list, whose first item has number `i`. -/
def checkItems (key : String) (i : Nat) : List Toml.Value → Checked (List String)
  | [] => .ok []
  | .text s :: rest => (checkItems key (i + 1) rest).map (s :: ·)
  | _ :: rest =>
    let issue : Issue := ⟨key, some i, .noText⟩
    match checkItems key (i + 1) rest with
    | .ok _ => .error [issue]
    | .error issues => .error (issue :: issues)

def checkList (key : String) : Toml.Value → Checked (List String)
  | .array items => checkItems key 0 items
  | _ => .error [⟨key, none, .noList⟩]

/-- `_non_empty_markers`. -/
def checkMarkers (key : String) (v : Toml.Value) : Checked (List String) := do
  let markers ← checkList key v
  if markers.any (fun m => Text.trim m == "") then .error [⟨key, none, .blankMarker⟩]
  else .ok markers

def trueWords : List String := ["1", "on", "t", "true", "y", "yes"]

def falseWords : List String := ["0", "off", "f", "false", "n", "no"]

/-- Zero and one, and the words for them in any case, count as truth values. -/
def checkBoolean (key : String) (v : Toml.Value) : Checked Bool :=
  let fail (f : Flaw) : Checked Bool := .error [⟨key, none, f⟩]
  let limit : Int := 0x8000000000000000
  let ofInt (n : Int) : Checked Bool :=
    if n == 0 then .ok false
    else if n == 1 then .ok true
    else if -limit ≤ n && n < limit then fail .unreadableBoolean
    else fail .noBoolean
  match v with
  | .boolean b => .ok b
  | .text s =>
    let word := s.map Char.toLower
    if trueWords.contains word then .ok true
    else if falseWords.contains word then .ok false
    else fail .unreadableBoolean
  | .integer n => ofInt n
  | .real x =>
    match x.toInt? with
    | some n => ofInt n
    | none => fail .noBoolean
  | _ => fail .noBoolean

/-! ## Reading settings -/

/-- The value of a setting, or its standard value if it is not set. -/
def setting {α : Type} (entries : List (String × Toml.Value)) (key : String) (standard : α)
    (check : String → Toml.Value → Checked α) : Checked α :=
  match entries.lookup key with
  | some v => check key v
  | none => .ok standard

def keys : List String := ["config_dir", "files", "mask_keys", "inherit_environment"]

def issuesOf {α : Type} : Checked α → List Issue
  | .ok _ => []
  | .error issues => issues

/-- The settings that a table gives. -/
def ofEntries (entries : List (String × Toml.Value)) : Checked Settings :=
  let folder := setting entries "config_dir" none checkPath
  let files := setting entries "files" [] checkList
  let markers := setting entries "mask_keys" Masking.defaultMarkers checkMarkers
  let inherit := setting entries "inherit_environment" false checkBoolean
  let unknown := (entries.filter fun e => !keys.contains e.1).map fun e =>
    (⟨e.1, none, .unknown⟩ : Issue)
  match folder, files, markers, inherit, unknown with
  | .ok folder, .ok files, .ok markers, .ok inherit, [] =>
    .ok ⟨folder, files, markers, inherit⟩
  | folder, files, markers, inherit, unknown =>
    .error (issuesOf folder ++ issuesOf files ++ issuesOf markers ++ issuesOf inherit ++ unknown)

/-- The settings in the bytes of a file. -/
def ofBytes (p : Path) (bytes : List UInt8) : Except Error Settings := do
  let text ← (Text.decodeUtf8 bytes).mapError .notText
  match Toml.parse? text with
  | none => throw (.notToml p)
  | some entries => (ofEntries entries).mapError (.invalid p)

/-- `SETTINGS_FILE_NAME`: the file in the working folder that settings are read from. -/
def fileName : String := ".propsloader.toml"

/-- `load_settings`: the settings in a file; they are standard if it is missing. -/
def load (d : Disk) (p : Path) : Except Error Settings :=
  if d.contains p then
    match d.read p with
    | .ok bytes => ofBytes p bytes
    | .error e => .error (.unreadable p e)
  else .ok standard

end Settings

end PropertyDocs
