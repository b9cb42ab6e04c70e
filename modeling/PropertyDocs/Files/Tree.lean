import PropertyDocs.Files.Path
import PropertyDocs.Text.Quoted

/-!
# Files

A tree of folders and files, and a working folder that paths without an anchor start from. Nothing
is known of what lies above the top of the tree.
-/
namespace PropertyDocs

inductive FileTree where
  | file (bytes : List UInt8)
  | folder (entries : List (String × FileTree))
deriving Repr

/-- Why a file cannot be read. -/
inductive AccessError where
  | missing
  /-- The path leads through a file. -/
  | notFolder
  | isFolder
deriving DecidableEq, Repr

def AccessError.message (p : Path) (e : AccessError) : String :=
  let reason := match e with
    | missing => "[Errno 2] No such file or directory"
    | notFolder => "[Errno 20] Not a directory"
    | isFolder => "[Errno 21] Is a directory"
  reason ++ ": " ++ Text.quoted p.text

namespace FileTree

def isFolder : FileTree → Bool
  | folder _ => true
  | file _ => false

def entries : FileTree → List (String × FileTree)
  | folder es => es
  | file _ => []

/-- What a row of names leads to; `above` are the folders around, the nearest first. -/
def walk (above : List FileTree) : FileTree → List String → Except AccessError FileTree
  | t, [] => .ok t
  | file _, _ :: _ => .error .notFolder
  | folder es, name :: names =>
    if name == ".." then
      match above with
      | [] => walk [] (folder []) names
      | t :: above => walk above t names
    else
      match es.lookup name with
      | some t => walk (folder es :: above) t names
      | none => .error .missing

end FileTree

/-- The files that a program sees. -/
structure Disk where
  /-- The working folder. -/
  here : Path
  /-- What lies below the anchor of the working folder. -/
  top : FileTree
deriving Repr

namespace Disk

/-- What a path leads to. -/
def find (d : Disk) (p : Path) : Except AccessError FileTree :=
  let q := d.here.join p
  if q.anchor == d.here.anchor then FileTree.walk [] d.top q.parts else .error .missing

def contains (d : Disk) (p : Path) : Bool := (d.find p).isOk

def isFolder (d : Disk) (p : Path) : Bool :=
  match d.find p with
  | .ok t => t.isFolder
  | .error _ => false

def read (d : Disk) (p : Path) : Except AccessError (List UInt8) :=
  match d.find p with
  | .ok (.file bytes) => .ok bytes
  | .ok (.folder _) => .error .isFolder
  | .error e => .error e

/-- The folders in a folder, in the order in which it lists them. -/
def folders (d : Disk) (p : Path) : List String :=
  match d.find p with
  | .ok t => (t.entries.filter (·.2.isFolder)).map (·.1)
  | .error _ => []

end Disk

end PropertyDocs
