import PropertyDocs.CommandLine.Run
import PropertyDocs.Environment

/-!
# Program

Runs a command line. The files that it may name are looked up first, in the working folder, in the
folders that it names, and in their subfolders; the command then works on what was found.
-/
namespace PropertyDocs.Program

/-! ## Files -/

/-- The names of a path without double points. -/
def resolved (parts : List String) : List String :=
  parts.foldl (fun names name => if name == ".." then names.dropLast else names ++ [name]) []

/-- The tree with a file or folder put at a row of names. A folder that is there already stays. -/
def put : FileTree → List String → FileTree → FileTree
  | t, [], new => if t.isFolder && new.isFolder then t else new
  | t, name :: names, new =>
    let inner := (t.entries.lookup name).getD (.folder [])
    .folder ((t.entries.filter fun e => e.1 != name) ++ [(name, put inner names new)])

/-- What is found at a place, folders without their entries. -/
def lookAt (text : String) : IO (Option FileTree) := do
  let place := (← IO.currentDir) / text
  if ← place.isDir then return some (.folder [])
  else if ← place.pathExists then return some (.file (← IO.FS.readBinFile place).toList)
  else return none

/-- The names in a folder. -/
def namesIn (text : String) : IO (List String) := do
  let place := (← IO.currentDir) / text
  if ← place.isDir then return ((← place.readDir).map (·.fileName)).toList
  else return []

/-- Looks up a path and the folders that it leads through. -/
def lookUp (tree : FileTree) (p : Path) : IO FileTree := do
  let prefixes := (List.range (p.parts.length + 1)).map fun n => p.parts.take n
  prefixes.foldlM (fun tree parts => do
    match ← lookAt (Path.text ⟨p.anchor, parts⟩) with
    | some found => return put tree (resolved parts) found
    | none => return tree) tree

/-- The part of a tree that texts name, as paths or as names in the folders among them. -/
def lookUpAll (here : Path) (texts : List String) : IO FileTree := do
  let named := texts.map fun t => here.join (.ofText t)
  let inner ← named.mapM fun p => return (← namesIn p.text).map p.child
  let folders := named ++ inner.flatten
  let files := folders.flatMap fun f => texts.flatMap fun t =>
    let p := f.join (.ofText t)
    [p, p.withSuffix ".properties"]
  (named ++ inner.flatten ++ files).foldlM lookUp (.folder [])

/-- The texts on a line that may name files. -/
def mentioned (line : List String) : List String :=
  line ++ line.map (fun t => String.ofList ((t.toList.dropWhile (· != '=')).drop 1)) ++
    ["", "config", Settings.fileName]

/-- The texts in settings that name files. -/
def configured (d : Disk) (line : List String) : List String :=
  (mentioned line).flatMap fun t =>
    match Settings.load d (.ofText t) with
    | .ok s => s.files ++ (s.configFolder.map (·.text)).toList
    | .error _ => []

def lookUpLine (line : List String) : IO Disk := do
  let here := Path.ofText (← IO.currentDir).toString
  let first : Disk := ⟨here, ← lookUpAll here (mentioned line)⟩
  return ⟨here, ← lookUpAll here (mentioned line ++ configured first line)⟩

/-! ## Environment -/

/-- The texts between zero bytes. -/
def texts (bytes : ByteArray) : List String :=
  (bytes.toList.splitOnP (· == 0)).filterMap fun b => String.fromUTF8? b.toByteArray

/-- The name and the value of a variable. -/
def pairOf (text : String) : String × String :=
  let cs := text.toList
  (String.ofList (cs.takeWhile (· != '=')), String.ofList ((cs.dropWhile (· != '=')).drop 1))

def environment : IO Level := do
  let bytes ← IO.FS.readBinFile "/proc/self/environ"
  let host ← IO.FS.readFile "/proc/sys/kernel/hostname"
  return Environment.level (Text.trim host)
    (((texts bytes).map pairOf).filter fun v => v.1 != "")

/-! ## Output -/

def usageLine : String := "Usage: propsloader [OPTIONS] COMMAND [ARGS]...\n"

/-- What is written about the end of a run. -/
def note : CommandLine.Ending → String
  | .exit _ => ""
  | .usage => usageLine
  | .failure e => "Error: " ++ e.message ++ "\n"

end PropertyDocs.Program

open PropertyDocs in
def main (line : List String) : IO UInt32 := do
  let disk ← Program.lookUpLine line
  let answer := CommandLine.run disk (← Program.environment) line
  IO.print answer.out
  IO.eprint (answer.err ++ Program.note answer.ending)
  return UInt32.ofNat answer.ending.code
