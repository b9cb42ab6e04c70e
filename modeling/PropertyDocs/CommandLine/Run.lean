import PropertyDocs.CommandLine.Commands
import PropertyDocs.CommandLine.Options

/-!
# Command lines

A line holds common options, the name of a command, and the options and words of the command. The
settings are read before the words of the command are, and are the defaults of its options.
-/
namespace PropertyDocs.CommandLine

def versionLine : String := "propsloader 0.3.0\n"

inductive Command where
  | showFiles
  | checkFiles
  | resolveFile
deriving DecidableEq, Repr

def Command.ofName? (name : String) : Option Command :=
  [("show", showFiles), ("check", checkFiles), ("resolve", resolveFile)].lookup name

/-- The options before the command. -/
def commonOptions : Known :=
  [("--settings", .settings), ("--verbose", .verbose), ("-v", .verbose), ("--version", .version)]

def Command.options : Command → Known
  | showFiles =>
    [("--set", .seed), ("--env", .environment), ("--no-env", .noEnvironment),
      ("--format", .format), ("-f", .format)]
  | checkFiles => []
  | resolveFile =>
    [("--config-dir", .folder), ("--set", .seed), ("--format", .format), ("-f", .format)]

/-! ## Values of options -/

/-- A key and a value with an equals sign between them, as `parse_assignments` takes them. -/
def seed? (text : String) : Option (String × String) :=
  let cs := text.toList
  match cs.takeWhile (· != '='), cs.dropWhile (· != '=') with
  | [], _ => none
  | _, [] => none
  | key, _ :: value => some (String.ofList key, String.ofList value)

/-- `_check_format`. -/
def format? (a : Arguments) : Option Report.Format :=
  Report.Format.ofName? ((a.value? .format).getD "plain")

/-- Whether a text is the name of a file. No file's name ends in a slash or in a point alone. -/
def namesFile (d : Disk) (text : String) : Bool :=
  let last := ((Path.pieces text.toList).getLast?).getD []
  let p := Path.ofText text
  last != [] && last != ['.'] && d.contains p && !d.isFolder p

/-- The files that settings name, as `resolve_files` gives them. -/
def configuredFiles (d : Disk) (s : Settings) : List Path :=
  let folder := (s.configFolderFrom d.here).getD d.here
  s.files.map fun name => folder.join (.ofText name)

/-! ## Commands -/

def runShow (d : Disk) (environment : Level) (s : Settings) (a : Arguments) : Answer :=
  match format? a with
  | none => .usage
  | some format =>
    let files := if a.words.isEmpty then configuredFiles d s else a.words.map Path.ofText
    if files.isEmpty then .error 2 "no files given and none configured in settings"
    else
      match (a.values .seed).mapM seed? with
      | none => .usage
      | some seeds =>
        let inherits := a.inherits?.getD s.inheritEnvironment
        showFiles d s.markers format (ancestors inherits environment seeds) files

def runCheck (d : Disk) (a : Arguments) : Answer :=
  if a.words.isEmpty then .usage else checkFiles d (a.words.map Path.ofText)

def runResolve (d : Disk) (environment : Level) (s : Settings) (a : Arguments) : Answer :=
  match a.words, format? a, (a.values .seed).mapM seed? with
  | [name], some format, some seeds =>
    let folder := match a.value? .folder with
      | some text => .ofText text
      | none => (s.configFolderFrom d.here).getD (.ofText "config")
    resolveFile d s.markers format (ancestors s.inheritEnvironment environment seeds) folder name
  | _, _, _ => .usage

def Command.run (d : Disk) (environment : Level) (s : Settings) (a : Arguments) :
    Command → Answer
  | showFiles => runShow d environment s a
  | checkFiles => runCheck d a
  | resolveFile => runResolve d environment s a

/-! ## Lines -/

def Answer.ofSettingsError : Settings.Error → Answer
  | .notText e => failed (.notText e)
  | e => error 2 e.message

/-- The file that settings are read from. -/
def settingsPath (d : Disk) (a : Arguments) : Path :=
  match a.value? .settings with
  | some text => .ofText text
  | none => d.here.child Settings.fileName

/-- A whole line: the common options (`_init`), then the command. -/
def run (d : Disk) (environment : Level) (line : List String) : Answer :=
  match read? commonOptions false none line with
  | none => .usage
  | some common =>
    if common.has .version then ⟨versionLine, "", .exit 0⟩
    else if (common.value? .settings).any fun text => !namesFile d text then .usage
    else
      match common.words with
      | [] => .usage
      | name :: words =>
        match Command.ofName? name with
        | none => .usage
        | some command =>
          match Settings.load d (settingsPath d common) with
          | .error e => .ofSettingsError e
          | .ok settings =>
            match read? command.options true none words with
            | none => .usage
            | some a => command.run d environment settings a

end PropertyDocs.CommandLine
