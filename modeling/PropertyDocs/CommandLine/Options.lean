/-!
# Options

Words that begin with a hyphen are options, until two hyphens alone end them. An option with a value
takes what is behind its equals sign or its letter, else the next word, whatever that begins with.
Options of one letter may share a hyphen.
-/
namespace PropertyDocs.CommandLine

inductive Switch where
  | settings
  | verbose
  | version
  | seed
  | environment
  | noEnvironment
  | format
  | folder
deriving DecidableEq, Repr

def Switch.hasValue : Switch → Bool
  | settings | seed | format | folder => true
  | verbose | version | environment | noEnvironment => false

/-- The names of the options that may be given. -/
abbrev Known := List (String × Switch)

/-- The options on a line with their values, and the words besides. -/
structure Arguments where
  options : List (Switch × String)
  words : List String
deriving DecidableEq, Repr

namespace Arguments

def withOptions (options : List (Switch × String)) (a : Arguments) : Arguments :=
  { a with options := options ++ a.options }

def withWord (word : String) (a : Arguments) : Arguments := { a with words := word :: a.words }

def has (a : Arguments) (s : Switch) : Bool := a.options.any fun o => o.1 == s

def values (a : Arguments) (s : Switch) : List String :=
  (a.options.filter fun o => o.1 == s).map (·.2)

/-- The value of an option; if it is repeated, the last counts. -/
def value? (a : Arguments) (s : Switch) : Option String := (a.values s).getLast?

/-- Whether the variables of the environment are asked for. -/
def inherits? (a : Arguments) : Option Bool :=
  (a.options.filterMap fun o =>
    match o.1 with
    | .environment => some true
    | .noEnvironment => some false
    | _ => none).getLast?

end Arguments

/-! ## Reading -/

/-- The options in a word, and the one whose value is the next word. -/
structure OptionWord where
  options : List (Switch × String)
  pending : Option Switch
deriving DecidableEq, Repr

/-- Options of one letter. -/
def letters? (known : Known) : List Char → Option OptionWord
  | [] => some ⟨[], none⟩
  | c :: cs =>
    match known.lookup (String.ofList ['-', c]) with
    | none => none
    | some s =>
      if s.hasValue then
        some (if cs.isEmpty then ⟨[], some s⟩ else ⟨[(s, String.ofList cs)], none⟩)
      else (letters? known cs).map fun w => { w with options := (s, "") :: w.options }

/-- An option of a whole name. Only one with a value may have an equals sign. -/
def named? (known : Known) (cs : List Char) : Option OptionWord :=
  match known.lookup (String.ofList (cs.takeWhile (· != '='))) with
  | none => none
  | some s =>
    match s.hasValue, cs.dropWhile (· != '=') with
    | true, [] => some ⟨[], some s⟩
    | true, _ :: value => some ⟨[(s, String.ofList value)], none⟩
    | false, [] => some ⟨[(s, "")], none⟩
    | false, _ :: _ => none

def isOption (word : String) : Bool :=
  match word.toList with
  | '-' :: _ :: _ => true
  | _ => false

def optionWord? (known : Known) (word : String) : Option OptionWord :=
  match word.toList with
  | '-' :: '-' :: _ => named? known word.toList
  | _ :: cs => letters? known cs
  | [] => none

/-- Reads a line of words. Options behind other words are read only if they may be `mixed`;
`pending` is the option whose value comes first. -/
def read? (known : Known) (mixed : Bool) : (pending : Option Switch) → List String →
    Option Arguments
  | none, [] => some ⟨[], []⟩
  | some _, [] => none
  | some s, word :: words => (read? known mixed none words).map (·.withOptions [(s, word)])
  | none, word :: words =>
    if word == "--" then some ⟨[], words⟩
    else if isOption word then
      match optionWord? known word with
      | none => none
      | some w => (read? known mixed w.pending words).map (·.withOptions w.options)
    else if mixed then (read? known mixed none words).map (·.withWord word)
    else some ⟨[], word :: words⟩

end PropertyDocs.CommandLine
