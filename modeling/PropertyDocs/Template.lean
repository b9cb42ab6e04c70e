/-!
# Templates

A template is literal text with references to variables. Its text form writes a reference as
`${name}`; a backslash makes the character after it literal, except that the letters `t`, `r`,
`n` and `f` after it stand for tab, carriage return, line feed and form feed.
-/
namespace PropertyDocs

/-- A literal, and then each variable with the literal after it. -/
structure Template where
  first : String
  rest : List (String × String)
deriving DecidableEq, Repr

inductive TemplateError where
  | trailingBackslash
  | unclosedReference
deriving DecidableEq, Repr

def TemplateError.message : TemplateError → String
  | trailingBackslash => "Template with trailing unescaped backslash"
  | unclosedReference =>
    "Unclosed variable expansion after '$\x7b', expected '\x7d'"

/-- Literals and variables that do not alternate. -/
structure UnevenParts where
deriving DecidableEq, Repr

def UnevenParts.message (_ : UnevenParts) : String :=
  "Template requires exactly one more literal than variables"

namespace Template

def literals (t : Template) : List String := t.first :: t.rest.map (·.2)

/-- The names of the variables. -/
def names (t : Template) : List String := t.rest.map (·.1)

/-- The template of the given literals and names of variables; there has to be one literal more
(`__post_init__`). -/
def ofParts : (literals names : List String) → Except UnevenParts Template
  | [], _ => .error {}
  | first :: literals, names =>
    if literals.length = names.length then .ok ⟨first, names.zip literals⟩ else .error {}

/-- `is_constant`. -/
def isConstant (t : Template) : Bool := t.rest.isEmpty

/-- `Template.expand`: the text with every reference replaced by the value of its variable. -/
def expand (t : Template) (value : String → String) : String :=
  t.rest.foldl (fun text part => text ++ value part.1 ++ part.2) t.first

/-! ## Reading -/

/-- What stands at one place of a template text. -/
inductive Piece where
  | char (c : Char)
  | reference (name : List Char)
deriving DecidableEq, Repr

/-- The character that `c` stands for after a backslash (`_ESCAPES`). -/
def unescaped : Char → Char
  | 't' => '\t'
  | 'r' => '\r'
  | 'n' => '\n'
  | 'f' => '\x0c'
  | c => c

/-- Reads pieces (`_read_until`, for either delimiter); inside a reference the first argument holds
the name so far, last character first. -/
def pieces : Option (List Char) → List Char → Except TemplateError (List Piece)
  | none, [] => .ok []
  | some _, [] => .error .unclosedReference
  | _, ['\\'] => .error .trailingBackslash
  | none, '\\' :: c :: cs => return .char (unescaped c) :: (← pieces none cs)
  | some name, '\\' :: c :: cs => pieces (some (unescaped c :: name)) cs
  | none, '$' :: '{' :: cs => pieces (some []) cs
  | none, c :: cs => return .char c :: (← pieces none cs)
  | some name, '}' :: cs => return .reference name.reverse :: (← pieces none cs)
  | some name, c :: cs => pieces (some (c :: name)) cs

/-- The literal before the first reference, and each reference with the literal after it. -/
def parts : List Piece → List Char × List (List Char × List Char)
  | [] => ([], [])
  | .char c :: ps => ((c :: (parts ps).1), (parts ps).2)
  | .reference name :: ps => ([], (name, (parts ps).1) :: (parts ps).2)

def ofPieces (ps : List Piece) : Template :=
  let (first, rest) := parts ps
  ⟨String.ofList first, rest.map fun part => (String.ofList part.1, String.ofList part.2)⟩

/-- `compile_template`. -/
def compile (text : String) : Except TemplateError Template :=
  (pieces none text.toList).map ofPieces

/-! ## Writing -/

/-- A character of a literal (`_escape`), written so that it reads back as itself. -/
def escaped (c : Char) : List Char :=
  if c = '\\' then ['\\', '\\']
  else if c = '$' then ['\\', '$']
  else if c = '\t' then ['\\', 't']
  else if c = '\r' then ['\\', 'r']
  else if c = '\n' then ['\\', 'n']
  else if c = '\x0c' then ['\\', 'f']
  else [c]

/-- A character of a name. -/
def escapedInName (c : Char) : List Char := if c = '}' then ['\\', '}'] else escaped c

def writtenReference (name : String) : List Char :=
  '$' :: '{' :: name.toList.flatMap escapedInName ++ ['}']

/-- `__str__`: the text form of a template. -/
def text (t : Template) : String :=
  String.ofList (t.first.toList.flatMap escaped ++
    t.rest.flatMap fun part => writtenReference part.1 ++ part.2.toList.flatMap escaped)

end Template

end PropertyDocs
