import PropertyDocs.Text.CodePoint
import PropertyDocs.Text.Quoted

/-!
# The flat format

A flat document has one entry on each logical line: a key, a separator and a value, with nothing
expanded. A line that ends in an odd number of backslashes goes on with the next one; comments and
empty lines stand between logical lines.
-/
namespace PropertyDocs.FlatFormat

/-! ## Lines -/

/-- The lines of a text (`_LINE_BREAK`); a carriage return, a line feed, and the two together end a
line. -/
def naturalLines : List Char → List (List Char)
  | [] => [[]]
  | '\r' :: '\n' :: cs => [] :: naturalLines cs
  | c :: cs =>
    if c == '\r' || c == '\n' then [] :: naturalLines cs
    else match naturalLines cs with
      | [] => [[c]]
      | line :: lines => (c :: line) :: lines

/-- Blanks within a line (`_WHITESPACE`). -/
def isBlank (c : Char) : Bool := c == ' ' || c == '\t' || c == '\x0c'

def isComment (line : List Char) : Bool :=
  match line with
  | [] => true
  | c :: _ => c == '#' || c == '!'

/-- Whether the line ends in an odd number of backslashes (`_continues`). -/
def continues (line : List Char) : Bool := (line.reverse.takeWhile (· == '\\')).length % 2 == 1

/-- The logical lines (`_logical_lines`); the first argument holds the beginning of one that goes
on. -/
def logicalLines : Option (List Char) → List (List Char) → List (List Char)
  | none, [] => []
  | some begun, [] => [begun]
  | none, line :: lines =>
    let line := line.dropWhile isBlank
    if isComment line then logicalLines none lines
    else if continues line then logicalLines (some line.dropLast) lines
    else line :: logicalLines none lines
  | some begun, line :: lines =>
    let line := begun ++ line.dropWhile isBlank
    if continues line then logicalLines (some line.dropLast) lines
    else line :: logicalLines none lines

/-! ## Entries -/

def isSign (c : Char) : Bool := c == '=' || c == ':'

/-- The key as it stands, and what follows it (the scan for `key_end` in `_split_entry`). -/
def splitKey : List Char → List Char × List Char
  | [] => ([], [])
  | ['\\'] => (['\\'], [])
  | '\\' :: c :: cs => ('\\' :: c :: (splitKey cs).1, (splitKey cs).2)
  | c :: cs =>
    if isSign c || isBlank c then ([], c :: cs) else (c :: (splitKey cs).1, (splitKey cs).2)

/-- What follows one sign, if there is one. -/
def dropSign : List Char → List Char
  | [] => []
  | c :: cs => if isSign c then cs else c :: cs

/-- `_split_entry`: the key and the value as they stand, with one sign or blanks between them. -/
def splitEntry (line : List Char) : List Char × List Char :=
  let (key, rest) := splitKey line
  (key, (dropSign (rest.dropWhile isBlank)).dropWhile isBlank)

/-! ## Escapes -/

/-- A text whose code escapes are not all of four digits. -/
structure MalformedEscape where
  text : String
deriving DecidableEq, Repr

def MalformedEscape.message (e : MalformedEscape) : String :=
  "Malformed \\uxxxx encoding: " ++ Text.quoted e.text

def hexValue? (c : Char) : Option Nat :=
  if c.isDigit then some (c.toNat - 0x30)
  else if 'a' ≤ c && c ≤ 'f' then some (c.toNat - 0x57)
  else if 'A' ≤ c && c ≤ 'F' then some (c.toNat - 0x37)
  else none

/-- The code point of four hexadecimal digits, which may be half a surrogate pair. -/
def codePoint? (digits : List Char) : Option CodePoint := do
  let values ← digits.mapM hexValue?
  return .ofNat (values.foldl (fun n d => 16 * n + d) 0)

/-- The character that a letter stands for after a backslash (`_PROPERTY_ESCAPES`). -/
def letterEscape : Char → Char
  | 't' => '\t'
  | 'n' => '\n'
  | 'r' => '\r'
  | 'f' => '\x0c'
  | c => c

/-- Resolves escapes, if all of them are right; a backslash at the end stays. -/
def unescape? : List Char → Option CodePoints
  | [] => some []
  | ['\\'] => some [.char '\\']
  | '\\' :: 'u' :: a :: b :: c :: d :: cs => do
    let u ← codePoint? [a, b, c, d]
    let rest ← unescape? cs
    return u :: rest
  | '\\' :: c :: cs =>
    if c == 'u' then none else (unescape? cs).map (.char (letterEscape c) :: ·)
  | c :: cs => (unescape? cs).map (.char c :: ·)

/-- `_unescape`; the error quotes the key or the value as it stands. -/
def unescape (cs : List Char) : Except MalformedEscape CodePoints :=
  match unescape? cs with
  | some text => .ok text
  | none => .error ⟨String.ofList cs⟩

/-! ## Documents -/

def entry (line : List Char) : Except MalformedEscape (CodePoints × CodePoints) := do
  let (key, value) := splitEntry line
  return (← unescape key, ← unescape value)

/-- The entries up to the first malformed one, and what is wrong with that. -/
def entriesOf : List (List Char) → List (CodePoints × CodePoints) × Option MalformedEscape
  | [] => ([], none)
  | line :: lines =>
    match entry line with
    | .ok e => (e :: (entriesOf lines).1, (entriesOf lines).2)
    | .error e => ([], some e)

/-- `iter_properties`: the entries of a document, and the error that ends them. -/
def entries (text : String) : List (CodePoints × CodePoints) × Option MalformedEscape :=
  entriesOf (logicalLines none (naturalLines text.toList))

end PropertyDocs.FlatFormat
