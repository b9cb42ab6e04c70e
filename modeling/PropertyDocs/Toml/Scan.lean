import PropertyDocs.Toml.Value

/-!
# Scanning TOML

Keys, strings, numbers, moments of time, arrays and inline tables. A scan that fails says no more
than that the text is no TOML.
-/
namespace PropertyDocs.Toml

abbrev Scan := StateT (List Char) Option

namespace Scan

def stop {α : Type} : Scan α := fun _ => none

def peek : Scan (Option Char) := do return (← get).head?

def pass (n : Nat) : Scan Unit := modify (·.drop n)

def takeWhile (p : Char → Bool) : Scan (List Char) := do
  let cs ← get
  set (cs.dropWhile p)
  return cs.takeWhile p

def sees (text : List Char) : Scan Bool := do return text.isPrefixOf (← get)

def accept (text : List Char) : Scan Bool := do
  if ← sees text then
    pass text.length
    return true
  else return false

def expect (text : List Char) : Scan Unit := do
  if ← accept text then return () else stop

/-! ## Blanks and comments -/

def isBlank (c : Char) : Bool := c == ' ' || c == '\t'

/-- The characters that may stand in a comment or a string of one line. -/
def isLegal (c : Char) : Bool := c == '\t' || (' ' ≤ c && c != '\x7f')

def blanks : Scan Unit := do let _ ← takeWhile isBlank

def comment : Scan Unit := do
  if ← accept ['#'] then
    let _ ← takeWhile isLegal
    match ← peek with
    | some '\n' => return ()
    | some _ => stop
    | none => return ()

/-- Blanks, line ends and comments. -/
def blankLines : Nat → Scan Unit
  | 0 => return ()
  | fuel + 1 => do
    let _ ← takeWhile fun c => isBlank c || c == '\n'
    if ← sees ['#'] then
      comment
      blankLines fuel

/-! ## Strings -/

def hexValue (c : Char) : Nat :=
  if c.isDigit then c.toNat - 0x30 else c.toLower.toNat - 0x57

def isHex (c : Char) : Bool := c.isDigit || ('a' ≤ c.toLower && c.toLower ≤ 'f')

/-- A character by its number in so many digits. -/
def code (width : Nat) : Scan Char := do
  let digits := (← get).take width
  pass width
  let n := digits.foldl (fun n c => 16 * n + hexValue c) 0
  if digits.length == width && digits.all isHex && n.isValidChar then return Char.ofNat n else stop

/-- What a backslash and the characters after it stand for. -/
def escape (manyLines : Bool) : Scan (List Char) := do
  match ← peek with
  | none => stop
  | some c =>
    if manyLines && (isBlank c || c == '\n') then
      blanks
      match ← peek with
      | none => return []
      | some c =>
        if c != '\n' then stop
        let _ ← takeWhile fun c => isBlank c || c == '\n'
        return []
    else
      pass 1
      match c with
      | 'b' => return ['\x08']
      | 't' => return ['\t']
      | 'n' => return ['\n']
      | 'f' => return ['\x0c']
      | 'r' => return ['\r']
      | '"' => return ['"']
      | '\\' => return ['\\']
      | 'u' => return [← code 4]
      | 'U' => return [← code 8]
      | _ => stop

/-- The rest of a string with escapes. -/
def escapedText (manyLines : Bool) : Nat → Scan (List Char)
  | 0 => stop
  | fuel + 1 => do
    match ← peek with
    | none => stop
    | some c =>
      if c == '\\' then
        pass 1
        let cs ← escape manyLines
        return cs ++ (← escapedText manyLines fuel)
      else if c == '"' then
        if !manyLines then
          pass 1
          return []
        else if ← accept "\"\"\"".toList then return []
        else
          pass 1
          return '"' :: (← escapedText manyLines fuel)
      else if isLegal c || (manyLines && c == '\n') then
        pass 1
        return c :: (← escapedText manyLines fuel)
      else stop

/-- The rest of a string without escapes. -/
def literalText (manyLines : Bool) : Nat → Scan (List Char)
  | 0 => stop
  | fuel + 1 => do
    if ← accept (if manyLines then ['\'', '\'', '\''] else ['\'']) then return []
    match ← peek with
    | none => stop
    | some c =>
      if isLegal c || (manyLines && c == '\n') then
        pass 1
        return c :: (← literalText manyLines fuel)
      else stop

/-- Up to two quotes that stand in front of those that end a string. -/
def extraQuotes (quote : Char) : Scan (List Char) := do
  if ← accept [quote, quote] then return [quote, quote]
  else if ← accept [quote] then return [quote]
  else return []

/-- A string on one line. -/
def shortString (quote : Char) : Scan String := do
  pass 1
  let n := (← get).length + 1
  let cs ← if quote == '"' then escapedText false n else literalText false n
  return String.ofList cs

/-- A string on any number of lines; a line end right after the quotes does not belong to it. -/
def longString (quote : Char) : Scan String := do
  pass 3
  let _ ← accept ['\n']
  let n := (← get).length + 1
  let cs ← if quote == '"' then escapedText true n else literalText true n
  return String.ofList (cs ++ (← extraQuotes quote))

/-! ## Keys -/

def isBare (c : Char) : Bool := c.isAlphanum || c == '-' || c == '_'

def keyPart : Scan String := do
  match ← peek with
  | none => stop
  | some c =>
    if isBare c then return String.ofList (← takeWhile isBare)
    else if c == '"' || c == '\'' then shortString c
    else stop

/-- The parts of a dotted key. -/
def key : Nat → Scan (List String)
  | 0 => stop
  | fuel + 1 => do
    let part ← keyPart
    blanks
    if ← accept ['.'] then
      blanks
      return part :: (← key fuel)
    else return [part]

/-! ## Moments of time -/

/-- So many digits, as a number. -/
def number (width : Nat) : Scan Nat := do
  let digits := (← get).take width
  pass width
  if digits.length == width && digits.all Char.isDigit then
    return digits.foldl (fun n c => 10 * n + hexValue c) 0
  else stop

def hourAndMinute : Scan Unit := do
  let hour ← number 2
  expect [':']
  let minute ← number 2
  if 23 < hour || 59 < minute then stop

def time : Scan Unit := do
  hourAndMinute
  expect [':']
  if 59 < (← number 2) then stop
  match ← get with
  | '.' :: c :: _ =>
    if c.isDigit then
      pass 1
      let _ ← takeWhile Char.isDigit
  | _ => return ()

/-- What a scan finds, if it does not fail; else nothing is passed. -/
def attempt {α : Type} (p : Scan α) : Scan (Option α) := fun cs =>
  match p cs with
  | some (a, rest) => some (some a, rest)
  | none => some (none, cs)

def offset : Scan Unit := do
  if (← accept ['Z']) || (← accept ['z']) then return ()
  else if (← accept ['+']) || (← accept ['-']) then hourAndMinute
  else stop

def timeOfDay : Scan Unit := do
  if (← accept ['T']) || (← accept ['t']) || (← accept [' ']) then
    time
    let _ ← attempt offset
  else stop

/-- The year, month and day of a date, each in its range. -/
def date : Scan (Nat × Nat × Nat) := do
  let year ← number 4
  expect ['-']
  let month ← number 2
  expect ['-']
  let day ← number 2
  if month < 1 || 12 < month || day < 1 || 31 < day then stop
  return (year, month, day)

def daysIn (year month : Nat) : Nat :=
  if month == 2 then
    if year % 4 == 0 && (year % 100 != 0 || year % 400 == 0) then 29 else 28
  else if month == 4 || month == 6 || month == 9 || month == 11 then 30
  else 31

/-- A date, a time, or both; a date that no calendar has ends the scan. -/
def moment? : Scan (Option Value) := do
  match ← attempt date with
  | some (year, month, day) =>
    let _ ← attempt timeOfDay
    if year == 0 || daysIn year month < day then stop
    return some .moment
  | none => return (← attempt time).map fun _ => .moment

/-! ## Numbers -/

/-- Digits with single underscores between them, as far as they go. -/
def digitRow (isDigit : Char → Bool) : List Char → List Char × List Char
  | [] => ([], [])
  | [c] => if isDigit c then ([c], []) else ([], [c])
  | '_' :: c :: cs =>
    if isDigit c then (c :: (digitRow isDigit cs).1, (digitRow isDigit cs).2) else ([], '_' :: c :: cs)
  | c :: cs =>
    if isDigit c then (c :: (digitRow isDigit cs).1, (digitRow isDigit cs).2) else ([], c :: cs)

/-- At least one digit. -/
def digits (isDigit : Char → Bool) : Scan (List Char) := do
  match ← get with
  | [] => stop
  | c :: cs =>
    if isDigit c then
      let (row, rest) := digitRow isDigit cs
      set rest
      return c :: row
    else stop

def valueOf (base : Nat) (cs : List Char) : Nat := cs.foldl (fun n c => base * n + hexValue c) 0

/-- An integer with a letter for its base. -/
def based (letter : Char) (base : Nat) : Scan Value := do
  expect ['0', letter]
  let row ← digits fun c => isHex c && hexValue c < base
  return .integer (valueOf base row)

/-- The places after the point. -/
def places : Scan (List Char) := do
  expect ['.']
  digits Char.isDigit

def sign : Scan Bool := do
  if ← accept ['-'] then return true
  else
    let _ ← accept ['+']
    return false

def exponent : Scan Int := do
  if (← accept ['e']) || (← accept ['E']) then
    let negative ← sign
    let e : Int := valueOf 10 (← digits Char.isDigit)
    return if negative then -e else e
  else stop

def wholePart : Scan (List Char) := do
  if ← accept ['0'] then return ['0'] else digits Char.isDigit

def decimal : Scan Value := do
  let negative ← sign
  let whole ← wholePart
  let fraction ← attempt places
  let e ← attempt exponent
  let n := valueOf 10 (whole ++ fraction.getD [])
  if fraction.isNone && e.isNone then return .integer (if negative then -n else n)
  else
    return .real (.ofDecimal negative n (e.getD 0 - ((fraction.getD []).length : Int)))

def special : Scan Value := do
  let negative ← sign
  if ← accept "inf".toList then return .real (.infinite negative)
  else
    expect "nan".toList
    return .real .nan

/-- A value without parts. -/
def scalar : Scan Value := do
  match ← moment? with
  | some v => return v
  | none =>
    let found ← [based 'x' 16, based 'b' 2, based 'o' 8, decimal, special].findSomeM? attempt
    match found with
    | some v => return v
    | none => stop

/-! ## Values -/

mutual

def value : Nat → Scan Value
  | 0 => stop
  | fuel + 1 => do
    match ← get with
    | '"' :: '"' :: '"' :: _ => return .text (← longString '"')
    | '"' :: _ => return .text (← shortString '"')
    | '\'' :: '\'' :: '\'' :: _ => return .text (← longString '\'')
    | '\'' :: _ => return .text (← shortString '\'')
    | '[' :: _ =>
      pass 1
      blankLines fuel
      return .array (← items fuel)
    | '{' :: _ =>
      pass 1
      blanks
      if ← accept ['}'] then return .table []
      else return .table (values (← pairs fuel []))
    | _ =>
      if ← accept "true".toList then return .boolean true
      else if ← accept "false".toList then return .boolean false
      else scalar

/-- The items of an array up to its end; a comma may follow the last. -/
def items : Nat → Scan (List Value)
  | 0 => stop
  | fuel + 1 => do
    if ← accept [']'] then return []
    else
      let v ← value fuel
      blankLines fuel
      if ← accept [','] then
        blankLines fuel
        return v :: (← items fuel)
      else
        expect [']']
        return [v]

/-- The pairs of an inline table up to its end. -/
def pairs : Nat → Entries → Scan Entries
  | 0, _ => stop
  | fuel + 1, es => do
    let k ← key fuel
    expect ['=']
    blanks
    let v ← value fuel
    match Entries.define v k es with
    | none => stop
    | some es =>
      blanks
      if ← accept [','] then
        blanks
        pairs fuel es
      else
        expect ['}']
        return es

end

end Scan

end PropertyDocs.Toml
