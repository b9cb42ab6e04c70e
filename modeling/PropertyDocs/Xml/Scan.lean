import PropertyDocs.Text.Ranges

/-!
# Scanning XML

The characters of a document with the lines they stand on, and the scanners of the smallest parts.
A carriage return and line feed together are one line feed; a carriage return alone becomes a line
feed but does not begin a new line. A scan that fails says only where it stopped.
-/
namespace PropertyDocs.Xml

/-- A character and its line. -/
structure Placed where
  char : Char
  line : Nat
deriving DecidableEq, Repr

structure Input where
  rest : List Placed
  /-- The line on which the input ends. -/
  last : Nat
  /-- Whether the input ends because the document does, and not because of what follows. -/
  complete : Bool

/-- The document stops being well-formed on this line. -/
structure Malformed where
  line : Nat
deriving DecidableEq, Repr

/-! ## Characters -/

/-- The characters that a document may hold. -/
def isXmlChar (c : Char) : Bool :=
  c == '\t' || c == '\n' || c == '\r' || (0x20 ≤ c.toNat && c != '\ufffe' && c != '\uffff')

def isSpace (c : Char) : Bool := c == ' ' || c == '\t' || c == '\n' || c == '\r'

def nameStartRanges : List (Nat × Nat) :=
  [(0x41, 0x5a), (0x5f, 0x5f), (0x61, 0x7a), (0xc0, 0xd6), (0xd8, 0xf6), (0xf8, 0x2ff),
  (0x370, 0x37d), (0x37f, 0x1fff), (0x200c, 0x200d), (0x2070, 0x218f), (0x2c00, 0x2fef),
  (0x3001, 0xd7ff), (0xf900, 0xfdcf), (0xfdf0, 0xfffd), (0x10000, 0xeffff)]

def nameOnlyRanges : List (Nat × Nat) :=
  [(0x2d, 0x2e), (0x30, 0x39), (0xb7, 0xb7), (0x300, 0x36f), (0x203f, 0x2040)]

/-- A character that begins a name without a colon. -/
def isNameStart (c : Char) : Bool := Text.within nameStartRanges c.toNat

def isNameChar (c : Char) : Bool := isNameStart c || Text.within nameOnlyRanges c.toNat

/-- A name as it stands in a tag; the part before the colon is empty if there is none. -/
structure QName where
  space : String
  part : String
deriving DecidableEq, Repr

/-! ## Input -/

namespace Input

/-- Places the characters, the first on line `n`, up to one that no document may hold. -/
def placed (n : Nat) : List Char → List Placed × Nat × Bool
  | [] => ([], n, true)
  | '\r' :: '\n' :: cs => put n '\n' (placed (n + 1) cs)
  | c :: cs =>
    if c == '\n' then put n c (placed (n + 1) cs)
    else if c == '\r' then put n '\n' (placed n cs)
    else if isXmlChar c then put n c (placed n cs)
    else ([], n, false)
where
  put (n : Nat) (c : Char) (after : List Placed × Nat × Bool) : List Placed × Nat × Bool :=
    (⟨c, n⟩ :: after.1, after.2)

def ofChars (cs : List Char) : Input :=
  let (rest, last, complete) := placed 1 cs
  { rest, last, complete }

def line (i : Input) : Nat := (i.rest.head?.map (·.line)).getD i.last

end Input

/-! ## Scanners -/

abbrev Scan := StateT Input (Except Malformed)

namespace Scan

/-- Fails where the scan stands. -/
def stop {α : Type} : Scan α := do throw ⟨(← get).line⟩

def peek : Scan (Option Char) := do return (← get).rest.head?.map (·.char)

def pass (n : Nat) : Scan Unit := modify fun i => { i with rest := i.rest.drop n }

/-- The characters ahead, as far as `p` holds; they are passed. -/
def takeWhile (p : Char → Bool) : Scan (List Char) := do
  let i ← get
  let taken := i.rest.takeWhile fun x => p x.char
  set { i with rest := i.rest.drop taken.length }
  return taken.map (·.char)

/-- Whether the text is next. -/
def sees (text : List Char) : Scan Bool := do
  return text.isPrefixOf (((← get).rest.take text.length).map (·.char))

/-- Passes the text if it is next. -/
def accept (text : List Char) : Scan Bool := do
  if ← sees text then
    pass text.length
    return true
  else return false

def expect (text : List Char) : Scan Unit := do
  if ← accept text then return () else stop

def spaces : Scan Unit := do let _ ← takeWhile isSpace

/-- At least one space. -/
def someSpace : Scan Unit := do
  if (← takeWhile isSpace).isEmpty then stop else return ()

/-- The characters before the next occurrence of `stop` in `cs`, if there is one. -/
def before? (stop : List Char) : List Placed → Option (List Char)
  | [] => none
  | x :: xs =>
    if stop.isPrefixOf (((x :: xs).take stop.length).map (·.char)) then some []
    else (before? stop xs).map (x.char :: ·)

/-- Passes the text up to and with `terminator`, and gives what stood before it. -/
def upTo (terminator : List Char) : Scan (List Char) := do
  match before? terminator (← get).rest with
  | some cs =>
    pass (cs.length + terminator.length)
    return cs
  | none =>
    modify fun i => { i with rest := [] }
    stop

/-- A name without a colon. -/
def plainName : Scan (List Char) := do
  match ← peek with
  | some c => if isNameStart c then takeWhile isNameChar else stop
  | none => stop

/-- A name, in which colons mean nothing. -/
def name : Scan (List Char) := do
  match ← peek with
  | some c =>
    if c == ':' || isNameStart c then takeWhile fun c => c == ':' || isNameChar c else stop
  | none => stop

/-- A name with an optional part before a colon. -/
def qualifiedName : Scan QName := do
  let first ← plainName
  if ← accept [':'] then return ⟨String.ofList first, String.ofList (← plainName)⟩
  else return ⟨"", String.ofList first⟩

/-- A text between quotes of either kind, as it stands. -/
def literal : Scan (List Char) := do
  match ← peek with
  | some q =>
    if q == '"' || q == '\'' then
      pass 1
      upTo [q]
    else stop
  | none => stop

/-- The sign between a name and its value. -/
def equalsSign : Scan Unit := do
  spaces
  expect ['=']
  spaces

/-! ## The XML declaration -/

def isVersion (cs : List Char) : Bool :=
  "1.".toList.isPrefixOf cs && (cs.drop 2).all Char.isDigit

def isEncodingName : List Char → Bool
  | [] => false
  | c :: cs => c.isAlpha && cs.all fun c => c.isAlphanum || c == '.' || c == '_' || c == '-'

/-- One part of the declaration: its name, and a value that `accepts` agrees to. -/
def declared (name : String) (accepts : List Char → Bool) : Scan (List Char) := do
  expect name.toList
  equalsSign
  let value ← literal
  if accepts value then return value else stop

structure Declaration where
  /-- The name of the encoding, if the declaration has one. -/
  encoding : Option String
  standalone : Bool

def declaration : Scan Declaration := do
  expect "<?xml".toList
  someSpace
  let _ ← declared "version" isVersion
  let spaced := !(← takeWhile isSpace).isEmpty
  let encoding ←
    if spaced && (← sees "encoding".toList) then pure (some (← declared "encoding" isEncodingName))
    else pure none
  let spaced := (!(← takeWhile isSpace).isEmpty) || (spaced && encoding.isNone)
  let standalone ←
    if spaced && (← sees "standalone".toList) then
      declared "standalone" fun v => v == "yes".toList || v == "no".toList
    else pure []
  spaces
  expect "?>".toList
  return ⟨encoding.map String.ofList, standalone == "yes".toList⟩

/-- Whether the input begins with an XML declaration. -/
def seesDeclaration : Scan Bool := do
  let i ← get
  return "<?xml".toList.isPrefixOf ((i.rest.take 5).map (·.char)) &&
    (((i.rest[5]?).map fun x => isSpace x.char).getD false)

end Scan

end PropertyDocs.Xml
