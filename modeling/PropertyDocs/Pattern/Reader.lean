import PropertyDocs.Pattern.Regex
import PropertyDocs.Pattern.Fault
import PropertyDocs.Text.Identifier
import PropertyDocs.Text.Names
import PropertyDocs.Text.Numeral

/-!
# Reading patterns

The grammar of pattern texts. A reader stands before a token, which is a character or a backslash
with the character after it; it fails as soon as it would stand before a backslash that ends the
text. Faults are reported at the first place where the text cannot be a pattern.
-/
namespace PropertyDocs

/-- The letters that may stand in a group of flags. -/
inductive PatternFlag where
  | ignoreCase
  | locale
  | multiLine
  | dotAll
  | verbose
  | ascii
  | unicode
  | template
deriving DecidableEq, Repr

namespace PatternFlag

def ofChar? : Char → Option PatternFlag
  | 'i' => some ignoreCase
  | 'L' => some locale
  | 'm' => some multiLine
  | 's' => some dotAll
  | 'x' => some verbose
  | 'a' => some ascii
  | 'u' => some unicode
  | 't' => some template
  | _ => none

/-- Flags that choose the kind of text; one excludes the others. -/
def isType : PatternFlag → Bool
  | ascii | locale | unicode => true
  | _ => false

end PatternFlag

namespace PatternReader

/-- The flags in force at a place. -/
abbrev Mode := List PatternFlag

namespace Mode

/-- The flags inside a group that turns some on and others off. -/
def within (mode : Mode) (on off : List PatternFlag) : Mode :=
  let kept := if on.any (·.isType) then mode.filter (! ·.isType) else mode
  (kept ++ on).filter (! off.contains ·)

def ascii (mode : Mode) : Bool := mode.contains .ascii

def folding (mode : Mode) : Folding :=
  if mode.contains .ignoreCase then (if mode.ascii then .ascii else .unicode) else .exact

end Mode

/-! ## The reader -/

structure State where
  rest : List Char
  /-- How many characters stand before `rest`. -/
  place : Nat
  flags : Mode
  /-- The widths of the groups so far, none while a group is open. -/
  groups : List (Option Width)
  names : List (String × Nat)
  /-- Inside a lookbehind, the number of the first group opened in it. -/
  lookbehind : Option Nat
  /-- Groups that conditions ask for by number, with the place of the first of them. -/
  conditions : List (Nat × Nat)

abbrev Read := StateT State (Except PatternError)

def failAt {α : Type} (cause : PatternFault) (place : Nat) : Read α :=
  throw (.fault cause (some place))

/-- Fails at the place `n` characters back. -/
def failBack {α : Type} (cause : PatternFault) (n : Nat) : Read α := do
  failAt cause ((← get).place - n)

def failHere {α : Type} (cause : PatternFault) : Read α := failBack cause 0

/-- Passes `n` characters. -/
def pass (n : Nat) : Read Unit := do
  let s ← get
  let rest := s.rest.drop n
  if rest == ['\\'] then failAt .trailingBackslash (s.place + n)
  else set { s with rest, place := s.place + n }

inductive Token where
  | plain (c : Char)
  | escaped (c : Char)
deriving DecidableEq

namespace Token

def text : Token → List Char
  | plain c => [c]
  | escaped c => ['\\', c]

def next? : List Char → Option Token
  | [] => none
  | '\\' :: c :: _ => some (escaped c)
  | c :: _ => some (plain c)

def flag? : Token → Option PatternFlag
  | plain c => PatternFlag.ofChar? c
  | escaped _ => none

def isLetter : Token → Bool
  | plain c => Text.isLetter c
  | escaped _ => false

end Token

def peek : Read (Option Token) := do return Token.next? (← get).rest

def take : Read (Option Token) := do
  match ← peek with
  | none => return none
  | some t =>
    pass t.text.length
    return some t

/-- Passes the character `c` if it is next. -/
def accept (c : Char) : Read Bool := do
  if (← peek) == some (.plain c) then
    pass 1
    return true
  else return false

/-- Passes at most `n` characters as long as `p` accepts them. -/
def takeUpTo (n : Nat) (p : Char → Bool) : Read (List Char) := do
  let taken := ((← get).rest.take n).takeWhile p
  pass taken.length
  return taken

/-- The characters before the first token `stop`, and whether there is one. -/
def upTo (stop : Char) : List Char → List Char × Bool
  | [] => ([], false)
  | ['\\'] => ([], false)
  | '\\' :: c :: cs =>
    let (name, found) := upTo stop cs
    ('\\' :: c :: name, found)
  | c :: cs =>
    if c == stop then ([], true)
    else
      let (name, found) := upTo stop cs
      (c :: name, found)

/-- Reads a name and the character that ends it. -/
def name (stop : Char) (what : String) : Read (List Char) := do
  match upTo stop (← get).rest with
  | (name, true) =>
    pass (name.length + 1)
    if name.isEmpty then failBack (.missingName what) 1 else return name
  | (name, false) =>
    pass name.length
    if name.isEmpty then failHere (.missingName what)
    else failBack (.unterminatedName stop) name.length

/-! ## Escapes -/

def isOctal (c : Char) : Bool := '0' ≤ c && c ≤ '7'

def isHex (c : Char) : Bool := c.isDigit || ('a' ≤ c && c ≤ 'f') || ('A' ≤ c && c ≤ 'F')

def hexValue (c : Char) : Nat :=
  if c.isDigit then c.toNat - 0x30 else c.toLower.toNat - 0x57

def valueIn (base : Nat) (digits : List Char) : Nat :=
  digits.foldl (fun n c => base * n + hexValue c) 0

def escapeText (cs : List Char) : String := String.ofList ('\\' :: cs)

/-- Escapes that stand for one character everywhere. -/
def controlEscape? : Char → Option Nat
  | 'a' => some 7
  | 'b' => some 8
  | 'f' => some 12
  | 'n' => some 10
  | 'r' => some 13
  | 't' => some 9
  | 'v' => some 11
  | '\\' => some 92
  | _ => none

def classEscape? : Char → Option (CharClass × Bool)
  | 'd' => some (.digit, false)
  | 'D' => some (.digit, true)
  | 's' => some (.blank, false)
  | 'S' => some (.blank, true)
  | 'w' => some (.word, false)
  | 'W' => some (.word, true)
  | _ => none

/-- The code that is written with `count` hexadecimal digits. One beyond all characters is a fault
of the text only if it fits into 31 bits. -/
def hexEscape (letter : Char) (count : Nat) : Read Nat := do
  let digits ← takeUpTo count isHex
  let escape := escapeText (letter :: digits)
  if digits.length != count then failBack (.incompleteEscape escape) (2 + digits.length)
  else
    let code := valueIn 16 digits
    if 0x80000000 ≤ code then throw .codeTooLarge
    else if 0x10ffff < code then failBack (.badEscape escape) (2 + count)
    else return code

def namedEscape : Read Nat := do
  if ← accept '{' then
    let name ← name '}' "character name"
    match Text.named? (String.ofList name) with
    | some code => return code
    | none => failBack (.undefinedCharacter (String.ofList name)) (name.length + 4)
  else failHere .missingBrace

def octalCode (digits : List Char) : Read Nat := do
  let code := valueIn 8 digits
  if 0o377 < code then failBack (.octalTooLarge (escapeText digits)) (1 + digits.length)
  else return code

/-- What the character after a backslash means when it is no digit and names no class. -/
def codeEscape (c : Char) : Read Nat := do
  match c with
  | 'x' => hexEscape c 2
  | 'u' => hexEscape c 4
  | 'U' => hexEscape c 8
  | 'N' => namedEscape
  | _ =>
    match controlEscape? c with
    | some code => return code
    | none => if c.isAlpha then failBack (.badEscape (escapeText [c])) 2 else return c.toNat

/-- The escape `c` in a bracketed set. -/
def setEscape (c : Char) : Read SetItem := do
  match classEscape? c with
  | some (name, negated) => return .charClass name negated
  | none =>
    if isOctal c then return .single (← octalCode (c :: (← takeUpTo 2 isOctal)))
    else if c.isDigit then failBack (.badEscape (escapeText [c])) 2
    else return .single (← codeEscape c)

def isClosed (s : State) (group : Nat) : Bool :=
  ((s.groups[group - 1]?).bind id).isSome

/-- A group defined in the lookbehind that surrounds the place cannot be referred to. -/
def checkLookbehind (group : Nat) : Read Unit := do
  let s ← get
  match s.lookbehind with
  | none => return ()
  | some first =>
    if !isClosed s group then failHere .openGroupReference
    else if first ≤ group then failHere .sameLookbehindReference
    else return ()

/-- A reference to a group, written in `length` characters that have been passed. -/
def groupReference (mode : Mode) (group length : Nat) : Read Regex := do
  if !isClosed (← get) group then failBack .openGroupReference length
  else
    checkLookbehind group
    return .reference group mode.folding

/-- An escape that begins with a digit other than zero: three octal digits, else a group. -/
def digitEscape (mode : Mode) (c : Char) : Read Regex := do
  let tens ← takeUpTo 1 Char.isDigit
  let units ← if isOctal c && !tens.isEmpty && tens.all isOctal then takeUpTo 1 isOctal else pure []
  if !units.isEmpty then return .char (← octalCode (c :: tens ++ units)) mode.folding
  else
    let group := valueIn 10 (c :: tens)
    if group ≤ (← get).groups.length then groupReference mode group (2 + tens.length)
    else failBack (.invalidReference group) (1 + tens.length)

/-- The escape `c` outside a set. -/
def escape (mode : Mode) (c : Char) : Read Regex := do
  match c with
  | 'A' => return .anchor .textStart
  | 'Z' => return .anchor .textEnd
  | 'b' => return .anchor (.wordBoundary mode.ascii)
  | 'B' => return .anchor (.notWordBoundary mode.ascii)
  | '0' => return .char (valueIn 8 (c :: (← takeUpTo 2 isOctal))) mode.folding
  | _ =>
    match classEscape? c with
    | some (name, negated) =>
      return .set false [.charClass name negated] mode.folding mode.ascii
    | none =>
      if c.isDigit then digitEscape mode c else return .char (← codeEscape c) mode.folding

/-! ## Sets -/

/-- The member that a token of a set begins. -/
def setItem : Token → Read SetItem
  | .plain c => return .single c.toNat
  | .escaped c => setEscape c

def rangeOf (first last : Token) : SetItem → SetItem → Read SetItem
  | .single a, .single b =>
    if b < a then bad else return .range a b
  | _, _ => bad
where
  bad : Read SetItem :=
    failBack (.badRange (String.ofList first.text) (String.ofList last.text))
      (first.text.length + 1 + last.text.length)

/-- Reads the members up to the closing bracket; `start` is the place of the opening one. -/
def setItems (start : Nat) : (fuel : Nat) → List SetItem → Read (List SetItem)
  | 0, _ => failAt .unterminatedSet start
  | fuel + 1, items => do
    match ← take with
    | none => failAt .unterminatedSet start
    | some first =>
      if first == .plain ']' && !items.isEmpty then return items.reverse
      else
        let item ← setItem first
        if ← accept '-' then
          match ← take with
          | none => failAt .unterminatedSet start
          | some (.plain ']') => return (.single '-'.toNat :: item :: items).reverse
          | some last =>
            let range ← rangeOf first last item (← setItem last)
            setItems start fuel (range :: items)
        else setItems start fuel (item :: items)

/-- The members of a set, each once. A character that is the only one stands for all its cases if
case is ignored, as it does outside a set. -/
def setMembers (items : List SetItem) : List SetItem :=
  match items.eraseDups with
  | [.single code] => [.range code code]
  | members => members

/-- The set whose opening bracket has been passed. -/
def bracketed (mode : Mode) : Read Regex := do
  let start := (← get).place - 1
  let negated ← accept '^'
  let items ← setItems start ((← get).rest.length + 1) []
  return .set negated (setMembers items) mode.folding mode.ascii

/-! ## Repetition -/

/-- What a repetition may be put after. -/
inductive PieceKind where
  | plain
  | anchor
  | repetition
deriving DecidableEq

/-- A part of a sequence. -/
structure Piece where
  kind : PieceKind
  regex : Regex

/-- Counts from here on are too large to be stored. -/
def countLimit : Nat := 4294967295

def count? (digits : List Char) : Read (Option Nat) := do
  if digits.isEmpty then return none
  else if Text.numeralLimit < digits.length then throw (.countTooLong digits.length)
  else
    let n := valueIn 10 digits
    if countLimit ≤ n then throw .repetitionTooLarge else return some n

/-- The counts of a repetition in braces, whose opening brace has been passed; none if the brace
stands for itself. -/
def braces : Read (Option (Nat × Option Nat)) := do
  let s ← get
  if (← peek) == some (.plain '}') then return none
  else
    let least ← takeUpTo s.rest.length Char.isDigit
    let range ← accept ','
    let most ← if range then takeUpTo s.rest.length Char.isDigit else pure least
    if ← accept '}' then
      let low := (← count? least).getD 0
      let high ← count? most
      if (high.map fun n => decide (n < low)).getD false then failAt .reversedCounts s.place
      else return some (low, high)
    else
      set s
      return none

/-- The counts that the character `c` asks for; none if it stands for itself. -/
def counts (c : Char) : Read (Option (Nat × Option Nat)) := do
  match c with
  | '?' => return some (0, some 1)
  | '*' => return some (0, none)
  | '+' => return some (1, none)
  | _ => braces

def greed : Read Greed := do
  if ← accept '?' then return .lazy
  else if ← accept '+' then return .possessive
  else return .greedy

/-- Repeats the last of `pieces`; `start` is the place of the repetition. -/
def repeatLast (start least : Nat) (most : Option Nat) : List Piece → Read (List Piece)
  | ⟨.plain, body⟩ :: pieces => do
    return ⟨.repetition, .repeated least most (← greed) body⟩ :: pieces
  | ⟨.repetition, _⟩ :: _ => failAt .multipleRepeat start
  | _ => failAt .nothingToRepeat start

/-! ## Groups -/

def unknownOr (cause : PatternFault) (t : Token) : PatternFault :=
  if t.isLetter then .unknownFlag else cause

/-- Reads flags to turn on, of which `flag` is the first, and the token after them. -/
def flagsOn : (fuel : Nat) → PatternFlag → List PatternFlag → Read (List PatternFlag × Token)
  | 0, _, _ => failHere .missingFlagsEnd
  | fuel + 1, flag, on => do
    if flag == .locale then failHere .localeFlag
    else if flag.isType && on.any (fun f => f.isType && f != flag) then
      failHere .incompatibleFlags
    else
      match ← take with
      | none => failHere .missingFlagsEnd
      | some t =>
        if t == .plain ')' || t == .plain '-' || t == .plain ':' then return (flag :: on, t)
        else match t.flag? with
          | some flag' => flagsOn fuel flag' (flag :: on)
          | none => failBack (unknownOr .missingFlagsEnd t) t.text.length

/-- Reads flags to turn off, of which `flag` is the first, and the colon after them. -/
def flagsOff : (fuel : Nat) → PatternFlag → List PatternFlag → Read (List PatternFlag)
  | 0, _, _ => failHere .missingColon
  | fuel + 1, flag, off => do
    if flag.isType then failHere .typeFlagOff
    else
      match ← take with
      | none => failHere .missingColon
      | some (.plain ':') => return flag :: off
      | some t => match t.flag? with
        | some flag' => flagsOff fuel flag' (flag :: off)
        | none => failBack (unknownOr .missingColon t) t.text.length

/-- A group of flags, of which `t` is the first token: flags for the whole pattern (none), or those
to turn on and off inside the group. -/
def flagGroup (t : Token) : Read (Option (List PatternFlag × List PatternFlag)) := do
  let fuel := (← get).rest.length + 1
  let (on, stop) ← match t.flag? with
    | some flag => flagsOn fuel flag []
    | none => pure ([], t)
  if stop == .plain ')' then
    modify fun s => { s with flags := s.flags ++ on }
    return none
  else if on.contains .template then failBack .globalFlagOn 1
  else
    let off ← if stop == .plain '-' then
        match ← take with
        | none => failHere .missingFlag
        | some t => match t.flag? with
          | some flag => flagsOff fuel flag []
          | none => failBack (unknownOr .missingFlag t) t.text.length
      else pure []
    if off.contains .template then failBack .globalFlagOff 1
    else if on.any (off.contains ·) then failBack .contradictoryFlags 1
    else return some (on, off)

/-- A name that a group may have. -/
def identifier (stop : Char) : Read String := do
  let name ← name stop "group name"
  if Text.isIdentifier name then return String.ofList name
  else failBack (.badNameCharacter (String.ofList name)) (name.length + 1)

/-- The group of a name, written in the characters before the one just passed. -/
def groupOf (name : String) : Read Nat := do
  match (← get).names.lookup name with
  | some group => return group
  | none => failBack (.unknownGroupName name) (name.length + 1)

def namedReference (mode : Mode) : Read Regex := do
  let name ← identifier ')'
  groupReference mode (← groupOf name) (name.length + 1)

/-- Group numbers from here on cannot be asked for. -/
def groupLimit : Nat := 1073741823

/-- The group that a condition asks for, by name or by number. -/
def condition : Read Nat := do
  let name ← name ')' "group name"
  let text := String.ofList name
  let fault (cause : PatternFault) : Read Nat := failBack cause (name.length + 1)
  if Text.isIdentifier name then groupOf text
  else match Text.integer? name with
    | some (.ofNat 0) => fault .badGroupNumber
    | some (.ofNat group) =>
      if groupLimit ≤ group then fault (.invalidReference group)
      else
        modify fun s =>
          if (s.conditions.lookup group).isSome then s
          else { s with conditions := s.conditions ++ [(group, s.place - name.length - 1)] }
        return group
    | _ => fault (.badNameCharacter text)

/-- Opens the next group, under a name if it has one. -/
def openGroup (name : Option String) : Read Nat := do
  let s ← get
  let group := s.groups.length + 1
  match name with
  | none =>
    set { s with groups := s.groups ++ [none] }
    return group
  | some name =>
    match s.names.lookup name with
    | some earlier => failBack (.redefinedGroup name group earlier) (name.length + 1)
    | none =>
      set { s with groups := s.groups ++ [none], names := (name, group) :: s.names }
      return group

def widthOf (s : State) (group : Nat) : Width :=
  ((s.groups[group - 1]?).bind id).getD Width.zero

def closeGroup (group : Nat) (body : Regex) : Read Unit :=
  modify fun s => { s with groups := s.groups.set (group - 1) (some (body.width (widthOf s))) }

/-- What an opening parenthesis and the characters after it begin. -/
inductive Opening where
  | capturing (name : Option String)
  | scope (on off : List PatternFlag)
  | atomic
  | look (ahead negated : Bool)
  | condition
  /-- A part that is complete: a reference, or nothing. -/
  | done (regex : Option Regex)
  | globalFlags

/-- Reads on after `(?<`. -/
def lookbehindOpening : Read Opening := do
  match ← take with
  | none => failHere .unexpectedEnd
  | some (.plain '=') => return .look false false
  | some (.plain '!') => return .look false true
  | some t => failBack (.unknownExtension (String.ofList ('<' :: t.text))) (t.text.length + 2)

/-- Reads on after `(?P`. -/
def namedOpening (mode : Mode) : Read Opening := do
  if ← accept '<' then return .capturing (some (← identifier '>'))
  else if ← accept '=' then return .done (some (← namedReference mode))
  else match ← take with
    | none => failHere .unexpectedEnd
    | some t => failBack (.unknownExtension (String.ofList ('P' :: t.text))) (t.text.length + 2)

/-- Passes a comment that began with the parenthesis at `start`. -/
def comment (start : Nat) : Read Unit := do
  match upTo ')' (← get).rest with
  | (text, true) => pass (text.length + 1)
  | (text, false) =>
    pass text.length
    failAt .unterminatedComment start

/-- Reads on after the opening parenthesis at `start`. -/
def opening (mode : Mode) (start : Nat) : Read Opening := do
  if ← accept '?' then
    match ← take with
    | none => failHere .unexpectedEnd
    | some t =>
      match t with
      | .plain 'P' => namedOpening mode
      | .plain ':' => return .scope [] []
      | .plain '#' =>
        comment start
        return .done none
      | .plain '=' => return .look true false
      | .plain '!' => return .look true true
      | .plain '<' => lookbehindOpening
      | .plain '(' => return .condition
      | .plain '>' => return .atomic
      | _ =>
        if t.flag?.isSome || t == .plain '-' then
          match ← flagGroup t with
          | none => return .globalFlags
          | some (on, off) => return .scope on off
        else failBack (.unknownExtension (String.ofList t.text)) (t.text.length + 1)
  else return .capturing none

/-- The closing parenthesis of what was opened at `start`. -/
def close (start : Nat) : Read Unit := do
  if ← accept ')' then return () else failAt .unterminatedGroup start

/-! ## Sequences and alternatives -/

def isVerboseBlank (c : Char) : Bool := CharClass.asciiBlank c

/-- How many characters a comment takes up, to the end of its line. -/
def commentLength : List Char → Nat
  | [] => 0
  | ['\\'] => 0
  | '\\' :: _ :: cs => 2 + commentLength cs
  | '\n' :: _ => 1
  | _ :: cs => 1 + commentLength cs

def pieceKind : Regex → PieceKind
  | .anchor _ => .anchor
  | _ => .plain

/-- The sequence of the pieces read, which are given last one first. -/
def finish (pieces : List Piece) : Regex := Regex.sequence (pieces.reverse.map (·.regex))

mutual

/-- Reads alternatives. At the top, flags for the whole pattern may begin the first of them. -/
def branches (fuel : Nat) (mode : Mode) (top : Bool) : Read Regex := do
  match fuel with
  | 0 => failHere .unexpectedEnd
  | fuel + 1 =>
    let first ← pieces fuel mode top []
    if ← accept '|' then
      let flags := (← get).flags
      return .alt first (← branches fuel (if top then flags else mode) false)
    else return first

/-- Reads a sequence of pieces; those read before are given last one first. -/
def pieces (fuel : Nat) (mode : Mode) (first : Bool) (done : List Piece) : Read Regex := do
  match fuel with
  | 0 => failHere .unexpectedEnd
  | fuel + 1 =>
    let add (r : Regex) : Read Regex := pieces fuel mode first (⟨pieceKind r, r⟩ :: done)
    match ← peek with
    | none => return finish done
    | some (.escaped c) =>
      pass 2
      add (← escape mode c)
    | some (.plain c) =>
      if c == '|' || c == ')' then return finish done
      else
        pass 1
        if mode.contains .verbose && isVerboseBlank c then pieces fuel mode first done
        else if mode.contains .verbose && c == '#' then
          pass (commentLength (← get).rest)
          pieces fuel mode first done
        else match c with
          | '[' => add (← bracketed mode)
          | '.' => add (.anyChar (mode.contains .dotAll))
          | '^' => add (.anchor (if mode.contains .multiLine then .lineStart else .textStart))
          | '$' => add (.anchor (if mode.contains .multiLine then .lineEnd else .lastLineEnd))
          | '(' => parenthesis fuel mode first done
          | _ =>
            if c == '*' || c == '+' || c == '?' || c == '{' then
              let start := (← get).place - 1
              match ← counts c with
              | none => add (.char c.toNat mode.folding)
              | some (least, most) => pieces fuel mode first (← repeatLast start least most done)
            else add (.char c.toNat mode.folding)

/-- Reads on after an opening parenthesis in a sequence. -/
def parenthesis (fuel : Nat) (mode : Mode) (first : Bool) (done : List Piece) : Read Regex := do
  match fuel with
  | 0 => failHere .unexpectedEnd
  | fuel + 1 =>
    let start := (← get).place - 1
    let add (r : Regex) : Read Regex := pieces fuel mode first (⟨.plain, r⟩ :: done)
    match ← opening mode start with
    | .done none => pieces fuel mode first done
    | .done (some r) => add r
    | .globalFlags =>
      let flags := (← get).flags
      if first && done.isEmpty then pieces fuel flags first done
      else failAt .lateGlobalFlags start
    | .capturing name =>
      let group ← openGroup name
      let body ← branches fuel mode false
      close start
      closeGroup group body
      add (.group group body)
    | .scope on off =>
      let body ← branches fuel (mode.within on off) false
      close start
      add body
    | .atomic =>
      let body ← branches fuel mode false
      close start
      add (.atomic body)
    | .look true negated =>
      let body ← branches fuel mode false
      close start
      add (.lookahead negated body)
    | .look false negated =>
      let outer := (← get).lookbehind
      modify fun s => { s with lookbehind := some (outer.getD (s.groups.length + 1)) }
      let body ← branches fuel mode false
      modify fun s => { s with lookbehind := outer }
      close start
      add (.lookbehind negated (body.width (widthOf (← get))) body)
    | .condition =>
      let group ← condition
      checkLookbehind group
      let yes ← pieces fuel mode false []
      let no ← if ← accept '|' then
          let no ← pieces fuel mode false []
          if (← peek) == some (.plain '|') then failHere .tooManyBranches
          pure no
        else pure .empty
      close start
      add (.conditional group yes no)

end

/-- Reads a whole pattern. -/
def whole : Read Regex := do
  pass 0
  let s ← get
  let r ← branches (3 * s.rest.length + 3) s.flags true
  let s ← get
  if s.flags.contains .ascii && s.flags.contains .unicode then throw .conflictingTypes
  else if !s.rest.isEmpty then failHere .unbalancedParenthesis
  else match s.conditions.find? (s.groups.length < ·.1) with
    | some (group, place) => failAt (.invalidReference group) place
    | none => return r

end PatternReader

namespace Regex

/-! ## What no single place is to blame for -/

/-- Widths from here on cannot be looked back over. -/
def lookbehindLimit : Nat := 0x100000000

/-- The first fault of the expression as a whole: a lookbehind that has no one width, or is too
wide, or a repetition where the template flag forbids it. -/
def defect? (template : Bool) : Regex → Option PatternFault
  | .seq a b | .alt a b | .conditional _ a b =>
    match a.defect? template with
    | some cause => some cause
    | none => b.defect? template
  | .group _ r | .atomic r | .lookahead _ r => r.defect? template
  | .lookbehind _ width r =>
    if lookbehindLimit ≤ width.least then some .lookbehindTooFar
    else if width.least != width.most then some .variableLookbehind
    else r.defect? template
  | .repeated _ _ greed r =>
    if template then
      some (.templateOperator (match greed with
        | .greedy => "MAX_REPEAT"
        | .lazy => "MIN_REPEAT"
        | .possessive => "POSSESSIVE_REPEAT"))
    else r.defect? template
  | _ => none

end Regex

end PropertyDocs
