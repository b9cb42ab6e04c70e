import PropertyDocs.Pattern.Regex

/-!
# Matching

A backtracking matcher in continuation style: `Regex.run r k c` is the first way, in order of
preference, to match `r` at the cursor `c` such that the continuation `k` accepts what follows. The
order of preference is that of the alternatives and of the greed of repetitions; a repetition is
not begun again at the place where its previous round began, and captures made on a way that fails
are forgotten with it.
-/
namespace PropertyDocs

/-- A place in a text, with the texts captured on the way to it. -/
structure Cursor where
  /-- The characters already passed, last one first. -/
  before : List Char
  rest : List Char
  /-- Captured texts by group, the latest capture first. -/
  captures : List (Nat × List Char)
deriving DecidableEq, Repr

namespace Cursor

def start (text : List Char) : Cursor := ⟨[], text, []⟩

/-- Passes one character that `p` accepts. -/
def step (p : Char → Bool) (k : Cursor → Option Cursor) (c : Cursor) : Option Cursor :=
  match c.rest with
  | [] => none
  | x :: rest => if p x then k { c with before := x :: c.before, rest } else none

/-- Moves back over `n` characters. -/
def back : Nat → Cursor → Option Cursor
  | 0, c => some c
  | n + 1, c =>
    match c.before with
    | [] => none
    | x :: before => back n { c with before, rest := x :: c.rest }

/-- The text from the cursor `first` up to `c`. -/
def since (first c : Cursor) : List Char := first.rest.take (first.rest.length - c.rest.length)

def capture (index : Nat) (first c : Cursor) : Cursor :=
  { c with captures := (index, first.since c) :: c.captures }

def captured? (c : Cursor) (index : Nat) : Option (List Char) := c.captures.lookup index

/-- Passes the characters of a text captured before, as far as `folding` tells them apart. -/
def follow (folding : Folding) : List Char → Cursor → Option Cursor
  | [], c => some c
  | x :: xs, c =>
    match c.rest with
    | [] => none
    | y :: rest =>
      if folding.lowered x == folding.lowered y
      then follow folding xs { c with before := y :: c.before, rest } else none

/-- Whether exactly one of the two neighbours is a word character; never so in the empty text. -/
def atBoundary (ascii : Bool) (c : Cursor) : Bool :=
  let isWord (cs : List Char) := (cs.head?.map fun x => CharClass.word.holds ascii x).getD false
  isWord c.before != isWord c.rest

end Cursor

/-- Whether the anchor holds at the cursor. -/
def Anchor.holds (c : Cursor) : Anchor → Bool
  | textStart => c.before.isEmpty
  | lineStart => c.before.isEmpty || c.before.head? == some '\n'
  | textEnd => c.rest.isEmpty
  | lineEnd => c.rest.isEmpty || c.rest.head? == some '\n'
  | lastLineEnd => c.rest.isEmpty || c.rest == ['\n']
  | wordBoundary ascii => c.atBoundary ascii
  | notWordBoundary ascii => !(c.before.isEmpty && c.rest.isEmpty) && !c.atBoundary ascii

/-! ## Repetition -/

/-- Matching of one expression: what may follow, and where to begin. -/
abbrev Matcher := (Cursor → Option Cursor) → Cursor → Option Cursor

namespace Matcher

/-- Exactly `n` rounds. -/
def exactly (m : Matcher) : Nat → Matcher
  | 0, k, c => k c
  | n + 1, k, c => m (exactly m n k) c

/-- One round fewer; `none` stands for any number. -/
def fewer (most : Option Nat) : Option Nat := most.map (· - 1)

/-- Whether another round may begin: some are left, and the last one did not begin here. -/
def mayBegin (most : Option Nat) (last : Option Nat) (c : Cursor) : Bool :=
  most != some 0 && last != some c.rest.length

/-- Rounds as many as possible. A round that does not begin where the last one did begins further
on, so `fuel` above the length of the rest is enough. -/
def greedily (m : Matcher) : (fuel : Nat) → (most last : Option Nat) → Matcher
  | 0, _, _, k, c => k c
  | fuel + 1, most, last, k, c =>
    if mayBegin most last c then
      match m (greedily m fuel (fewer most) (some c.rest.length) k) c with
      | some r => some r
      | none => k c
    else k c

/-- Rounds as few as possible. -/
def lazily (m : Matcher) : (fuel : Nat) → (most last : Option Nat) → Matcher
  | 0, _, _, k, c => k c
  | fuel + 1, most, last, k, c =>
    match k c with
    | some r => some r
    | none =>
      if mayBegin most last c then m (lazily m fuel (fewer most) (some c.rest.length) k) c
      else none

/-- Exactly `n` rounds, each settled before the next begins. -/
def settled (m : Matcher) : Nat → Cursor → Option Cursor
  | 0, c => some c
  | n + 1, c => (m some c).bind (settled m n)

/-- Rounds as many as possible, each settled before the next begins. -/
def settledGreedily (m : Matcher) : (fuel : Nat) → (most last : Option Nat) → Cursor → Cursor
  | 0, _, _, c => c
  | fuel + 1, most, last, c =>
    if mayBegin most last c then
      match m some c with
      | some c' => settledGreedily m fuel (fewer most) (some c.rest.length) c'
      | none => c
    else c

/-- From `least` to `most` rounds. -/
def rounds (m : Matcher) (least : Nat) (most : Option Nat) (greed : Greed) : Matcher :=
  let spare := most.map (· - least)
  match greed with
  | .greedy => fun k => exactly m least fun c => greedily m (c.rest.length + 1) spare none k c
  | .lazy => fun k => exactly m least fun c => lazily m (c.rest.length + 1) spare none k c
  | .possessive => fun k c =>
    (settled m least c).bind fun c => k (settledGreedily m (c.rest.length + 1) spare none c)

end Matcher

/-! ## Expressions -/

/-- The first way to match the expression at the cursor with a rest that the continuation accepts. -/
def Regex.run : Regex → Matcher
  | .empty, k, c => k c
  | .char code folding, k, c => c.step (fun x => (folding.mates x).contains code) k
  | .anyChar newline, k, c => c.step (fun x => newline || x != '\n') k
  | .set negated items folding ascii, k, c => c.step (setHolds negated items folding ascii) k
  | .anchor place, k, c => if place.holds c then k c else none
  | .seq a b, k, c => a.run (b.run k) c
  | .alt a b, k, c =>
    match a.run k c with
    | some r => some r
    | none => b.run k c
  | .group index r, k, c => r.run (fun c' => k (c.capture index c')) c
  | .repeated least most greed r, k, c => Matcher.rounds (r.run) least most greed k c
  | .atomic r, k, c => (r.run some c).bind k
  | .lookahead negated r, k, c =>
    match r.run some c with
    | some c' => if negated then none else k { c with captures := c'.captures }
    | none => if negated then k c else none
  | .lookbehind negated width r, k, c =>
    match (c.back width.least).bind (r.run some) with
    | some c' => if negated then none else k { c with captures := c'.captures }
    | none => if negated then k c else none
  | .reference index folding, k, c =>
    (c.captured? index).bind fun text => (c.follow folding text).bind k
  | .conditional index yes no, k, c =>
    if (c.captured? index).isSome then yes.run k c else no.run k c

/-- Matches a whole text; the result tells the captures. -/
def Regex.fullMatch? (r : Regex) (text : List Char) : Option Cursor :=
  r.run (fun c => if c.rest.isEmpty then some c else none) (Cursor.start text)

end PropertyDocs
