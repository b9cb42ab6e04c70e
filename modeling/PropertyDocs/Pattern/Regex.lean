import PropertyDocs.Text.Case
import PropertyDocs.Text.Letters
import PropertyDocs.Text.Blank

/-!
# Regular expressions

The tree that a pattern text stands for. Every node carries what the flags in force at its place
decide: how letter case is ignored, whether the character classes are those of ASCII, what the dot
and the anchors mean. Characters are code points, since a pattern may name one that no text holds.
-/
namespace PropertyDocs

/-- How a node treats letter case. -/
inductive Folding where
  | exact
  | ascii
  | unicode
deriving DecidableEq, Repr

/-- The classes `\d`, `\s` and `\w`. -/
inductive CharClass where
  | digit
  | blank
  | word
deriving DecidableEq, Repr

/-- A member of a bracketed set. -/
inductive SetItem where
  | single (code : Nat)
  | range (first last : Nat)
  | charClass (name : CharClass) (negated : Bool)
deriving DecidableEq, Repr

/-- Conditions on a place of the text. -/
inductive Anchor where
  | textStart
  | lineStart
  | textEnd
  | lineEnd
  /-- The end of the text, or the place before a line feed that ends it. -/
  | lastLineEnd
  | wordBoundary (ascii : Bool)
  | notWordBoundary (ascii : Bool)
deriving DecidableEq, Repr

/-- How a repetition chooses its count. -/
inductive Greed where
  | greedy
  | lazy
  | possessive
deriving DecidableEq, Repr

/-- Least and greatest number of characters that an expression takes up. -/
structure Width where
  least : Nat
  most : Nat
deriving DecidableEq, Repr

inductive Regex where
  | empty
  | char (code : Nat) (folding : Folding)
  | anyChar (newline : Bool)
  | set (negated : Bool) (items : List SetItem) (folding : Folding) (ascii : Bool)
  | anchor (place : Anchor)
  | seq (first second : Regex)
  | alt (first second : Regex)
  | group (index : Nat) (body : Regex)
  | repeated (least : Nat) (most : Option Nat) (greed : Greed) (body : Regex)
  | atomic (body : Regex)
  | lookahead (negated : Bool) (body : Regex)
  | lookbehind (negated : Bool) (width : Width) (body : Regex)
  | reference (index : Nat) (folding : Folding)
  | conditional (index : Nat) (yes no : Regex)
deriving Repr

namespace CharClass

def asciiBlank (c : Char) : Bool := c == ' ' || (0x9 ≤ c.toNat && c.toNat ≤ 0xd)

def asciiWord (c : Char) : Bool := c == '_' || c.isAlphanum

/-- Whether `c` belongs to the class. -/
def holds (ascii : Bool) (c : Char) : CharClass → Bool
  | digit => if ascii then c.isDigit else Text.isDecimal c
  | blank => if ascii then asciiBlank c else Text.isBlank c
  | word => if ascii then asciiWord c else Text.isWordChar c

end CharClass

namespace Folding

/-- The code points that count as equal to `c`. -/
def mates (c : Char) : Folding → List Nat
  | exact => [c.toNat]
  | ascii => if c.isAlpha then [c.toLower.toNat, c.toUpper.toNat] else [c.toNat]
  | unicode => Text.caseMates c

/-- The one character that stands for all that a reference to a group does not tell apart. -/
def lowered (c : Char) : Folding → Char
  | exact => c
  | ascii => c.toLower
  | unicode => Text.lowerChar c

end Folding

namespace SetItem

/-- Whether a member of a set holds `c`. A single character beyond the first 65536 is compared with
the lower-case form of `c` alone. -/
def holds (folding : Folding) (ascii : Bool) (c : Char) : SetItem → Bool
  | single code =>
    if 0x10000 ≤ code then code == (folding.lowered c).toNat else (folding.mates c).contains code
  | range first last => (folding.mates c).any fun n => first ≤ n && n ≤ last
  | charClass name negated => name.holds ascii c != negated

end SetItem

namespace Regex

/-- Whether a bracketed set holds `c`. -/
def setHolds (negated : Bool) (items : List SetItem) (folding : Folding) (ascii : Bool)
    (c : Char) : Bool :=
  items.any (·.holds folding ascii c) != negated

/-- The expressions of a list, one after another. -/
def sequence : List Regex → Regex
  | [] => .empty
  | [r] => r
  | r :: rs => .seq r (sequence rs)

end Regex

/-! ## Widths -/

namespace Width

/-- Widths are counted up to this bound, which stands for "any number". -/
def unbounded : Nat := 0x10000000000000000

def zero : Width := ⟨0, 0⟩

def one : Width := ⟨1, 1⟩

def capped (w : Width) : Width := ⟨min w.least unbounded, min w.most unbounded⟩

def add (a b : Width) : Width := capped ⟨a.least + b.least, a.most + b.most⟩

def either (a b : Width) : Width := ⟨min a.least b.least, max a.most b.most⟩

def times (w : Width) (least : Nat) (most : Option Nat) : Width :=
  capped ⟨w.least * least,
    match most with
    | some n => w.most * n
    | none => if w.most == 0 then 0 else unbounded⟩

end Width

/-- The width of an expression; `groups` tells the width of a group that is referred to. -/
def Regex.width (groups : Nat → Width) : Regex → Width
  | .empty | .anchor _ | .lookahead _ _ | .lookbehind _ _ _ => Width.zero
  | .char _ _ | .anyChar _ | .set _ _ _ _ => Width.one
  | .seq a b => (a.width groups).add (b.width groups)
  | .alt a b => (a.width groups).either (b.width groups)
  | .group _ r | .atomic r => r.width groups
  | .repeated least most _ r => (r.width groups).times least most
  | .reference i _ => groups i
  | .conditional _ yes no => (yes.width groups).either (no.width groups)

end PropertyDocs
