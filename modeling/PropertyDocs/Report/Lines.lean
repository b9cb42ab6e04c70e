import PropertyDocs.Text.Blank
import PropertyDocs.Text.Cells

/-!
# Lines of a given width

Texts are broken into lines between words. A word that is longer than a line is broken anywhere, or
cut short with an ellipsis at its end.
-/
namespace PropertyDocs.Report

open Text (cells cellsOf isBlank)

/-- What becomes of words that are longer than a line. -/
inductive Overflow where
  | fold
  | ellipsis
deriving DecidableEq, Repr

def blanks (n : Nat) : List Char := List.replicate n ' '

/-! ## Words -/

inductive Reading where
  | before | inside | after
deriving DecidableEq

/-- The words with the blanks after them; the first has those before it as well. `word` is what has
been read of a word, last character first. -/
def wordsFrom : Reading → (word : List Char) → List Char → List (List Char)
  | .before, _, [] => []
  | _, word, [] => [word.reverse]
  | .before, word, c :: cs => wordsFrom (if isBlank c then .before else .inside) (c :: word) cs
  | .inside, word, c :: cs => wordsFrom (if isBlank c then .after else .inside) (c :: word) cs
  | .after, word, c :: cs =>
    if isBlank c then wordsFrom .after (c :: word) cs
    else word.reverse :: wordsFrom .inside [c] cs

/-- The words of a line; a line of blanks alone has none. -/
def words (cs : List Char) : List (List Char) := wordsFrom .before [] cs

def dropBlankEnd (cs : List Char) : List Char := (cs.reverse.dropWhile isBlank).reverse

/-! ## Breaking lines -/

/-- Pieces of at most `width` cells; the first argument counts those of the piece begun. -/
def piecesFrom (width : Nat) : Nat → List Char → List (List Char)
  | _, [] => [[]]
  | used, c :: cs =>
    if width < used + cellsOf c then
      match piecesFrom width (cellsOf c) cs with
      | [] => [[], [c]]
      | piece :: rest => [] :: (c :: piece) :: rest
    else
      match piecesFrom width (used + cellsOf c) cs with
      | [] => [[c]]
      | piece :: rest => (c :: piece) :: rest

/-- Lines that are full, the last one first, and one that is being filled. -/
structure Filling where
  full : List (List Char)
  line : List Char
  /-- The cells from which the room for the next word is counted. -/
  used : Nat

namespace Filling

/-- Begins a line with `cs`, unless nothing has been read yet. -/
def newLine (f : Filling) (cs : List Char) : Filling :=
  if f.full.isEmpty && f.line.isEmpty then ⟨[], cs, cells cs⟩
  else ⟨f.line :: f.full, cs, cells cs⟩

def addWord (width : Nat) (overflow : Overflow) (f : Filling) (word : List Char) : Filling :=
  let size := cells (dropBlankEnd word)
  if f.used + size ≤ width then { f with line := f.line ++ word, used := f.used + cells word }
  else if width < size then
    match overflow with
    | .fold => (piecesFrom width 0 word).foldl newLine f
    | .ellipsis => f.newLine word
  else if f.used == 0 then { f with line := f.line ++ word }
  else f.newLine word

def lines (f : Filling) : List (List Char) := (f.line :: f.full).reverse

end Filling

/-- The lines of a text without line feeds. -/
def brokenLine (width : Nat) (overflow : Overflow) (cs : List Char) : List (List Char) :=
  match words cs with
  | [] => [cs]
  | ws => (ws.foldl (Filling.addWord width overflow) ⟨[], [], 0⟩).lines

/-! ## Fitting lines -/

/-- The text with every tab filled up to the next multiple of eight cells. -/
def expandedTabs (used : Nat) : List Char → List Char
  | [] => []
  | c :: cs =>
    if c == '\t' then
      let n := 8 - used % 8
      blanks n ++ expandedTabs (used + n) cs
    else c :: expandedTabs (used + cellsOf c) cs

/-- Drops blanks at the end as long as there are more characters than cells. -/
def dropExcess (width : Nat) (cs : List Char) : List Char :=
  let blankEnd := cs.length - (dropBlankEnd cs).length
  cs.take (cs.length - min blankEnd (cs.length - width))

/-- The beginning of the text that takes at most so many cells, filled up with blanks. -/
def cut : (room : Nat) → List Char → List Char
  | room, [] => blanks room
  | room, c :: cs => if cellsOf c ≤ room then c :: cut (room - cellsOf c) cs else blanks room

/-- A text that is too long is cut. -/
def truncated (width : Nat) (overflow : Overflow) (cs : List Char) : List Char :=
  if cells cs ≤ width then cs
  else match overflow with
    | .fold => cut width cs
    | .ellipsis => cut (width - 1) cs ++ ['…']

def leftAligned (width : Nat) (overflow : Overflow) (cs : List Char) : List Char :=
  let cs := truncated width overflow cs
  cs ++ blanks (width - cells cs)

def centered (width : Nat) (cs : List Char) : List Char :=
  let cs := truncated width .fold (dropBlankEnd cs)
  let cs := blanks ((width - cells cs) / 2) ++ cs
  cs ++ blanks (width - cells cs)

/-- The lines of a text, broken at line feeds and to fit the width. -/
def brokenLines (width : Nat) (overflow : Overflow) (cs : List Char) : List (List Char) :=
  (cs.splitOn '\n').flatMap fun line =>
    (brokenLine width overflow (expandedTabs 0 line)).map (dropExcess width)

end PropertyDocs.Report
