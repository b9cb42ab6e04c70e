import PropertyDocs.Report.Lines
import PropertyDocs.Report.Markup

/-!
# Table reports

Keys and values in a box of two columns under a centered title. The columns are as wide as their
widest texts; where a line has no room for both, the wider one is made narrower.
-/
namespace PropertyDocs.Report

/-- The cells of a line. -/
def lineWidth : Nat := 80

/-! ## Columns -/

/-- Characters that end a line where texts are measured. -/
def endsLine (c : Char) : Bool :=
  c == '\n' || ('\x1c' ≤ c && c ≤ '\x1e') || c == '\x85' || c == '\u2028' || c == '\u2029'

/-- The cells of the longest line. -/
def measured (cs : List Char) : Nat := ((cs.splitOnP endsLine).map Text.cells).foldl max 0

/-- The width of a column with a blank on either side of its texts. -/
def columnWidth (room : Nat) (texts : List (List Char)) : Nat :=
  (texts.map fun cs => min (measured cs + 2) room).foldl max 0

/-- Half of a number, rounded to the even one of two. -/
def halved (n : Nat) : Nat := if n % 4 == 3 then n / 2 + 1 else n / 2

/-- Makes two columns fit into the room. The wider one gives way down to the other's width, and what
is still missing is shared. -/
def collapsed (room a b : Nat) : Nat × Nat :=
  let excess := a + b - room
  let reduce := min excess (max a b - min a b)
  let (a, b) := if a < b then (a, b - reduce) else (a - reduce, b)
  let rest := a + b - room
  (a - halved rest, b - (rest - halved rest))

/-! ## Box -/

def rule (left middle right line : Char) (a b : Nat) : List Char :=
  left :: List.replicate a line ++ middle :: List.replicate b line ++ [right]

/-- The lines of a text between blanks in a column. -/
def columnLines (width : Nat) (cs : List Char) : List (List Char) :=
  (brokenLines (width - 2) .ellipsis cs).map fun line =>
    ' ' :: leftAligned (width - 2) .ellipsis line ++ [' ']

/-- The lines of a row, with `bar` between its columns and around them. -/
def row (bar : Char) (a b : Nat) (key value : List Char) : List (List Char) :=
  let keys := columnLines a key
  let values := columnLines b value
  (List.range (max keys.length values.length)).map fun i =>
    bar :: (keys[i]?).getD (blanks a) ++ bar :: (values[i]?).getD (blanks b) ++ [bar]

/-- The table of the entries under a title. -/
def table (title : String) (entries : List (String × String)) : Except MarkupError String := do
  let keys ← entries.mapM fun e => shownChars e.1
  let values ← entries.mapM fun e => shownChars e.2
  let title ← shownChars title
  let room := lineWidth - 3
  let (a, b) := collapsed room (columnWidth room ("Key".toList :: keys))
    (columnWidth room ("Value".toList :: values))
  let lines :=
    (brokenLines (a + b + 3) .fold title).map (centered (a + b + 3)) ++
    [rule '┏' '┳' '┓' '━' a b] ++ row '┃' a b "Key".toList "Value".toList ++
    [rule '┡' '╇' '┩' '━' a b] ++ ((keys.zip values).flatMap fun e => row '│' a b e.1 e.2) ++
    [rule '└' '┴' '┘' '─' a b]
  return String.ofList (lines.flatMap (· ++ ['\n']))

end PropertyDocs.Report
