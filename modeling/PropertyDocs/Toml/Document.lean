import PropertyDocs.Toml.Scan

/-!
# TOML documents

A document is a row of statements, each on lines of its own. Headers open the tables that the pairs
after them belong to; no table is opened twice.
-/
namespace PropertyDocs.Toml

/-- How far a document has been read. -/
structure Progress where
  entries : Entries
  /-- The table that pairs belong to. -/
  header : List String
  /-- Tables that dotted keys have led through since the header; the next header closes them. -/
  dotted : List (List String)

namespace Progress

def empty : Progress := ⟨[], [], []⟩

def closeDotted (p : Progress) : Option Progress := do
  let entries ← p.dotted.foldlM (fun es path => es.atPath Entries.closeTable path) p.entries
  return { p with entries, dotted := [] }

/-- Goes on below a header. -/
def enter (p : Progress) (change : Option Node → Option Node) (path : List String) :
    Option Progress := do
  let p ← p.closeDotted
  let entries ← p.entries.atPath change path
  return { p with entries, header := path }

/-- The beginnings of a path, except the empty one and the path itself. -/
def beginnings (path : List String) : List (List String) :=
  (List.range path.length).filterMap fun i => if i == 0 then none else some (path.take i)

def define (p : Progress) (path : List String) (v : Value) : Option Progress := do
  let entries ← p.entries.within (Entries.define v path) p.header
  return { p with entries, dotted := p.dotted ++ (beginnings path).map (p.header ++ ·) }

end Progress

namespace Scan

/-- Lifts a step that may not be allowed. -/
def allowed (p : Option Progress) : Scan Progress :=
  match p with
  | some p => return p
  | none => stop

/-- One statement, with what may stand behind it on its line. -/
def statement (p : Progress) : Scan Progress := do
  let n := 2 * (← get).length + 2
  let p ← (do
    if ← accept "[[".toList then
      blanks
      let path ← key n
      expect "]]".toList
      allowed (p.enter Entries.appendTable path)
    else if ← accept "[".toList then
      blanks
      let path ← key n
      expect "]".toList
      allowed (p.enter Entries.openTable path)
    else if ← sees ['#'] then return p
    else
      let path ← key n
      expect ['=']
      blanks
      let v ← value n
      allowed (p.define path v))
  blanks
  comment
  return p

def statements : Nat → Progress → Scan Progress
  | 0, _ => stop
  | fuel + 1, p => do
    blanks
    if (← get).isEmpty then return p
    else if ← accept ['\n'] then statements fuel p
    else
      let p ← statement p
      if (← get).isEmpty then return p
      else
        expect ['\n']
        statements fuel p

end Scan

/-- The text with every line end as a line feed. -/
def withLineFeeds : List Char → List Char
  | [] => []
  | '\r' :: '\n' :: cs => '\n' :: withLineFeeds cs
  | c :: cs => c :: withLineFeeds cs

/-- The table that a document says, if the text is one. -/
def parse? (text : List Char) : Option (List (String × Value)) :=
  let cs := withLineFeeds text
  (Scan.statements (cs.length + 1) .empty cs).map fun (p, _) => values p.entries

end PropertyDocs.Toml
