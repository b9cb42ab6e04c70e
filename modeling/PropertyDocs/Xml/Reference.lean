import PropertyDocs.Xml.Scan

/-!
# References

A reference stands for one character, by its number or by one of five names, or for an entity that
the document declares. The value of an attribute holds the texts of its references; in content a
reference to a declared entity stays what it is.
-/
namespace PropertyDocs.Xml

/-- What the document declares a name to stand for. -/
inductive Entity where
  | text (cs : List Char)
  /-- A text outside the document. -/
  | outer
  /-- Data outside the document that is no text. -/
  | data
deriving Repr

structure Entities where
  /-- The first declaration of a name counts. -/
  declared : List (String × Entity)
  /-- Whether other declarations may stand outside the document. -/
  partly : Bool

def Entities.find? (es : Entities) (name : String) : Option Entity := es.declared.lookup name

inductive Reference where
  | number (c : Char)
  | name (s : String)
deriving Repr

namespace Reference

/-- The characters that have a name in every document. -/
def known : List (String × Char) :=
  [("lt", '<'), ("gt", '>'), ("amp", '&'), ("quot", '"'), ("apos", '\'')]

def digit? (base : Nat) (c : Char) : Option Nat :=
  let n :=
    if c.isDigit then c.toNat - 0x30
    else if 'a' ≤ c && c ≤ 'f' then c.toNat - 0x57
    else if 'A' ≤ c && c ≤ 'F' then c.toNat - 0x37
    else base
  if n < base then some n else none

def number? (base : Nat) : List Char → Option Nat
  | [] => none
  | cs => cs.foldl (fun n c => n.bind fun n => (digit? base c).map (n * base + ·)) (some 0)

/-- A character given by its number, after the number sign. -/
def numbered : Scan Char := do
  let base := if ← Scan.accept ['x'] then 16 else 10
  let digits ← Scan.takeWhile fun c => (digit? base c).isSome
  match number? base digits with
  | none => Scan.stop
  | some n =>
    Scan.expect [';']
    if n.isValidChar && isXmlChar (Char.ofNat n) then return Char.ofNat n else Scan.stop

/-- A reference from its ampersand on. -/
def read : Scan Reference := do
  Scan.expect ['&']
  if ← Scan.accept ['#'] then return .number (← numbered)
  else
    let name ← Scan.name
    Scan.expect [';']
    return .name (String.ofList name)

/-- The character that a reference stands for in every document. -/
def char? : Reference → Option Char
  | number c => some c
  | name s => known.lookup s

/-- The reference as it stands in a text, with a character for its number. -/
def shortened : Reference → List Char
  | number c => [c]
  | name s => '&' :: s.toList ++ [';']

end Reference

/-! ## Values of attributes -/

/-- The text up to `terminator`, or to the end if there is none, with `textOf` for references.
Spaces of all kinds become blanks; `fuel` bounds the number of runs and references. -/
def valueText (textOf : Reference → Option (List Char)) (terminator : Option Char) :
    Nat → Scan (List Char)
  | 0 => Scan.stop
  | fuel + 1 => do
    match ← Scan.peek with
    | none => if terminator.isNone then return [] else Scan.stop
    | some c =>
      if some c == terminator then
        Scan.pass 1
        return []
      else if c == '<' then Scan.stop
      else if c == '&' then
        match textOf (← Reference.read) with
        | some cs => return cs ++ (← valueText textOf terminator fuel)
        | none => Scan.stop
      else
        let run ← Scan.takeWhile fun c => some c != terminator && c != '<' && c != '&'
        let run := run.map fun c => if isSpace c then ' ' else c
        return run ++ (← valueText textOf terminator fuel)

namespace Entities

/-- The text of a reference with the texts of those in it, which are nested at most `depth` deep.
A name that is not declared here has no text if it may be declared elsewhere. -/
def textOf (es : Entities) : Nat → Reference → Option (List Char)
  | _, .number c => some [c]
  | 0, .name s => (Reference.known.lookup s).map ([·])
  | depth + 1, .name s =>
    match Reference.known.lookup s, es.find? s with
    | some c, _ => some [c]
    | none, some (.text cs) =>
      ((valueText (textOf es depth) none (cs.length + 1)).run' (Input.ofChars cs)).toOption
    | none, some _ => none
    | none, none => if es.partly then some [] else none

/-- An entity that needs more levels than there are entities holds itself. -/
def depth (es : Entities) : Nat := es.declared.length + 1

end Entities

/-- The value of an attribute, with its quotes. -/
def attributeValue (es : Entities) : Scan (List Char) := do
  match ← Scan.peek with
  | some q =>
    if q == '"' || q == '\'' then
      Scan.pass 1
      valueText (es.textOf es.depth) (some q) ((← get).rest.length + 1)
    else Scan.stop
  | none => Scan.stop

end PropertyDocs.Xml
