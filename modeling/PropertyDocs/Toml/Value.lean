import PropertyDocs.Number.Binary64

/-!
# TOML values

What a TOML document says. Moments of time are kept as a kind only.
-/
namespace PropertyDocs.Toml

inductive Value where
  | text (s : String)
  | integer (n : Int)
  | real (x : Binary64)
  | boolean (b : Bool)
  | moment
  | array (items : List Value)
  | table (entries : List (String × Value))
deriving Repr

/-! ## Tables under construction -/

/-- What a key stands for while a document is read. -/
inductive Node where
  /-- A value that was given whole, with nothing to be added to it. -/
  | leaf (v : Value)
  /-- A table; once it is closed, neither a header nor a dotted key opens it again. -/
  | nest (closed : Bool) (entries : List (String × Node))
  /-- The tables of an array, the one that is being filled first. -/
  | nests (items : List (List (String × Node)))

abbrev Entries := List (String × Node)

mutual

def Node.value : Node → Value
  | .leaf v => v
  | .nest _ entries => .table (values entries)
  | .nests items => .array (tables items).reverse

def values : Entries → List (String × Value)
  | [] => []
  | (k, n) :: rest => (k, n.value) :: values rest

def tables : List Entries → List Value
  | [] => []
  | es :: rest => .table (values es) :: tables rest

end

namespace Entries

/-- Writes a key, which keeps its place if it is present. -/
def put (es : Entries) (key : String) (n : Node) : Entries :=
  if (es.lookup key).isSome then es.map fun e => if e.1 == key then (key, n) else e
  else es ++ [(key, n)]

/-- Changes the entries of the table that the path leads to, through the last table of an array. -/
def within (change : Entries → Option Entries) : List String → Entries → Option Entries
  | [], es => change es
  | k :: ks, es =>
    match es.lookup k with
    | none => none
    | some (.nest closed inner) => (within change ks inner).map fun i => es.put k (.nest closed i)
    | some (.nests (item :: items)) =>
      (within change ks item).map fun i => es.put k (.nests (i :: items))
    | some _ => none

/-- Changes what a path stands for; tables on the way are made. -/
def atPath (change : Option Node → Option Node) : List String → Entries → Option Entries
  | [], _ => none
  | [k], es => (change (es.lookup k)).map (es.put k)
  | k :: ks, es =>
    match es.lookup k with
    | none => (atPath change ks []).map fun i => es.put k (.nest false i)
    | some (.nest closed inner) => (atPath change ks inner).map fun i => es.put k (.nest closed i)
    | some (.nests (item :: items)) =>
      (atPath change ks item).map fun i => es.put k (.nests (i :: items))
    | some _ => none

/-- Gives a dotted key its value. -/
def define (v : Value) : List String → Entries → Option Entries
  | [], _ => none
  | [k], es => if (es.lookup k).isSome then none else some (es.put k (.leaf v))
  | k :: ks, es =>
    match es.lookup k with
    | none => (define v ks []).map fun i => es.put k (.nest false i)
    | some (.nest false inner) => (define v ks inner).map fun i => es.put k (.nest false i)
    | some _ => none

/-- What a header in single brackets does. -/
def openTable : Option Node → Option Node
  | none => some (.nest true [])
  | some (.nest false es) => some (.nest true es)
  | some _ => none

/-- What a header in double brackets does. -/
def appendTable : Option Node → Option Node
  | none => some (.nests [[]])
  | some (.nests items) => some (.nests ([] :: items))
  | some _ => none

def closeTable : Option Node → Option Node
  | some (.nest _ es) => some (.nest true es)
  | n => n

end Entries

end PropertyDocs.Toml
