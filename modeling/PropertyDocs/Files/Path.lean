/-!
# Paths

A path is a row of names below an anchor: the empty anchor for a path from the working folder, else
the place that the names start from. Empty names and single points mean nothing; double points stay.
-/
namespace PropertyDocs

structure Path where
  anchor : String
  parts : List String
deriving DecidableEq, Repr

namespace Path

/-- The pieces of a text between slashes. -/
def pieces : List Char → List (List Char)
  | [] => [[]]
  | c :: cs =>
    if c == '/' then [] :: pieces cs
    else match pieces cs with
      | [] => [[c]]
      | piece :: rest => (c :: piece) :: rest

/-- Two slashes in front are an anchor of their own, any other number is one slash. -/
def anchorOf (cs : List Char) : String :=
  match (cs.takeWhile (· == '/')).length with
  | 0 => ""
  | 2 => "//"
  | _ => "/"

def ofText (text : String) : Path :=
  let names := (pieces text.toList).map String.ofList
  ⟨anchorOf text.toList, names.filter fun n => n != "" && n != "."⟩

def isAbsolute (p : Path) : Bool := p.anchor != ""

def text (p : Path) : String :=
  let names := "/".intercalate p.parts
  if p.anchor == "" then (if p.parts.isEmpty then "." else names)
  else if p.parts.isEmpty || p.anchor.endsWith "/" then p.anchor ++ names
  else p.anchor ++ "/" ++ names

/-- The path `q`, seen from `p` unless it has an anchor of its own. -/
def join (p q : Path) : Path := if q.isAbsolute then q else ⟨p.anchor, p.parts ++ q.parts⟩

/-- The path of a name in a folder. -/
def child (p : Path) (name : String) : Path := ⟨p.anchor, p.parts ++ [name]⟩

def name (p : Path) : String := p.parts.getLast?.getD ""

/-- Splits a name before its last point, unless that is at one of its ends. -/
def splitName (name : List Char) : List Char × List Char :=
  let after := (name.reverse.takeWhile (· != '.')).reverse
  let before := name.take (name.length - after.length - 1)
  if after.isEmpty || before.isEmpty || after.length == name.length then (name, [])
  else (before, '.' :: after)

/-- The end of the name from its last point on. -/
def suffix (p : Path) : String := String.ofList (splitName p.name.toList).2

/-- The path with another suffix. -/
def withSuffix (p : Path) (s : String) : Path :=
  ⟨p.anchor, p.parts.dropLast ++ [String.ofList (splitName p.name.toList).1 ++ s]⟩

end Path

end PropertyDocs
