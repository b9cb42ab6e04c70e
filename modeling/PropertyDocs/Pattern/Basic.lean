import PropertyDocs.Pattern.Match
import PropertyDocs.Pattern.Reader
import PropertyDocs.Text.Fields

/-!
# Patterns

A pattern is a text with the expression that it was read as. Row patterns of tables are made of
fields: each field becomes a group of its own, a lone star stands for any text without line feeds,
and a line feed stands between neighbouring fields, as it does in the selectors they are matched
with.
-/
namespace PropertyDocs

structure Pattern where
  text : String
  ignoreCase : Bool
  /-- The number of capturing groups. -/
  groups : Nat
  regex : Regex
deriving Repr

namespace Pattern

/-- Reads a pattern text, which may itself ask for letter case to be ignored. -/
def compile (text : String) (ignoreCase : Bool) : Except PatternError Pattern := do
  let flags := if ignoreCase then [PatternFlag.ignoreCase] else []
  let (regex, reader) ← PatternReader.whole.run
    { rest := text.toList, place := 0, flags, groups := [], names := [], lookbehind := none,
      conditions := [] }
  match regex.defect? (reader.flags.contains .template) with
  | some cause => throw (.fault cause none)
  | none =>
    return { text, ignoreCase := reader.flags.contains .ignoreCase,
             groups := reader.groups.length, regex }

/-- Matches a whole value; the result holds the text of the whole match, which is the value itself,
and then those of the groups, none for a group that took no part. -/
def fullMatch? (p : Pattern) (value : String) : Option (List (Option String)) :=
  (p.regex.fullMatch? value.toList).map fun c =>
    some value :: (List.range p.groups).map fun i => (c.captured? (i + 1)).map String.ofList

def isMatch (p : Pattern) (value : String) : Bool := (p.fullMatch? value).isSome

/-! ## Fields -/

/-- The group that a field of a row pattern becomes in `compile_field_pattern`. -/
def fieldGroup (field : List Char) : List Char :=
  if field == ['*'] then "(.*)".toList else '(' :: field ++ [')']

/-- The fields of a text under an optional separator. -/
def fields (separator : Option String) (text : String) : List (List Char) :=
  Text.cut ((separator.getD "").toList) text.toList

def rowText (pattern : String) (separator : Option String) : String :=
  String.ofList (Text.joined ['\n'] ((fields separator pattern).map fieldGroup))

/-- `compile_field_pattern`: the pattern of a table row. -/
def compileRow (pattern : String) (separator : Option String) (caseSensitive : Bool) :
    Except PatternError Pattern :=
  compile (rowText pattern separator) (!caseSensitive)

/-- `split_selector`: a selector with a line feed for every separator. -/
def splitSelector (selector : String) (separator : Option String) : String :=
  String.ofList (Text.joined ['\n'] (fields separator selector))

end Pattern

end PropertyDocs
