import PropertyDocs.Level
import PropertyDocs.Report.Json
import PropertyDocs.Report.Table

/-!
# Reports

The entries of a level are told line by line, as JSON or in a table. A title stands above them,
except in JSON, where it is the key of the entries if there are several levels.
-/
namespace PropertyDocs.Report

inductive Format where
  | plain
  | json
  | table
deriving DecidableEq, Repr

def Format.ofName? (name : String) : Option Format :=
  [("plain", plain), ("json", json), ("table", table)].lookup name

/-- Each entry on a line. -/
def lines (title : String) (entries : List (String × String)) : String :=
  title ++ ":\n" ++ String.join (entries.map fun e => " " ++ e.1 ++ " = " ++ e.2 ++ "\n")

/-- The report on one level (`_print_store`). -/
def single (f : Format) (title : String) (entries : List (String × String)) :
    Except MarkupError String :=
  match f with
  | .plain => .ok (lines title entries)
  | .json => .ok (jsonEntries 0 entries ++ "\n")
  | .table => table title entries

/-- Texts one after another, up to the first that cannot be written. -/
def inTurn : List (Except MarkupError String) → String × Option MarkupError
  | [] => ("", none)
  | .error e :: _ => ("", some e)
  | .ok text :: rest =>
    let (more, e) := inTurn rest
    (text ++ more, e)

/-- The report on several levels. In JSON the last of a title counts, at the place of the first. -/
def several (f : Format) (levels : List (String × List (String × String))) :
    String × Option MarkupError :=
  match f with
  | .json =>
    let members := Level.ofPairs (levels.map fun l => (l.1, jsonEntries 1 l.2))
    (jsonObject 0 members.entries ++ "\n", none)
  | f => inTurn (levels.map fun l => single f l.1 l.2)

end PropertyDocs.Report
