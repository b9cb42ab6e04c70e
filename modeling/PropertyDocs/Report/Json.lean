import PropertyDocs.Text.Quoted

/-!
# JSON reports

Objects of texts, and objects of such objects, with each pair on a line of its own. Characters
beyond ASCII stand for themselves.
-/
namespace PropertyDocs.Report

def jsonChar (c : Char) : List Char :=
  if c == '"' || c == '\\' then ['\\', c]
  else if c == '\n' then ['\\', 'n']
  else if c == '\r' then ['\\', 'r']
  else if c == '\t' then ['\\', 't']
  else if c == '\x08' then ['\\', 'b']
  else if c == '\x0c' then ['\\', 'f']
  else if c < ' ' then '\\' :: 'u' :: Text.hexDigits 4 c.toNat
  else [c]

def jsonText (s : String) : String := String.ofList ('"' :: s.toList.flatMap jsonChar ++ ['"'])

def spaces (n : Nat) : String := String.ofList (List.replicate n ' ')

/-- An object of members that are written already, at `depth` levels of two blanks. -/
def jsonObject (depth : Nat) (members : List (String × String)) : String :=
  if members.isEmpty then "\x7b\x7d"
  else
    let lines := members.map fun m => spaces (2 * depth + 2) ++ jsonText m.1 ++ ": " ++ m.2
    "\x7b\n" ++ ",\n".intercalate lines ++ "\n" ++ spaces (2 * depth) ++ "\x7d"

/-- The entries of a level as an object. -/
def jsonEntries (depth : Nat) (entries : List (String × String)) : String :=
  jsonObject depth (entries.map fun e => (e.1, jsonText e.2))

end PropertyDocs.Report
