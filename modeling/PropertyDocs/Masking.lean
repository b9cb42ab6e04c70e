import PropertyDocs.Level
import PropertyDocs.Text.Lowercase

/-!
# Masking

The values of keys that hold a marker in any letter case are shown as asterisks, one for each
character.
-/
namespace PropertyDocs.Masking

/-- `DEFAULT_MASK_KEYS`. -/
def defaultMarkers : List String := ["password", "secret"]

/-- Whether `part` occurs in a text. -/
def occursIn (part : List Char) : List Char → Bool
  | [] => part.isEmpty
  | c :: cs => part.isPrefixOf (c :: cs) || occursIn part cs

def isSecret (markers : List String) (key : String) : Bool :=
  let lowered := (Text.lowercase key).toList
  markers.any fun m => occursIn (Text.lowercase m).toList lowered

/-- `mask_value`: the value of a key as it is shown. -/
def shown (markers : List String) (key value : String) : String :=
  if isSecret markers key then String.ofList (value.toList.map fun _ => '*') else value

/-- Entries are ordered by their keys, and by their values where the keys are the same. -/
def precedes (a b : String × String) : Bool :=
  if a.1 == b.1 then decide (a.2 ≤ b.2) else decide (a.1 < b.1)

/-- `masked_items`: the entries in order, with secrets masked. -/
def shownEntries (markers : List String) (l : Level) : List (String × String) :=
  (l.entries.mergeSort precedes).map fun e => (e.1, shown markers e.1 e.2)

/-- `log_properties`: the lines that tell the entries of a level under a title. -/
def report (markers : List String) (title : String) (l : Level) : List String :=
  title :: (shownEntries markers l).map fun e => " " ++ e.1 ++ " = " ++ e.2

end PropertyDocs.Masking
