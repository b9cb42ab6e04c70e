import PropertyDocs.Text.Blank

/-!
# Markup

Texts in tables may hold style tags in brackets, which are not shown. A tag begins with a small
letter, a number sign, a slash or an at sign; a slash closes the last tag of the name, or the last
one if it has no name. A backslash in front of a tag makes it plain text.
-/
namespace PropertyDocs.Report

inductive MarkupError where
  | unmatchedTag (tag : String) (position : Nat)
  | nothingToClose (position : Nat)
deriving DecidableEq, Repr

def MarkupError.message : MarkupError → String
  | unmatchedTag tag position =>
    "closing tag '" ++ tag ++ "' at position " ++ toString position
      ++ " doesn't match any open tag"
  | nothingToClose position =>
    "closing tag '[/]' at position " ++ toString position ++ " has nothing to close"

namespace Markup

/-- The text of a tag after its bracket, up to the first closing bracket. -/
def inside? : List Char → Option (List Char)
  | [] => none
  | ']' :: _ => some []
  | '[' :: _ => none
  | c :: cs => (inside? cs).map (c :: ·)

def beginsTag (c : Char) : Bool := ('a' ≤ c && c ≤ 'z') || c == '#' || c == '/' || c == '@'

/-- The text of the tag that begins here. -/
def tag? : List Char → Option (List Char)
  | '[' :: c :: cs => if beginsTag c then (inside? cs).map (c :: ·) else none
  | _ => none

/-- The short names of styles. -/
def shortNames : List (String × String) :=
  [("b", "bold"), ("d", "dim"), ("i", "italic"), ("u", "underline"), ("uu", "underline2"),
  ("r", "reverse"), ("c", "conceal"), ("s", "strike"), ("o", "overline")]

/-- The name that tags of one style share. -/
def styleName (cs : List Char) : String :=
  let name := (String.ofList (Text.trimBlank cs)).map Char.toLower
  (shortNames.lookup name).getD name

/-- The part of a tag before its value. -/
def nameOf (tag : List Char) : List Char := tag.takeWhile (· != '=')

/-- The open tags after one more tag. -/
def step (position : Nat) (tag : List Char) (stack : List String) :
    Except MarkupError (List String) :=
  match nameOf tag with
  | '/' :: name =>
    if (Text.trimBlank name).isEmpty then
      match stack with
      | [] => .error (.nothingToClose position)
      | _ :: rest => .ok rest
    else if stack.contains (styleName name) then .ok (stack.erase (styleName name))
    else .error (.unmatchedTag (String.ofList ('[' :: tag ++ [']'])) position)
  | name => .ok (styleName name :: stack)

/-- What is shown from `position` on: `skip` characters belong to what has been dealt with, and
`plain` further ones are plain. -/
def shownFrom (position skip plain : Nat) (stack : List String) :
    List Char → Except MarkupError (List Char)
  | [] => .ok []
  | c :: cs => do
    match skip, plain with
    | skip + 1, plain => shownFrom (position + 1) skip plain stack cs
    | 0, plain + 1 => return c :: (← shownFrom (position + 1) 0 plain stack cs)
    | 0, 0 =>
      let backslashes := ((c :: cs).takeWhile (· == '\\')).length
      match tag? ((c :: cs).drop backslashes) with
      | some tag =>
        let slashes := List.replicate (backslashes / 2) '\\'
        if backslashes % 2 == 1 then
          let rest ← shownFrom (position + 1) (backslashes - 1) (tag.length + 2) stack cs
          return slashes ++ rest
        else
          let stack ← step (position + backslashes) tag stack
          let rest ← shownFrom (position + 1) (backslashes + tag.length + 1) 0 stack cs
          return slashes ++ rest
      | none =>
        match c, cs with
        | '\\', '[' :: _ => shownFrom (position + 1) 0 0 stack cs
        | _, _ => return c :: (← shownFrom (position + 1) 0 0 stack cs)

end Markup

/-- Characters that move the cursor of a terminal; they are not shown. -/
def isControl (c : Char) : Bool :=
  c == '\x07' || c == '\x08' || c == '\x0b' || c == '\x0c' || c == '\r'

/-- The characters of a text that are shown. -/
def shownChars (s : String) : Except MarkupError (List Char) :=
  (Markup.shownFrom 0 0 0 [] s.toList).map fun cs => cs.filter fun c => !isControl c

end PropertyDocs.Report
