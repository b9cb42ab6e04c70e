import PropertyDocs.Pattern.Basic
import PropertyDocs.Template
import PropertyDocs.Text.CodePoint
import PropertyDocs.Text.Lowercase

/-!
# Texts

What a run asks of the texts it works on: they are made from the keys and values of documents,
compared, matched and put together. Levels, statements and runs are given for any type of texts
that has these operations. Where no type is named, texts are strings, which show a half of a
surrogate pair by a sign; a type of code points keeps it.
-/
namespace PropertyDocs

/-! ## Operations on strings -/

/-- `is_truthy`: whether a value means yes; trimmed, it is neither empty nor `0` nor `false` in any
case. -/
def isTruthy (value : String) : Bool :=
  let v := Text.trim value
  v != "" && v != "0" && Text.lowercase v != "false"

/-- Equal, or with equal upper-case or equal lower-case forms. -/
def sameLetter (a b : Char) : Bool :=
  a == b || Text.upperFull a == Text.upperFull b || Text.lowerFull a == Text.lowerFull b

def sameLetters : List Char → List Char → Bool
  | [], [] => true
  | a :: as, b :: bs => sameLetter a b && sameLetters as bs
  | _, _ => false

/-- `equals_ignore_case`: compares character by character, without regard to case. -/
def equalsIgnoreCase (a b : String) : Bool := sameLetters a.toList b.toList

/-! ## Types of texts -/

class Texts (τ : Type) where
  empty : τ
  /-- The text of a key or a value of a flat document. -/
  ofCodePoints : CodePoints → τ
  /-- The key that a group of a match is bound to. -/
  numeral : Nat → τ
  expand : Template → (τ → τ) → τ
  isTruthy : τ → Bool
  equalsIgnoreCase : τ → τ → Bool
  fullMatch? : Pattern → τ → Option (List (Option τ))
  splitSelector : τ → Option String → τ

namespace Texts

instance : Texts String where
  empty := ""
  ofCodePoints := CodePoints.shown
  numeral := toString
  expand := Template.expand
  isTruthy := PropertyDocs.isTruthy
  equalsIgnoreCase := PropertyDocs.equalsIgnoreCase
  fullMatch? := Pattern.fullMatch?
  splitSelector := Pattern.splitSelector

/-- The key and the value of an entry of a flat document. -/
def ofEntry {τ : Type} [Texts τ] (e : CodePoints × CodePoints) : τ × τ :=
  (ofCodePoints e.1, ofCodePoints e.2)

def isMatch {τ : Type} [Texts τ] (p : Pattern) (value : τ) : Bool := (fullMatch? p value).isSome

/-! Strings have the operations given above. -/

@[simp] theorem empty_string : (empty : String) = "" := rfl

@[simp] theorem expand_string (t : Template) (value : String → String) :
    expand t value = t.expand value := rfl

@[simp] theorem equalsIgnoreCase_string (a b : String) :
    equalsIgnoreCase a b = PropertyDocs.equalsIgnoreCase a b := rfl

@[simp] theorem fullMatch?_string (p : Pattern) (value : String) :
    fullMatch? p value = p.fullMatch? value := rfl

@[simp] theorem isMatch_string (p : Pattern) (value : String) : isMatch p value = p.isMatch value :=
  rfl

end Texts

end PropertyDocs
