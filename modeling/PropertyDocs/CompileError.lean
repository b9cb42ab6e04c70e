import PropertyDocs.FlatFormat
import PropertyDocs.Pattern.Basic
import PropertyDocs.Template

/-!
# Errors of documents

Why a text is no document. A defect has a cause, and in an XML document the line of the element it
was found at; its message begins with the source and the line.
-/
namespace PropertyDocs

/-- What a `ParseError` or a `TemplateSyntaxError` is about. -/
inductive Defect where
  | malformedXml
  | malformedEscape (e : FlatFormat.MalformedEscape)
  | template (cause : TemplateError) (text : String)
  | unexpectedRoot (tag : String)
  | unexpectedTag (tag : String)
  /-- Text between the statements of an element. -/
  | strayText (tag text : String)
  /-- An element in an element that holds text. -/
  | elementInText (tag inner : String)
  | missingAttribute (tag name : String)
  | attributeAndText (tag name : String)
  | valueAndMatch (tag : String)
  | expectedBranch
  | expectedRow
  | afterOtherwise (tag : String)
  | afterNomatch (tag : String)
  | pattern (text : String) (error : PatternError)
  | rowPattern (text : String) (separator : Option String) (error : PatternError)
deriving DecidableEq, Repr

namespace Defect

def inTag (tag : String) : String := "<" ++ tag ++ ">"

def message : Defect → String
  | malformedXml => "<malformed XML>"
  | malformedEscape e => e.message
  | template cause text => cause.message ++ ": " ++ Text.quoted text
  | unexpectedRoot tag => "Expected root element <properties>, found " ++ inTag tag
  | unexpectedTag tag => "Unexpected tag: " ++ tag
  | strayText tag text => inTag tag ++ " tag may not contain text: " ++ Text.quoted text
  | elementInText tag inner => inTag tag ++ " tag may not contain " ++ inTag inner
  | missingAttribute tag name => inTag tag ++ " tag without '" ++ name ++ "' attribute"
  | attributeAndText tag name =>
    inTag tag ++ " tag may not have both a " ++ name ++ " attribute and text in the body"
  | valueAndMatch tag => inTag tag ++ " tag may not have both value and match attributes"
  | expectedBranch => "Expected one of <when>, <unless>, <otherwise>"
  | expectedRow => "Expected one of <match>, <nomatch>"
  | afterOtherwise tag => "<otherwise> must be the last tag in " ++ inTag tag
  | afterNomatch tag => "<nomatch> must be the last tag in " ++ inTag tag
  | pattern text error =>
    "Invalid regular expression " ++ Text.quoted text ++ ": " ++ error.message text
  | rowPattern text separator error =>
    "Invalid match pattern " ++ Text.quoted text ++ ": "
      ++ error.message (Pattern.rowText text separator)

end Defect

inductive CompileError where
  | defect (cause : Defect) (line : Option Nat)
  /-- A pattern is refused without a fault in its text: no `ParseError`. -/
  | pattern (error : PatternError)
deriving DecidableEq, Repr

namespace CompileError

/-- What a message begins with (`_format`); an empty source is not named. -/
def location (source : Option String) (line : Option Nat) : String :=
  let source := source.filter (· != "")
  let line := line.map fun n => "line " ++ toString n
  match source, line with
  | some s, some l => s ++ ", " ++ l ++ ": "
  | some s, none => s ++ ": "
  | none, some l => l ++ ": "
  | none, none => ""

/-- The message about a document from `source`. -/
def message (source : Option String) : CompileError → String
  | defect cause line => location source line ++ cause.message
  | pattern error => error.message ""

end CompileError

end PropertyDocs
