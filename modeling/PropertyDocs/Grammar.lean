import PropertyDocs.CompileError
import PropertyDocs.Statement
import PropertyDocs.Text.Blank
import PropertyDocs.Text.Lowercase
import PropertyDocs.Xml.Tree

/-!
# The grammar of XML documents

An element in a block is a statement. Some elements hold statements or rows and no other text than
blanks, the others hold text alone. The first defect in the order of the document is reported, but
the templates and the pattern of an element with a body are read after the body.
-/
namespace PropertyDocs.Grammar

open Xml (Head Node)

abbrev Read := Except CompileError

/-! ## Attributes and text -/

/-- `_error`: fails with a defect of the element. -/
def refuse {α : Type} (h : Head) (cause : Defect) : Read α := .error (.defect cause (some h.line))

/-- `_to_bool`. -/
def isTrue (value : Option String) : Bool :=
  match value with
  | some v => Text.lowercase v == "true"
  | none => false

/-- `_required`. -/
def required (h : Head) (name : String) : Read String :=
  match h.attribute? name with
  | some value => .ok value
  | none => refuse h (.missingAttribute h.tag name)

/-- `_template`. -/
def template (h : Head) (text : String) : Read Expression :=
  match Template.compile text with
  | .ok t => .ok (.template t)
  | .error e => refuse h (.template e text)

/-- The pattern of an element; `cause` tells what is wrong with a text that has a fault. -/
def patternOf (h : Head) (cause : PatternError → Defect) (compiled : Except PatternError Pattern) :
    Read Pattern :=
  match compiled with
  | .ok p => .ok p
  | .error (.fault f place) => refuse h (cause (.fault f place))
  | .error e => .error (.pattern e)

/-- `_regex`. -/
def regex (h : Head) (text : String) (caseSensitive : Bool) : Read Pattern :=
  patternOf h (.pattern text) (Pattern.compile text (!caseSensitive))

/-- `_check_no_text`: text that stands between the parts of an element has to be blank. -/
def blankText (h : Head) (text : String) : Read Unit :=
  let trimmed := Text.trim text
  if trimmed == "" then .ok () else refuse h (.strayText h.tag trimmed)

/-- The pieces of text in an element without elements. -/
def textPieces (h : Head) : List Node → Read (List String)
  | [] => .ok []
  | .text s :: rest => (textPieces h rest).map (s :: ·)
  | .element inner _ :: _ => refuse inner (.elementInText h.tag inner.tag)
  | _ :: rest => textPieces h rest

/-- `_text`: the trimmed text of an element without elements. -/
def bodyText (h : Head) (content : List Node) : Read String :=
  (textPieces h content).map fun pieces => Text.trim (String.join pieces)

/-- `_attr_or_body`: the value of an attribute, or else the text of the element; not both. -/
def attributeOrText (h : Head) (name : String) (content : List Node) : Read String := do
  let body ← bodyText h content
  match h.attribute? name with
  | some value => if body != "" then refuse h (.attributeAndText h.tag name) else return value
  | none => return body

/-! ## Statements without inner statements -/

/-- `_parse_entry`. -/
def assignment (h : Head) (content : List Node) (defaultOnly : Bool) : Read Statement := do
  let key ← required h "key"
  let value ← attributeOrText h "value" content
  let key ← template h key
  let value ← template h value
  return .assign { key, value, defaultOnly, encrypted := isTrue (h.attribute? "encrypted") }

/-- `_parse_error`. -/
def error (h : Head) (content : List Node) : Read Statement := do
  let text ← attributeOrText h "message" content
  return .error (← template h text)

/-- What the rows of a table have in common. -/
structure Columns where
  key : Expression
  separator : Option String
  caseSensitive : Bool
  defaultOnly : Bool

/-- The statement of a row. -/
def rowStatement (t : Columns) (h : Head) (content : List Node) : Read Statement := do
  let text ← attributeOrText h "value" content
  let value ← template h text
  return .assign { key := t.key, value, defaultOnly := t.defaultOnly,
                   encrypted := isTrue (h.attribute? "encrypted") }

/-- The row of an element that has a pattern. -/
def row (t : Columns) (h : Head) (content : List Node) : Read (Pattern × Statement) := do
  let text ← required h "pattern"
  let statement ← rowStatement t h content
  let pattern ← patternOf h (.rowPattern text t.separator)
    (Pattern.compileRow text t.separator t.caseSensitive)
  return (pattern, statement)

/-- The rows of a table and its last one, which has no pattern: the loop of `_parse_table`. -/
def rows (t : Columns) (h : Head) (last : Option Statement) :
    List Node → Read (List (Pattern × Statement) × Option Statement)
  | [] => .ok ([], last)
  | .text s :: rest => do
    blankText h s
    rows t h last rest
  | .element inner content :: rest => do
    if inner.tag != "match" && inner.tag != "nomatch" then refuse inner .expectedRow
    if last.isSome then refuse inner (.afterNomatch h.tag)
    if inner.tag == "match" then
      let r ← row t inner content
      let (rs, last) ← rows t h last rest
      return (r :: rs, last)
    else
      let s ← rowStatement t inner content
      rows t h (some s) rest
  | _ :: rest => rows t h last rest

/-- `_parse_table`. -/
def table (h : Head) (content : List Node) (defaultOnly : Bool) : Read Statement := do
  let key ← required h "key"
  let key ← template h key
  let selector ← required h "selector"
  let selector ← template h selector
  let separator := (h.attribute? "separator").filter (· != "")
  let t : Columns :=
    { key, separator, caseSensitive := isTrue (h.attribute? "casesensitive"), defaultOnly }
  let (rs, last) ← rows t h none content
  return .table selector separator rs last

/-! ## Statements with a body -/

/-- `_parse_when`: the test of an element and its body, negated if wanted. -/
def branch (h : Head) (negated : Bool) (body : Read Statement) : Read (Test × Statement) := do
  let key ← required h "key"
  let value := h.attribute? "value"
  let pattern := h.attribute? "match"
  if value.isSome && pattern.isSome then refuse h (.valueAndMatch h.tag)
  let caseSensitive := isTrue (h.attribute? "casesensitive")
  let body ← body
  let key ← template h key
  let test ← match value, pattern with
    | some value, _ => (template h value).map fun v => Test.equals key v caseSensitive
    | none, some pattern => (regex h pattern caseSensitive).map fun p => Test.matchesPattern key p
    | none, none => pure (Test.truthy key)
  return (if negated != isTrue (h.attribute? "invert") then .not test else test, body)

def choice (h : Head) (negated : Bool) (body : Read Statement) : Read Statement := do
  return .choose [← branch h negated body] none

/-- `_parse_match_pattern`. -/
def matchPattern (h : Head) (body : Read Statement) : Read Statement := do
  let value ← required h "value"
  let pattern ← required h "match"
  let body ← body
  let value ← template h value
  return .matchPattern value (← regex h pattern (isTrue (h.attribute? "casesensitive"))) body

/-- Branches end with the one without a test. -/
def checkBranch (h inner : Head) (last : Option Statement) : Read Unit := do
  if inner.tag != "when" && inner.tag != "unless" && inner.tag != "otherwise" then
    refuse inner .expectedBranch
  if last.isSome then refuse inner (.afterOtherwise h.tag)

mutual

/-- The statement of an element in a block (`_statements`); some elements mean nothing. -/
def statement : Node → Read (Option Statement)
  | .element h content =>
    match h.tag with
    | "entry" => (assignment h content false).map some
    | "default" => (assignment h content true).map some
    | "if" => (choice h false ((block h content).map .block)).map some
    | "unless" => (choice h true ((block h content).map .block)).map some
    | "choose" => do
      let (whens, otherwise) ← branches h none content
      return some (.choose whens otherwise)
    | "entryTable" => (table h content false).map some
    | "defaultTable" => (table h content true).map some
    | "matchPattern" => (matchPattern h ((block h content).map .block)).map some
    | "error" => (error h content).map some
    | "comment" => .ok none
    | tag => refuse h (.unexpectedTag tag)
  | _ => .ok none

/-- `_parse_block`: the statements in an element. -/
def block (h : Head) : List Node → Read (List Statement)
  | [] => .ok []
  | .text s :: rest => do
    blankText h s
    block h rest
  | node :: rest => do
    let s ← statement node
    let ss ← block h rest
    return s.toList ++ ss

/-- The branches in an element and the last one, which has no test: the loop of `_parse_choose`. -/
def branches (h : Head) (last : Option Statement) :
    List Node → Read (List (Test × Statement) × Option Statement)
  | [] => .ok ([], last)
  | .text s :: rest => do
    blankText h s
    branches h last rest
  | .element inner content :: rest => do
    checkBranch h inner last
    if inner.tag == "otherwise" then
      let body ← block inner content
      branches h (some (.block body)) rest
    else
      let b ← branch inner (inner.tag == "unless") ((block inner content).map .block)
      let (bs, last) ← branches h last rest
      return (b :: bs, last)
  | _ :: rest => branches h last rest

end

/-- `parse`: the statements of a document with this root. -/
def document : Node → Read (List Statement)
  | .element h content =>
    if h.tag == "properties" then block h content else refuse h (.unexpectedRoot h.tag)
  | _ => .error (.defect .malformedXml none)

end PropertyDocs.Grammar
