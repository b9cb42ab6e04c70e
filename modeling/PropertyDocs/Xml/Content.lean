import PropertyDocs.Xml.Doctype
import PropertyDocs.Xml.Namespace
import PropertyDocs.Xml.Tree

/-!
# Elements and their content

The elements whose end tags have not been read form a stack. Text and marked sections next to each
other are one text; comments, instructions and entities part it.
-/
namespace PropertyDocs.Xml

/-! ## Start tags -/

/-- A start tag. -/
structure StartTag where
  name : QName
  head : Head
  /-- The bindings in force in the element. -/
  bindings : Bindings
  /-- The element ends with its start tag. -/
  closed : Bool

namespace Scan

/-- The attributes of a tag as they stand. -/
def attributes (es : Entities) : Nat → Scan (List (QName × List Char))
  | 0 => stop
  | fuel + 1 => do
    let spaced := !(← takeWhile isSpace).isEmpty
    match ← peek with
    | none => stop
    | some c =>
      if c == '>' || c == '/' then return []
      else if spaced then
        let name ← qualifiedName
        equalsSign
        let value ← attributeValue es
        return (name, value) :: (← attributes es fuel)
      else stop

end Scan

/-- Whether no name is given twice. -/
def allDistinct {α : Type} [BEq α] : List α → Bool
  | [] => true
  | a :: as => !as.contains a && allDistinct as

/-- The bindings in an element with these attributes, if they are allowed. -/
def Bindings.extended? (b : Bindings) (attributes : List (QName × List Char)) :
    Option Bindings :=
  attributes.foldlM (fun b (name, value) =>
    match bound? name with
    | none => some b
    | some space =>
      let identifier := String.ofList value
      if isBindable space identifier then some ((space, identifier) :: b) else none) b

/-- The attributes that bind no prefix, if each has a name of its own. -/
def Bindings.attributes? (b : Bindings) (attributes : List (QName × List Char)) :
    Option (List (String × String)) := do
  let plain := attributes.filter fun a => (bound? a.1).isNone
  let named ← plain.mapM fun (name, value) =>
    (b.attribute? name).map fun n => (n, String.ofList value)
  guard (allDistinct (named.map (·.1)))
  return named

namespace Scan

/-- A start tag, from its name on. -/
def startTag (d : Declarations) (around : Bindings) : Scan StartTag := do
  let name ← qualifiedName
  let given ← attributes d.entities ((← get).rest.length + 1)
  let line := (← get).line
  let all := d.complete name given
  if !allDistinct (given.map (·.1)) then stop
  let some bindings := around.extended? all | stop
  let some tag := bindings.tag? name | stop
  let some named := bindings.attributes? all | stop
  let closed ← accept ['/']
  expect ['>']
  return { name, head := ⟨tag, named, line⟩, bindings, closed }

end Scan

/-! ## Content -/

/-- An element whose end tag has not been read. -/
structure OpenElement where
  name : QName
  head : Head
  bindings : Bindings
  /-- What has been read of the content, last part first. -/
  content : List Node

namespace OpenElement

def ofTag (t : StartTag) : OpenElement := ⟨t.name, t.head, t.bindings, []⟩

def element (e : OpenElement) : Node := .element e.head e.content.reverse

def add (e : OpenElement) (n : Node) : OpenElement := { e with content := n :: e.content }

def addText (e : OpenElement) (cs : List Char) : OpenElement :=
  match e.content with
  | .text s :: content => { e with content := .text (s ++ String.ofList cs) :: content }
  | _ => e.add (.text (String.ofList cs))

end OpenElement

/-- What begins at a place in content. -/
inductive Markup where
  | endTag | comment | section | instruction | startTag | reference | bracket | text
deriving DecidableEq, Repr

namespace Scan

/-- What is next in content. The opening mark is passed, except that of a reference. -/
def markup : Scan Markup := do
  match ← peek with
  | none => stop
  | some c =>
    if c == '<' then
      if ← accept "</".toList then return .endTag
      else if ← accept "<!--".toList then return .comment
      else if ← accept "<![CDATA[".toList then return .section
      else if ← accept "<?".toList then return .instruction
      else
        pass 1
        return .startTag
    else if c == '&' then return .reference
    else if c == ']' then
      if ← sees "]]>".toList then stop
      else
        pass 1
        return .bracket
    else return .text

/-- The content of `e` and of the elements around it. `allows` tells which entities may be referred
to in an element with the given bindings. -/
def content (d : Declarations) (allows : Bindings → String → Bool) :
    Nat → OpenElement → List OpenElement → Scan Node
  | 0, _, _ => stop
  | fuel + 1, e, around => do
    match ← markup with
    | .endTag =>
      let name ← qualifiedName
      spaces
      expect ['>']
      if name != e.name then stop
      match around with
      | [] => return e.element
      | outer :: around => content d allows fuel (outer.add e.element) around
    | .comment => content d allows fuel (e.add (.comment (← comment))) around
    | .section => content d allows fuel (e.addText (← upTo "]]>".toList)) around
    | .instruction =>
      let (target, data) ← instruction
      content d allows fuel (e.add (.instruction target data)) around
    | .startTag =>
      let t ← startTag d e.bindings
      if t.closed then content d allows fuel (e.add (.element t.head [])) around
      else content d allows fuel (.ofTag t) (e :: around)
    | .reference =>
      let r ← Reference.read
      match r, r.char? with
      | _, some c => content d allows fuel (e.addText [c]) around
      | .number c, none => content d allows fuel (e.addText [c]) around
      | .name s, none =>
        if allows e.bindings s then content d allows fuel (e.add (.reference s)) around else stop
    | .bracket => content d allows fuel (e.addText [']']) around
    | .text =>
      let cs ← takeWhile fun c => c != '<' && c != '&' && c != ']'
      content d allows fuel (e.addText cs) around

end Scan

/-- Whether a reference to an entity is allowed in content: its text has to be content itself,
with references nested at most `depth` deep. -/
def Declarations.allows (d : Declarations) : Nat → Bindings → String → Bool
  | 0, _, _ => false
  | depth + 1, b, name =>
    match d.entities.find? name with
    | some (.text cs) =>
      let around : OpenElement := ⟨⟨"", "e"⟩, ⟨"e", [], 1⟩, b, []⟩
      let input := Input.ofChars (cs ++ "</e>".toList)
      match (Scan.content d (allows d depth) (input.rest.length + 1) around []).run input with
      | .ok (_, after) => after.rest.isEmpty && after.complete
      | .error _ => false
    | some .outer => true
    | some .data => false
    | none => d.entities.partly

end PropertyDocs.Xml
