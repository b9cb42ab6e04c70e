import PropertyDocs.Xml.Reference

/-!
# Document type declarations

A document may declare entities and attributes in front of its root. The declarations of elements
and notations are passed over, and texts outside the document are not read.
-/
namespace PropertyDocs.Xml

/-- What is declared of an attribute of an element. -/
structure AttributeRule where
  element : QName
  name : QName
  /-- The value is a list of tokens, whose spacing means nothing. -/
  tokens : Bool
  /-- The value where the element gives none. -/
  default : Option (List Char)
deriving Repr

structure Declarations where
  entities : Entities
  /-- The first rule of an attribute counts. -/
  attributes : List AttributeRule

namespace Declarations

def empty : Declarations := ⟨⟨[], false⟩, []⟩

def declare (d : Declarations) (name : String) (e : Entity) : Declarations :=
  { d with entities := { d.entities with declared := d.entities.declared ++ [(name, e)] } }

/-- Some declarations stand outside the document. -/
def opened (d : Declarations) : Declarations :=
  { d with entities := { d.entities with partly := true } }

/-- Tokens with one blank between neighbours. -/
def spaced (cs : List Char) : List Char :=
  match cs.dropWhile (· == ' ') with
  | [] => []
  | c :: cs => c :: between cs
where
  between : List Char → List Char
    | [] => []
    | ' ' :: c :: cs => if c == ' ' then between (c :: cs) else ' ' :: c :: between cs
    | [c] => if c == ' ' then [] else [c]
    | c :: cs => c :: between cs

def rule? (d : Declarations) (element name : QName) : Option AttributeRule :=
  d.attributes.find? fun r => r.element == element && r.name == name

/-- The attributes of an element as declared: tokens spaced, and the values that it does not give
after those that it gives. -/
def complete (d : Declarations) (element : QName) (given : List (QName × List Char)) :
    List (QName × List Char) :=
  let given := given.map fun (name, value) =>
    (name, if ((d.rule? element name).map (·.tokens)).getD false then spaced value else value)
  d.attributes.foldl (fun attributes r =>
    match r.default with
    | some value =>
      if r.element == element && !attributes.any (·.1 == r.name) then
        attributes ++ [(r.name, value)]
      else attributes
    | none => attributes) given

end Declarations

namespace Scan

/-! ## Parts -/

/-- Whether a public or system identifier is next; it is passed. -/
def externalId : Scan Bool := do
  if ← accept "SYSTEM".toList then
    someSpace
    let _ ← literal
    return true
  else if ← accept "PUBLIC".toList then
    someSpace
    let _ ← literal
    someSpace
    let _ ← literal
    return true
  else return false

/-- The value of an entity up to the quote `q`: characters stand for their numbers, other
references are kept. -/
def entityValue (q : Char) : Nat → Scan (List Char)
  | 0 => stop
  | fuel + 1 => do
    match ← peek with
    | none => stop
    | some c =>
      if c == q then
        pass 1
        return []
      else if c == '%' then stop
      else if c == '&' then
        let r ← Reference.read
        return r.shortened ++ (← entityValue q fuel)
      else
        let run ← takeWhile fun c => c != q && c != '%' && c != '&'
        return run ++ (← entityValue q fuel)

/-- Passes what remains of a declaration. -/
def restOfDeclaration : Nat → Scan Unit
  | 0 => stop
  | fuel + 1 => do
    let _ ← takeWhile fun c => c != '>' && c != '"' && c != '\''
    if ← accept ['>'] then return ()
    else
      let _ ← literal
      restOfDeclaration fuel

/-! ## Declarations -/

/-- What an entity is, up to the end of its declaration. -/
def entity : Scan Entity := do
  match ← peek with
  | some q =>
    if q == '"' || q == '\'' then
      pass 1
      return .text (← entityValue q ((← get).rest.length + 1))
    else if ← externalId then
      let spaced := !(← takeWhile isSpace).isEmpty
      if spaced && (← accept "NDATA".toList) then
        someSpace
        let _ ← plainName
        return .data
      else return .outer
    else stop
  | none => stop

def entityDeclaration (d : Declarations) : Scan Declarations := do
  someSpace
  let parameter ← accept ['%']
  if parameter then someSpace
  let name ← plainName
  someSpace
  let e ← entity
  spaces
  expect ['>']
  return if parameter then d else d.declare (String.ofList name) e

/-- Passes the type of an attribute; the result tells whether it is one of tokens. -/
def attributeType : Scan Bool := do
  if ← accept "CDATA".toList then return false
  else
    let keyword ← takeWhile Char.isUpper
    let _ ← takeWhile isSpace
    if ← accept ['('] then
      let _ ← upTo [')']
      return true
    else if keyword.isEmpty then stop
    else return true

def attributeRules (d : Declarations) (element : QName) : Nat → Scan Declarations
  | 0 => stop
  | fuel + 1 => do
    spaces
    if ← accept ['>'] then return d
    else
      let name ← qualifiedName
      someSpace
      let tokens ← attributeType
      spaces
      let default ←
        if ← accept "#REQUIRED".toList then pure none
        else if ← accept "#IMPLIED".toList then pure none
        else
          if ← accept "#FIXED".toList then someSpace
          let value ← attributeValue d.entities
          pure (some (if tokens then Declarations.spaced value else value))
      let rule : AttributeRule := { element, name, tokens, default }
      let d :=
        if (d.rule? element name).isSome then d else { d with attributes := d.attributes ++ [rule] }
      attributeRules d element fuel

/-- A comment, from after its opening mark on. -/
def comment : Scan String := do
  let cs ← upTo "--".toList
  expect ['>']
  return String.ofList cs

/-- A processing instruction, from after its opening mark on. -/
def instruction : Scan (String × String) := do
  let target ← plainName
  if target.map Char.toLower == "xml".toList then stop
  if ← accept "?>".toList then return (String.ofList target, "")
  else
    someSpace
    let data ← upTo "?>".toList
    return (String.ofList target, String.ofList data)

/-- Declarations up to the bracket that ends them. -/
def declarations : Nat → Declarations → Scan Declarations
  | 0, _ => stop
  | fuel + 1, d => do
    spaces
    if ← accept [']'] then return d
    else if ← accept ['%'] then
      let _ ← plainName
      expect [';']
      declarations fuel d.opened
    else if ← accept "<!--".toList then
      let _ ← comment
      declarations fuel d
    else if ← accept "<?".toList then
      let _ ← instruction
      declarations fuel d
    else if ← accept "<!ENTITY".toList then
      declarations fuel (← entityDeclaration d)
    else if ← accept "<!ATTLIST".toList then
      someSpace
      let element ← qualifiedName
      declarations fuel (← attributeRules d element ((← get).rest.length + 1))
    else if (← accept "<!ELEMENT".toList) || (← accept "<!NOTATION".toList) then
      someSpace
      let _ ← qualifiedName
      restOfDeclaration ((← get).rest.length + 1)
      declarations fuel d
    else stop

/-- A document type declaration, from after its opening mark on. -/
def doctype : Scan Declarations := do
  spaces
  let _ ← qualifiedName
  spaces
  let outside ← externalId
  let d := if outside then Declarations.empty.opened else .empty
  spaces
  if ← accept ['['] then
    let d ← declarations ((← get).rest.length + 1) d
    spaces
    expect ['>']
    return d
  else
    expect ['>']
    return d

end Scan

end PropertyDocs.Xml
