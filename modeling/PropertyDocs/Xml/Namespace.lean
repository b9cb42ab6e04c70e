import PropertyDocs.Xml.Scan

/-!
# Namespaces

A prefix of a name is bound to the identifier of a namespace by an attribute of the element or of
one around it. The name is then the identifier in braces before the part after the colon; names of
attributes without a prefix are in no namespace.
-/
namespace PropertyDocs.Xml

/-- The identifier of a namespace, which is compared and never looked up. -/
def identifierOf (scheme rest : String) : String := scheme ++ ":" ++ rest

/-- The namespace of the prefix `xml`. -/
def xmlIdentifier : String := identifierOf "http" "//www.w3.org/XML/1998/namespace"

/-- The namespace of attributes that bind prefixes. -/
def bindingIdentifier : String := identifierOf "http" "//www.w3.org/2000/xmlns/"

/-- Each prefix with its namespace, the binding in force first; the empty prefix is that of names
without one. -/
abbrev Bindings := List (String × String)

namespace Bindings

/-- What every document begins with. -/
def initial : Bindings := [("xml", xmlIdentifier)]

def inSpace (identifier part : String) : String :=
  if identifier == "" then part else "\x7b" ++ identifier ++ "\x7d" ++ part

/-- The name of an element. -/
def tag? (b : Bindings) (name : QName) : Option String :=
  match b.lookup name.space with
  | some identifier => some (inSpace identifier name.part)
  | none => if name.space == "" then some name.part else none

/-- The name of an attribute. -/
def attribute? (b : Bindings) (name : QName) : Option String :=
  if name.space == "" then some name.part else b.tag? name

/-! ## Binding attributes -/

/-- The prefix that an attribute of this name binds. -/
def bound? (name : QName) : Option String :=
  if name.space == "xmlns" then some name.part
  else if name.space == "" && name.part == "xmlns" then some ""
  else none

/-- Characters of identifiers of resources other than the percent sign. -/
def isResourceChar (c : Char) : Bool :=
  c.isAlphanum || "-._~:/?#[]@!$&'()*+,;=".toList.contains c

/-- Whether the characters may stand in an identifier; a percent sign needs two digits. -/
def isResource : List Char → Bool
  | [] => true
  | '%' :: a :: b :: cs => isHex a && isHex b && isResource cs
  | c :: cs => isResourceChar c && isResource cs
where
  isHex (c : Char) : Bool := c.isDigit || ('a' ≤ c && c ≤ 'f') || ('A' ≤ c && c ≤ 'F')

/-- Whether `space` may be bound to the namespace `identifier`. -/
def isBindable (space identifier : String) : Bool :=
  if space == "xml" then identifier == xmlIdentifier
  else space != "xmlns" && identifier != xmlIdentifier && identifier != bindingIdentifier &&
    (space == "" || identifier != "") && isResource identifier.toList

end Bindings

end PropertyDocs.Xml
