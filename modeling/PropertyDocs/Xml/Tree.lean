/-!
# XML trees

What a well-formed document says: elements with their attributes and content. Names in a namespace
are written as its identifier in braces before the local part.
-/
namespace PropertyDocs.Xml

/-- The start tag of an element. -/
structure Head where
  tag : String
  attributes : List (String × String)
  /-- The line on which the start tag ends. -/
  line : Nat
deriving DecidableEq, Repr

namespace Head

def attribute? (h : Head) (name : String) : Option String := h.attributes.lookup name

end Head

inductive Node where
  | element (head : Head) (content : List Node)
  | text (s : String)
  | comment (s : String)
  | instruction (target data : String)
  /-- A reference to an entity, left as it is. -/
  | reference (name : String)
deriving Repr

end PropertyDocs.Xml
