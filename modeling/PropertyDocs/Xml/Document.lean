import PropertyDocs.Xml.Content
import PropertyDocs.Xml.Encoding

/-!
# XML documents

A document is its root element with comments and instructions before and after it, perhaps a
declaration of its encoding and one of its type before the root.
-/
namespace PropertyDocs.Xml

namespace Scan

/-- Passes blanks, comments and instructions. -/
def misc : Nat → Scan Unit
  | 0 => stop
  | fuel + 1 => do
    spaces
    if ← accept "<!--".toList then
      let _ ← comment
      misc fuel
    else if ← accept "<?".toList then
      let _ ← instruction
      misc fuel
    else return ()

/-- The declarations that stand before the root. -/
def prolog (standalone : Bool) : Scan Declarations := do
  let n := (← get).rest.length + 1
  misc n
  if ← accept "<!DOCTYPE".toList then
    let d ← doctype
    misc n
    return if standalone then { d with entities := { d.entities with partly := false } } else d
  else return .empty

/-- The root element of a document. -/
def document : Scan Node := do
  let standalone ←
    if ← seesDeclaration then
      let d ← declaration
      pure d.standalone
    else pure false
  let d ← prolog standalone
  expect ['<']
  let t ← startTag d .initial
  let n := (← get).rest.length + 1
  let root ←
    if t.closed then pure (.element t.head [])
    else content d (d.allows d.entities.depth) n (.ofTag t) []
  misc n
  let i ← get
  if i.rest.isEmpty && i.complete then return root else stop

end Scan

/-- Reads the root element of a document. -/
def parse (bytes : List UInt8) : Except Malformed Node := do
  let cs ← Encoding.charsOf bytes
  Scan.document.run' (Input.ofChars cs)

end PropertyDocs.Xml
