import PropertyDocs.Evaluation
import PropertyDocs.Grammar
import PropertyDocs.Xml.Document

/-!
# Documents

A document is compiled once, from either of two formats, and run on as many levels as wanted.
Several documents together are one whose blocks run one after another.
-/
namespace PropertyDocs

structure Document (τ : Type := String) where
  body : List (Statement τ)
  source : Option String
  decryptor : Option (Decryptor τ)

namespace Document

variable {τ : Type} [Texts τ]

/-! ## Compiling -/

inductive Format where
  | xml
  | flat
deriving DecidableEq, Repr

/-- A name that no format has. -/
structure UnknownFormat where
  name : String
deriving DecidableEq, Repr

def UnknownFormat.message (e : UnknownFormat) : String :=
  "Unknown document format: " ++ Text.quoted e.name

def Format.ofName (name : String) : Except UnknownFormat Format :=
  if name == "xml" then .ok .xml
  else if name == "properties" then .ok .flat
  else .error ⟨name⟩

/-- A document as it is given. -/
inductive Content where
  | text (s : String)
  | bytes (bs : List UInt8)

namespace Content

/-- The bytes of an XML document. -/
def toBytes : Content → List UInt8
  | text s => s.toUTF8.toList
  | bytes bs => bs

/-- The text of a flat document; each byte is the character of that number. -/
def toText : Content → String
  | text s => s
  | bytes bs => String.ofList (bs.map fun b => Char.ofNat b.toNat)

end Content

/-- `parse_xml`. -/
def xmlBody (bytes : List UInt8) : Except CompileError (List Statement) :=
  match Xml.parse bytes with
  | .ok root => Grammar.document root
  | .error e => .error (.defect .malformedXml (some e.line))

/-- An entry of a flat document is an assignment, of which nothing is expanded. -/
def flatStatement (e : τ × τ) : Statement τ :=
  .assign { key := .literal e.1, value := .literal e.2, defaultOnly := false, encrypted := false }

/-- `parse_properties`. -/
def flatBody (text : String) : Except CompileError (List (Statement τ)) :=
  match FlatFormat.entries text with
  | (entries, none) => .ok (entries.map fun e => flatStatement (Texts.ofEntry e))
  | (_, some e) => .error (.defect (.malformedEscape e) none)

def bodyOf (content : Content) : Format → Except CompileError (List Statement)
  | .xml => xmlBody content.toBytes
  | .flat => flatBody content.toText

/-- `compile_document`. -/
def compile (content : Content) (format : Format) (source : Option String)
    (decryptor : Option Decryptor) : Except CompileError Document := do
  return { body := ← bodyOf content format, source, decryptor }

/-- Compiles a flat document, with texts of any type. -/
def compileFlat (content : Content) (source : Option String) (decryptor : Option (Decryptor τ)) :
    Except CompileError (Document τ) := do
  return { body := ← flatBody content.toText, source, decryptor }

/-- With strings it does what `compile` does. -/
theorem compile_flat (content : Content) (source : Option String) (decryptor : Option Decryptor) :
    compile content .flat source decryptor = compileFlat content source decryptor := rfl

/-! ## Combining and running -/

/-- `concat`: the blocks of the documents, one after another. Without a decryptor, the first that a
document has is taken. -/
def concat (documents : List Document) (decryptor : Option Decryptor) : Document :=
  let sources := (documents.filterMap (·.source)).filter (· != "")
  { body := documents.map fun d => .block d.body
    source := if sources.isEmpty then none else some (", ".intercalate sources)
    decryptor := decryptor <|> documents.findSome? (·.decryptor) }

/-- `Document.evaluate`: runs the document on the leaf of a chain; `decryptor` goes before that of
the document. -/
def run [DecidableEq τ] (d : Document τ) (decryptor : Option (Decryptor τ)) (c : Chain τ) :
    Outcome τ :=
  runAll ⟨decryptor <|> d.decryptor, c.ancestors⟩ d.body c.leaf

/-- `Document.load`: runs the document on a new level below the given ones. -/
def load [DecidableEq τ] (d : Document τ) (ancestors : List (Level τ)) : Outcome τ :=
  d.run none ⟨.empty, ancestors⟩

end Document

end PropertyDocs
