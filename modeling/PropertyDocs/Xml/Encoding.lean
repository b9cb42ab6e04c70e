import PropertyDocs.Xml.CodePage
import PropertyDocs.Xml.Scan

/-!
# Encodings of documents

How the bytes of a document become characters. A byte order mark, or the first characters in units
of two bytes, tell the encoding; else the XML declaration does, and without one it is UTF-8. Bytes
that stand for no character become U+FFFF, which no document may hold.
-/
namespace PropertyDocs.Xml

inductive Encoding where
  | utf8
  | utf16 (bigEndian : Bool)
  | ascii
  | page (p : CodePage)

namespace Encoding

/-- The character of a code point, U+FFFF if it is none. -/
def charOf (n : Nat) : Char := if n.isValidChar then Char.ofNat n else '\uffff'

def isTail (b : UInt8) : Bool := 0x80 ≤ b && b < 0xc0

/-- The character of a lead byte and the `tail` bytes after it; the shortest form alone is right. -/
def utf8Char (lead least : Nat) (tail : List UInt8) : Char :=
  let n := tail.foldl (fun n b => n * 64 + b.toNat % 64) lead
  if n < least || !tail.all isTail then '\uffff' else charOf n

def decodeUtf8 : List UInt8 → List Char
  | [] => []
  | b :: bs =>
    if b < 0x80 then Char.ofNat b.toNat :: decodeUtf8 bs
    else if b < 0xc0 then '\uffff' :: decodeUtf8 bs
    else if b < 0xe0 then
      match bs with
      | b1 :: rest => utf8Char (b.toNat - 0xc0) 0x80 [b1] :: decodeUtf8 rest
      | _ => ['\uffff']
    else if b < 0xf0 then
      match bs with
      | b1 :: b2 :: rest => utf8Char (b.toNat - 0xe0) 0x800 [b1, b2] :: decodeUtf8 rest
      | _ => ['\uffff']
    else if b < 0xf8 then
      match bs with
      | b1 :: b2 :: b3 :: rest =>
        utf8Char (b.toNat - 0xf0) 0x10000 [b1, b2, b3] :: decodeUtf8 rest
      | _ => ['\uffff']
    else '\uffff' :: decodeUtf8 bs

/-- The units of two bytes; a byte left over makes a unit that is no character. -/
def units (bigEndian : Bool) : List UInt8 → List Nat
  | [] => []
  | [_] => [0xffff]
  | a :: b :: bs =>
    (if bigEndian then a.toNat * 256 + b.toNat else b.toNat * 256 + a.toNat) :: units bigEndian bs

def isHighSurrogate (n : Nat) : Bool := 0xd800 ≤ n && n < 0xdc00

def isLowSurrogate (n : Nat) : Bool := 0xdc00 ≤ n && n < 0xe000

def decodeUnits : List Nat → List Char
  | [] => []
  | [u] => [charOf u]
  | u :: v :: us =>
    if isHighSurrogate u && isLowSurrogate v then
      charOf (0x10000 + (u - 0xd800) * 1024 + (v - 0xdc00)) :: decodeUnits us
    else charOf u :: decodeUnits (v :: us)

def decode : Encoding → List UInt8 → List Char
  | utf8, bs => decodeUtf8 bs
  | utf16 bigEndian, bs => decodeUnits (units bigEndian bs)
  | ascii, bs => bs.map fun b => if b < 0x80 then Char.ofNat b.toNat else '\uffff'
  | page p, bs => bs.map fun b => if b < 0x80 then Char.ofNat b.toNat else p.decode b

/-- The encodings of one to four bytes per character that a declaration may name. -/
def named? (name : String) : Option Encoding :=
  let name := name.map Char.toLower
  if name == "utf-8" || name == "utf8" then some utf8
  else if name == "us-ascii" || name == "ascii" then some ascii
  else (CodePage.named.lookup name).map page

/-- The encoding that the first bytes show, and how many of them are a mark. -/
def marked? : List UInt8 → Option (Encoding × Nat)
  | 0xef :: 0xbb :: 0xbf :: _ => some (utf8, 3)
  | 0xfe :: 0xff :: _ => some (utf16 true, 2)
  | 0xff :: 0xfe :: _ => some (utf16 false, 2)
  | 0x00 :: 0x3c :: 0x00 :: 0x3f :: _ => some (utf16 true, 0)
  | 0x3c :: 0x00 :: 0x3f :: 0x00 :: _ => some (utf16 false, 0)
  | _ => none

/-- The encoding that the declaration of a document in an ASCII-based encoding names. -/
def ofDeclaration : Scan Encoding := do
  if ← Scan.seesDeclaration then
    match (← Scan.declaration).encoding with
    | none => return utf8
    | some name =>
      match named? name with
      | some e => return e
      | none => Scan.stop
  else return utf8

/-- The characters of a document. -/
def charsOf (bytes : List UInt8) : Except Malformed (List Char) :=
  match marked? bytes with
  | some (e, mark) => .ok (e.decode (bytes.drop mark))
  | none =>
    (ofDeclaration.run' (Input.ofChars ((page .latin1).decode bytes))).map (·.decode bytes)

end Encoding

end PropertyDocs.Xml
