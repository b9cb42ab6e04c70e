/-!
# Decoding UTF-8

The characters of a row of bytes, or the first place at which the bytes are not UTF-8: how many of
them cannot be decoded there, and why.
-/
namespace PropertyDocs.Text

inductive Utf8Fault where
  | invalidStart
  | invalidContinuation
  | unexpectedEnd
deriving DecidableEq, Repr

structure Utf8Error where
  /-- The first byte that cannot be decoded. -/
  byte : UInt8
  position : Nat
  count : Nat
  fault : Utf8Fault
deriving DecidableEq, Repr

namespace Utf8Error

def hexByte (b : UInt8) : String :=
  let digits := Nat.toDigits 16 b.toNat
  String.ofList (if digits.length < 2 then '0' :: digits else digits)

def message (e : Utf8Error) : String :=
  let place :=
    if e.count == 1 then "byte 0x" ++ hexByte e.byte ++ " in position " ++ toString e.position
    else "bytes in position " ++ toString e.position ++ "-" ++ toString (e.position + e.count - 1)
  let reason := match e.fault with
    | .invalidStart => "invalid start byte"
    | .invalidContinuation => "invalid continuation byte"
    | .unexpectedEnd => "unexpected end of data"
  "'utf-8' codec can't decode " ++ place ++ ": " ++ reason

end Utf8Error

/-- The ranges of the bytes after a lead byte, if it is one. -/
def tailRanges? (b : UInt8) : Option (List (UInt8 × UInt8)) :=
  let tail : UInt8 × UInt8 := (0x80, 0xbf)
  if b < 0x80 then some []
  else if b < 0xc2 then none
  else if b < 0xe0 then some [tail]
  else if b == 0xe0 then some [(0xa0, 0xbf), tail]
  else if b == 0xed then some [(0x80, 0x9f), tail]
  else if b < 0xf0 then some [tail, tail]
  else if b == 0xf0 then some [(0x90, 0xbf), tail, tail]
  else if b < 0xf4 then some [tail, tail, tail]
  else if b == 0xf4 then some [(0x80, 0x8f), tail, tail]
  else none

/-- The bytes that fit the ranges, up to a fault. -/
def tailOf : List (UInt8 × UInt8) → List UInt8 → List UInt8 × Option Utf8Fault
  | [], _ => ([], none)
  | _ :: _, [] => ([], some .unexpectedEnd)
  | (low, high) :: ranges, b :: bs =>
    if low ≤ b && b ≤ high then (b :: (tailOf ranges bs).1, (tailOf ranges bs).2)
    else ([], some .invalidContinuation)

/-- The bits that a lead byte with so many bytes after it adds. -/
def leadBits (b : UInt8) : Nat → Nat
  | 0 => b.toNat
  | 1 => b.toNat % 32
  | 2 => b.toNat % 16
  | _ => b.toNat % 8

/-- Decodes the bytes from `position` on; the first `skip` of them belong to the last character. -/
def decodeFrom (position skip : Nat) : List UInt8 → Except Utf8Error (List Char)
  | [] => .ok []
  | b :: bs =>
    match skip with
    | skip + 1 => decodeFrom (position + 1) skip bs
    | 0 =>
      match tailRanges? b with
      | none => .error ⟨b, position, 1, .invalidStart⟩
      | some ranges =>
        match tailOf ranges bs with
        | (tail, some fault) => .error ⟨b, position, tail.length + 1, fault⟩
        | (tail, none) => do
          let n := tail.foldl (fun n t => n * 64 + t.toNat % 64) (leadBits b tail.length)
          let rest ← decodeFrom (position + 1) tail.length bs
          return Char.ofNat n :: rest

def decodeUtf8 (bytes : List UInt8) : Except Utf8Error (List Char) := decodeFrom 0 0 bytes

end PropertyDocs.Text
