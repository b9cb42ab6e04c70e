import PropertyDocs.Level
import PropertyDocs.Number.Shortest

/-!
# Scalars

The values that can be given for keys and values of a level, where they become texts. Keys that are
equal as values are one key, whose text is that of the first.
-/
namespace PropertyDocs

inductive Scalar where
  | text (s : String)
  | integer (n : Int)
  | real (x : Binary64)
  | boolean (b : Bool)
  | absent
deriving Repr

namespace Scalar

def toText : Scalar → String
  | text s => s
  | integer n => toString n
  | real x => x.text
  | boolean b => if b then "True" else "False"
  | absent => "None"

/-- The number that a scalar counts as. -/
def number? : Scalar → Option (Int ⊕ Binary64)
  | integer n => some (.inl n)
  | boolean b => some (.inl (if b then 1 else 0))
  | real x => some (match x.toInt? with
    | some n => .inl n
    | none => .inr x)
  | _ => none

/-- Whether two scalars are one key. -/
def same (a b : Scalar) : Bool :=
  match a, b with
  | text s, text t => s == t
  | absent, absent => true
  | _, _ =>
    match a.number?, b.number? with
    | some (.inl m), some (.inl n) => m == n
    | some (.inr x), some (.inr y) => x.same y
    | _, _ => false

end Scalar

/-- Writes a value over that of an equal key, or appends it. -/
def putScalar (key value : Scalar) : List (Scalar × Scalar) → List (Scalar × Scalar)
  | [] => [(key, value)]
  | (k, v) :: rest => if k.same key then (k, value) :: rest else (k, v) :: putScalar key value rest

/-- `from_mapping`: the level of the given keys and values. -/
def Level.ofScalars (pairs : List (Scalar × Scalar)) : Level :=
  let merged := pairs.foldl (fun merged p => putScalar p.1 p.2 merged) []
  Level.ofPairs (merged.map fun p => (p.1.toText, p.2.toText))

end PropertyDocs
