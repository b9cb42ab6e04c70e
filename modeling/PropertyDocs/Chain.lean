import PropertyDocs.Level
import PropertyDocs.Texts

/-!
# Chains of levels

A chain is what a `PropertyStore` shows: a leaf level with its ancestors, the nearest first. Reading
goes from the leaf to the root and stops at the first level that has the key; writing concerns the
leaf alone.
-/
namespace PropertyDocs

structure Chain (τ : Type := String) where
  leaf : Level τ
  ancestors : List (Level τ)
deriving DecidableEq, Repr

namespace Chain

variable {τ : Type} [DecidableEq τ]

/-- The levels, the leaf first. -/
def levels (c : Chain τ) : List (Level τ) := c.leaf :: c.ancestors

/-- The value at the nearest of `levels` that has the key. -/
def find? (levels : List (Level τ)) (key : τ) : Option τ := levels.findSome? (·.get? key)

/-- `PropertyStore.get`. -/
def get? (c : Chain τ) (key : τ) : Option τ := find? c.levels key

/-- The value of a key, with the empty text for one that is not defined. -/
def value [Texts τ] (c : Chain τ) (key : τ) : τ := (c.get? key).getD Texts.empty

/-- `__contains__`. -/
def contains (c : Chain τ) (key : τ) : Bool := (c.get? key).isSome

/-- One level that holds what the given levels show together: those nearer the leaf come first in
the list and are written over those after them. -/
def flattened : List (Level τ) → Level τ
  | [] => .empty
  | l :: ancestors => (flattened ancestors).putAll l.entries

/-- `flatten`: the chained view as one level, in order of first appearance from the root to the
leaf. -/
def flatten (c : Chain τ) : Level τ := flattened c.levels

/-- `new_child`: a new, empty leaf below the leaf of `c`. -/
def child (c : Chain τ) : Chain τ := ⟨.empty, c.levels⟩

/-! ## Looking up -/

@[simp] theorem find?_nil (k : τ) : find? [] k = none := rfl

theorem find?_cons (l : Level τ) (ls : List (Level τ)) (k : τ) :
    find? (l :: ls) k = (l.get? k).or (find? ls k) := by
  simp only [find?, List.findSome?_cons]
  cases l.get? k <;> rfl

/-- The leaf goes before what is above it. -/
theorem get?_mk (leaf : Level τ) (ancestors : List (Level τ)) (k : τ) :
    (Chain.mk leaf ancestors).get? k = (leaf.get? k).or (find? ancestors k) :=
  find?_cons leaf ancestors k

/-- An empty leaf shows what is above it. -/
@[simp] theorem find?_empty_cons (ls : List (Level τ)) (k : τ) :
    find? (.empty :: ls) k = find? ls k := by simp [find?_cons]

/-- The flattened view has the same value under every key as the levels it was made of. -/
theorem get?_flattened (ls : List (Level τ)) (k : τ) : (flattened ls).get? k = find? ls k := by
  induction ls with
  | nil => rfl
  | cons l ls ih =>
    rw [flattened, Level.get?_putAll, Level.lookup_reverse_entries, ih, find?_cons]

theorem find?_flattened (ls : List (Level τ)) (k : τ) : find? [flattened ls] k = find? ls k := by
  rw [find?_cons, get?_flattened, find?_nil, Option.or_none]

end Chain

end PropertyDocs
