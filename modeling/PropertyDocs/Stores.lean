import PropertyDocs.Chain
import PropertyDocs.Text.Quoted

/-!
# Stores

Levels that live on and refer to their parents by number. What is written to one is seen by all
below it, and a store can be given another parent.
-/
namespace PropertyDocs

structure Store where
  level : Level
  parent : Option Nat
deriving DecidableEq, Repr

structure Stores where
  entries : List Store
deriving DecidableEq, Repr

namespace Stores

def empty : Stores := ⟨[]⟩

def size (s : Stores) : Nat := s.entries.length

/-- Adds a store, whose number is the number of those before it. -/
def add (s : Stores) (level : Level) (parent : Option Nat) : Stores :=
  ⟨s.entries ++ [⟨level, parent⟩]⟩

def get? (s : Stores) (n : Nat) : Option Store := s.entries[n]?

def level (s : Stores) (n : Nat) : Level := ((s.get? n).map (·.level)).getD .empty

/-- The levels from a store to its root, along `parent`, at most `fuel` of them. -/
def levelsFrom (s : Stores) : Nat → Option Nat → List Level
  | 0, _ => []
  | _, none => []
  | fuel + 1, some n =>
    match s.get? n with
    | none => []
    | some store => store.level :: levelsFrom s fuel store.parent

/-- The levels above a store, its parent first. -/
def ancestors (s : Stores) (n : Nat) : List Level :=
  s.levelsFrom s.size ((s.get? n).bind (·.parent))

def chain (s : Stores) (n : Nat) : Chain := ⟨s.level n, s.ancestors n⟩

def setLevel (s : Stores) (n : Nat) (l : Level) : Stores :=
  ⟨s.entries.modify n fun store => { store with level := l }⟩

def setParent (s : Stores) (n : Nat) (parent : Option Nat) : Stores :=
  ⟨s.entries.modify n fun store => { store with parent }⟩

end Stores

/-! ## Texts -/

/-- The entries of a level in braces, as `__repr__` has them. -/
def Level.text (l : Level) : String :=
  "\x7b" ++ ", ".intercalate (l.entries.map fun e => Text.quoted e.1 ++ ": " ++ Text.quoted e.2)
    ++ "\x7d"

/-- `__repr__`. -/
def Store.text (s : Store) : String :=
  "PropertyStore(" ++ s.level.text ++ ", parent=" ++ (if s.parent.isSome then "set" else "None")
    ++ ")"

end PropertyDocs
