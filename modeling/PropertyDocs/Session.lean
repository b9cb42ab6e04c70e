import PropertyDocs.Environment
import PropertyDocs.Loading
import PropertyDocs.Stores

/-!
# Sessions

Operations on stores, one after another. Most of them act on one store, which is named by its
number; others make new stores. An operation that fails keeps what it has written to its store up to
then, and makes no store.
-/
namespace PropertyDocs

inductive Operation where
  /-- Makes a store with the given entries. -/
  | create (level : Level) (parent : Option Nat)
  | put (store : Nat) (key value : String)
  | remove (store : Nat) (key : String)
  | setParent (store : Nat) (parent : Option Nat)
  | execute (store : Nat) (statement : Statement) (decryptor : Option Decryptor)
  | evaluate (store : Nat) (document : Document) (decryptor : Option Decryptor)
  /-- Runs a document on a new store. -/
  | load (document : Document) (parent : Option Nat)
  /-- Copies entries of `source` whose keys begin with `part`. -/
  | extend (store source : Nat) (part : String)
  /-- Loads files into new stores, each below that of the file before. -/
  | loadChain (disk : Disk) (paths : List Path) (parent : Option Nat)
      (decryptor : Option Decryptor)

/-- What an operation answers. -/
inductive Reply where
  | done
  | created (stores : List Nat)
  /-- The value that the key had in the store itself. -/
  | previous (value : Option String)
  | copied (count : Nat)
  | failed (e : LoadFailure)
deriving DecidableEq, Repr

namespace Stores

/-- The levels from a store on up to its root. -/
def levelsAt (s : Stores) (n : Option Nat) : List Level := s.levelsFrom s.size n

/-- Adds the levels, the first below `parent` and each of the others below the one before it. -/
def addBelow (s : Stores) (parent : Option Nat) : List Level → Stores
  | [] => s
  | l :: ls => (s.add l parent).addBelow (some s.size) ls

/-- Keeps what a run has made of the level of a store. -/
def settle (s : Stores) (n : Nat) (o : Outcome) : Stores × Reply :=
  (s.setLevel n o.level,
    match o.error with
    | some e => .failed (.evaluation e)
    | none => .done)

end Stores

def Operation.run (s : Stores) : Operation → Stores × Reply
  | .create level parent => (s.add level parent, .created [s.size])
  | .put n key value =>
    (s.setLevel n ((s.level n).put key value), .previous ((s.level n).get? key))
  | .remove n key => (s.setLevel n ((s.level n).remove key), .previous ((s.level n).get? key))
  | .setParent n parent => (s.setParent n parent, .done)
  | .execute n statement decryptor =>
    s.settle n (statement.run ⟨decryptor, s.ancestors n⟩ (s.level n))
  | .evaluate n document decryptor => s.settle n (document.run decryptor (s.chain n))
  | .load document parent =>
    let o := document.load (s.levelsAt parent)
    match o.error with
    | some e => (s, .failed (.evaluation e))
    | none => (s.add o.level parent, .created [s.size])
  | .extend n source part =>
    let extended := Environment.extend (s.level n) (s.level source) part
    (s.setLevel n extended.1, .copied extended.2)
  | .loadChain disk paths parent decryptor =>
    match disk.loadChain decryptor (s.levelsAt parent) paths with
    | .error e => (s, .failed e)
    | .ok loaded =>
      (s.addBelow parent (loaded.map (·.2)),
        .created (List.range' s.size loaded.length))

/-- The stores after a row of operations, of which some may have failed. -/
def Stores.after (s : Stores) (operations : List Operation) : Stores :=
  operations.foldl (fun s op => (op.run s).1) s

end PropertyDocs
