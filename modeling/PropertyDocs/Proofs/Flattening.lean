import PropertyDocs.Proofs.KeyOrder
import PropertyDocs.Proofs.Sessions

/-!
# The flattened view

Reading goes up from a store and stops at the first level that has the key; flattening goes down
from the root and writes each level over those above it. Both describe one map, and the flattened
view has its keys in the order in which they first appear on the way down.
-/
namespace PropertyDocs

/-! ## Keys of a flattened view -/

theorem Appends.putAll {τ : Type} [DecidableEq τ] (free : τ → Bool) (pairs : List (τ × τ)) :
    ∀ l : Level τ, Appends free (pairs.map (·.1)) l (l.putAll pairs) := by
  induction pairs with
  | nil => exact fun l => .refl free l
  | cons e rest ih => exact fun l => (Appends.put free l e.1 e.2).trans (ih (l.put e.1 e.2))

namespace Chain

/-- Each level appends those of its keys that no level above it has. -/
theorem appends_flattened (free : String → Bool) (levels : List Level) :
    Appends free (levels.reverse.flatMap Level.keys) .empty (flattened levels) := by
  induction levels with
  | nil => exact .refl free .empty
  | cons l ancestors ih =>
    rw [List.reverse_cons, List.flatMap_append, List.flatMap_singleton]
    exact ih.trans (Appends.putAll free l.entries (flattened ancestors))

theorem keys_flattened (levels : List Level) :
    (flattened levels).keys = (levels.reverse.flatMap Level.keys).eraseDups :=
  (appends_flattened _ levels).keys_eq

/-! ## Reading a chain -/

variable {c : Chain} {k v : String}

theorem contains_iff : c.contains k = true ↔ c.get? k ≠ none := by
  rw [contains, Option.isSome_iff_ne_none]

theorem get?_flatten : c.flatten.get? k = c.get? k := get?_flattened c.levels k

theorem mem_keys_flatten_iff : k ∈ c.flatten.keys ↔ c.contains k = true := by
  rw [Level.mem_keys_iff, get?_flatten, contains_iff]

end Chain

/-- The nearest store of a line that has a key decides what is read under it. -/
theorem Stores.Line.get?_eq_some_iff {s : Stores} {n : Nat} {line : List Nat} {k v : String}
    (hline : s.Line n line) (hlt : ∀ m ∈ line, m < s.size) :
    (s.chain n).get? k = some v ↔ ∃ nearer m further, line = nearer ++ m :: further ∧
      (s.level m).get? k = some v ∧ ∀ x ∈ nearer, (s.level x).get? k = none := by
  rw [Chain.get?, hline.levels_chain hlt, Chain.find?, List.findSome?_map,
    List.findSome?_eq_some_iff]
  rfl

/-- **The flattened view and the reads describe one map.** However the stores were reached, at a
store whose way up ends at a root the keys of the flattened view are those that the store contains,
which are those that have a value, and the value is that of the nearest store of the line which has
the key itself, be it empty. No key is repeated, and they stand in the order in which they first
appear from the root to the leaf, each level in its own order. -/
theorem flatten_agrees_with_reads (start : Stores) (operations : List Operation) {n : Nat}
    {line : List Nat} (hline : (start.after operations).Line n line)
    (hlt : ∀ m ∈ line, m < (start.after operations).size) :
    let s := start.after operations
    let c := s.chain n
    (∀ k, (k ∈ c.flatten.keys ↔ c.contains k = true) ∧
      (c.contains k = true ↔ c.get? k ≠ none)) ∧
    (∀ k v, (c.flatten.get? k = some v ↔ c.get? k = some v) ∧
      (c.get? k = some v ↔ ∃ nearer m further, line = nearer ++ m :: further ∧
        (s.level m).get? k = some v ∧ ∀ x ∈ nearer, (s.level x).get? k = none)) ∧
    c.flatten.keys.Nodup ∧
    c.flatten.keys = (line.reverse.flatMap fun m => (s.level m).keys).eraseDups := by
  intro s c
  have hkeys : c.flatten.keys = (line.reverse.flatMap fun m => (s.level m).keys).eraseDups := by
    rw [Chain.flatten, Chain.keys_flattened, hline.levels_chain hlt, ← List.map_reverse,
      List.flatMap_map]
  refine ⟨fun k => ⟨Chain.mem_keys_flatten_iff, Chain.contains_iff⟩, fun k v => ⟨?_, ?_⟩,
    c.flatten.distinct, hkeys⟩
  · rw [Chain.get?_flatten]
  · exact hline.get?_eq_some_iff hlt

/-- In the sample a store is hung below another one later on, whose empty value hides that of the
root, and a key of the root has come to stand last. -/
theorem flatten_agrees_with_reads_sample :
    let operations : List Operation :=
      [.create (.ofPairs [("a", "1"), ("b", "2")]) none, .create (.ofPairs [("b", "")]) (some 0),
        .create (.ofPairs [("c", "3"), ("a", "4")]) none, .remove 0 "a", .put 0 "a" "5",
        .setParent 2 (some 1)]
    let s := Stores.empty.after operations
    s.Line 2 [2, 1, 0] ∧ (∀ m ∈ [2, 1, 0], m < s.size) ∧
    (s.chain 2).flatten.keys = ["b", "a", "c"] ∧ (s.chain 2).get? "b" = some "" ∧
    (s.chain 2).flatten.get? "a" = some "4" := by
  intro operations s
  have hline : s.Line 2 [2, 1, 0] := .next (by decide) (.next (by decide) (.root (by decide)))
  have hlt : ∀ m ∈ [2, 1, 0], m < s.size := by decide
  obtain ⟨-, hvalues, -, hkeys⟩ := flatten_agrees_with_reads .empty operations hline hlt
  refine ⟨hline, hlt, hkeys.trans (by decide), (hvalues "b" "").2.2 ?_, (hvalues "a" "4").1.2 ?_⟩
  · exact ⟨[2], 1, [0], rfl, by decide, by decide⟩
  · exact (hvalues "a" "4").2.2 ⟨[], 2, [1, 0], rfl, by decide, by decide⟩

end PropertyDocs
