/-!
# Levels

A level is what a `PropertyStore` holds by itself, an insertion-ordered map from keys to values.
Writing a key that is present keeps its place; writing one that is absent, also after it was
removed, appends it.
-/
namespace PropertyDocs

@[ext]
structure Level (τ : Type := String) where
  entries : List (τ × τ)
  distinct : (entries.map (·.1)).Nodup
deriving DecidableEq, Repr

namespace Level

variable {τ : Type} [DecidableEq τ]

def empty : Level τ := ⟨[], List.nodup_nil⟩

/-- `local_get`. -/
def get? (l : Level τ) (key : τ) : Option τ := l.entries.lookup key

def contains (l : Level τ) (key : τ) : Bool := (l.get? key).isSome

def keys (l : Level τ) : List τ := l.entries.map (·.1)

def size (l : Level τ) : Nat := l.entries.length

/-- The entries with the value of `key` replaced. -/
def replaced (key value : τ) (entries : List (τ × τ)) : List (τ × τ) :=
  entries.map fun e => if e.1 = key then (key, value) else e

theorem lookup_cons_if (k key value : τ) (rest : List (τ × τ)) :
    ((key, value) :: rest).lookup k = if k = key then some value else rest.lookup k := by
  by_cases h : k = key
  · simp [h]
  · simp [List.lookup_cons, beq_false_of_ne h, h]

theorem keys_replaced (key value : τ) (entries : List (τ × τ)) :
    (replaced key value entries).map (·.1) = entries.map (·.1) := by
  simp only [replaced, List.map_map]
  refine List.map_congr_left fun e _ => ?_
  by_cases h : e.1 = key <;> simp [h]

theorem lookup_replaced (key value k : τ) (entries : List (τ × τ)) :
    (replaced key value entries).lookup k =
      if k = key then (entries.lookup key).map fun _ => value else entries.lookup k := by
  induction entries with
  | nil => simp [replaced]
  | cons e rest ih =>
    obtain ⟨k', v'⟩ := e
    simp only [replaced, List.map_cons, lookup_cons_if] at ih ⊢
    by_cases hk : k' = key
    · subst hk
      by_cases h : k = k' <;> simp [lookup_cons_if, h, ih]
    · by_cases h : k = k' <;> grind [lookup_cons_if]

theorem lookup_eq_none_iff {key : τ} {entries : List (τ × τ)} :
    entries.lookup key = none ↔ key ∉ entries.map (·.1) := by
  simp only [List.lookup_eq_none_iff, List.mem_map, not_exists, not_and, bne_iff_ne]
  exact ⟨fun h e he heq => h e he heq.symm, fun h e he heq => h e he heq.symm⟩

/-- `put`, without the old value that it answers. -/
def put (l : Level τ) (key value : τ) : Level τ :=
  if h : l.contains key then
    ⟨replaced key value l.entries, by rw [keys_replaced]; exact l.distinct⟩
  else
    ⟨l.entries ++ [(key, value)], by
      have habsent : key ∉ l.entries.map (·.1) :=
        lookup_eq_none_iff.1 (Option.not_isSome_iff_eq_none.1 h)
      rw [List.map_append, List.nodup_append]
      refine ⟨l.distinct, by simp, ?_⟩
      rintro k hk _ hk' rfl
      obtain rfl : k = key := by simpa using hk'
      exact habsent hk⟩

/-- `remove`, likewise. -/
def remove (l : Level τ) (key : τ) : Level τ :=
  ⟨l.entries.filter (·.1 ≠ key), l.distinct.sublist (List.filter_sublist.map _)⟩

/-- Writes the pairs one after another. -/
def putAll (l : Level τ) (pairs : List (τ × τ)) : Level τ :=
  pairs.foldl (fun l e => l.put e.1 e.2) l

/-- A repeated key keeps its first place and its last value. -/
def ofPairs (pairs : List (τ × τ)) : Level τ := empty.putAll pairs

/-! ## Reading after writing -/

@[simp] theorem get?_empty (k : τ) : empty.get? k = none := rfl

theorem get?_put (l : Level τ) (key value k : τ) :
    (l.put key value).get? k = if k = key then some value else l.get? k := by
  unfold put
  split
  · rename_i h
    obtain ⟨old, hold⟩ := Option.isSome_iff_exists.1 h
    simp only [get?] at hold ⊢
    rw [lookup_replaced, hold]; rfl
  · rename_i h
    have habsent : l.entries.lookup key = none := Option.not_isSome_iff_eq_none.1 h
    simp only [get?, List.lookup_append, lookup_cons_if, List.lookup_nil]
    by_cases hk : k = key
    · subst hk; simp [habsent]
    · simp [hk]

@[simp] theorem get?_put_self (l : Level τ) (key value : τ) :
    (l.put key value).get? key = some value := by simp [get?_put]

theorem get?_put_of_ne (l : Level τ) {key k : τ} (value : τ) (h : k ≠ key) :
    (l.put key value).get? k = l.get? k := by simp [get?_put, h]

theorem get?_remove (l : Level τ) (key k : τ) :
    (l.remove key).get? k = if k = key then none else l.get? k := by
  simp only [get?, remove]
  induction l.entries with
  | nil => simp
  | cons e rest ih =>
    obtain ⟨k', v'⟩ := e
    simp only [List.filter_cons, lookup_cons_if]
    grind [lookup_cons_if]

@[simp] theorem get?_remove_self (l : Level τ) (key : τ) : (l.remove key).get? key = none := by
  simp [get?_remove]

theorem get?_remove_of_ne (l : Level τ) {key k : τ} (h : k ≠ key) :
    (l.remove key).get? k = l.get? k := by simp [get?_remove, h]

theorem mem_keys_iff {l : Level τ} {key : τ} : key ∈ l.keys ↔ l.get? key ≠ none := by
  rw [ne_eq, get?, lookup_eq_none_iff, Decidable.not_not, keys]

theorem keys_put (l : Level τ) (key value : τ) :
    (l.put key value).keys = if key ∈ l.keys then l.keys else l.keys ++ [key] := by
  have hcontains : l.contains key = true ↔ key ∈ l.keys := by
    rw [contains, Option.isSome_iff_ne_none, mem_keys_iff]
  unfold put
  split
  · rename_i h
    rw [if_pos (hcontains.1 h)]
    exact keys_replaced key value l.entries
  · rename_i h
    rw [if_neg (mt hcontains.2 h)]
    simp only [keys, List.map_append, List.map_cons, List.map_nil]

theorem keys_remove (l : Level τ) (key : τ) : (l.remove key).keys = l.keys.filter (· ≠ key) := by
  simp only [keys, remove, List.filter_map]
  rfl

theorem get?_putAll (l : Level τ) (pairs : List (τ × τ)) (k : τ) :
    (l.putAll pairs).get? k = (pairs.reverse.lookup k).or (l.get? k) := by
  induction pairs generalizing l with
  | nil => simp [putAll]
  | cons e rest ih =>
    obtain ⟨key, value⟩ := e
    have hstep : l.putAll ((key, value) :: rest) = (l.put key value).putAll rest := rfl
    rw [hstep, ih, List.reverse_cons, List.lookup_append, get?_put, Option.or_assoc,
      lookup_cons_if]
    by_cases hk : k = key <;> simp [hk]

theorem mem_entries_iff {l : Level τ} {e : τ × τ} :
    e ∈ l.entries ↔ l.get? e.1 = some e.2 := by
  obtain ⟨entries, distinct⟩ := l
  simp only [get?]
  induction entries with
  | nil => simp
  | cons first rest ih =>
    obtain ⟨key, value⟩ := first
    obtain ⟨k, v⟩ := e
    obtain ⟨habsent, hrest⟩ := List.nodup_cons.1 distinct
    rw [List.mem_cons, ih hrest, lookup_cons_if]
    by_cases hk : k = key
    · subst hk
      have hnone : rest.lookup k = none := lookup_eq_none_iff.2 habsent
      simp [hnone, eq_comm]
    · simp [hk]

/-- In a level the last entry of a key is the only one. -/
theorem lookup_reverse_entries (l : Level τ) (k : τ) :
    l.entries.reverse.lookup k = l.get? k := by
  obtain ⟨entries, hd⟩ := l
  simp only [get?]
  induction entries with
  | nil => rfl
  | cons e rest ih =>
    obtain ⟨k', v'⟩ := e
    obtain ⟨hnot, hrest⟩ := List.nodup_cons.1 hd
    rw [List.reverse_cons, List.lookup_append, ih hrest, lookup_cons_if, lookup_cons_if]
    by_cases hk : k = k'
    · subst hk
      simp [lookup_eq_none_iff.2 hnot]
    · simp [hk]

end Level

end PropertyDocs
