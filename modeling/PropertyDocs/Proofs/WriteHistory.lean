import Mathlib.Data.List.Induction
import PropertyDocs.Proofs.Sessions

/-!
# What a store has been written

The level of a store is told from the writes to it. A key has the value last put under it, unless it
was removed after that, and the keys stand in the order of the writes that brought them in: writing
a key again leaves it where it is, and removing it before moves it to the end.
-/
namespace PropertyDocs

/-- A write to one level. -/
inductive Write where
  | put (key value : String)
  | remove (key : String)
deriving DecidableEq, Repr

namespace Write

def key : Write → String
  | put key _ => key
  | remove key => key

def apply (l : Level) : Write → Level
  | put key value => l.put key value
  | remove key => l.remove key

/-- The write to a store. -/
def operation (n : Nat) : Write → Operation
  | put key value => .put n key value
  | remove key => .remove n key

end Write

/-- The level that has been written nothing but `history`, the earliest write first. -/
def Level.written (history : List Write) : Level := history.foldl Write.apply .empty

/-- `LastPut history k v`: the value last put under `k` is `v`, and `k` was not removed since. -/
def LastPut (history : List Write) (k v : String) : Prop :=
  ∃ before after, history = before ++ .put k v :: after ∧ ∀ w ∈ after, w.key ≠ k

/-- `PresentSince history k i`: the write at the place `i` brought in `k`, which had no value then,
and `k` was not removed since. -/
def PresentSince (history : List Write) (k : String) (i : Nat) : Prop :=
  ∃ before v after, history = before ++ .put k v :: after ∧ before.length = i ∧
    (∀ v, ¬ LastPut before k v) ∧ .remove k ∉ after

/-! ## One more write -/

section
variable {history : List Write} {w : Write} {k v : String} {i : Nat}

theorem not_lastPut_nil : ¬ LastPut [] k v := by
  rintro ⟨before, after, h, -⟩
  simp at h

theorem not_presentSince_nil : ¬ PresentSince [] k i := by
  rintro ⟨before, v, after, h, -⟩
  simp at h

/-- What stands at a place of a row with one more element is that element or was there before. -/
theorem concat_eq_append_cons_iff {α : Type} {xs before after : List α} {x y : α} :
    xs ++ [x] = before ++ y :: after ↔
      (xs = before ∧ x = y ∧ after = []) ∨
        ∃ rest, after = rest ++ [x] ∧ xs = before ++ y :: rest := by
  constructor
  · intro h
    rcases List.eq_nil_or_concat after with rfl | ⟨rest, z, rfl⟩
    · obtain ⟨hxs, hx⟩ := List.append_inj' h rfl
      exact .inl ⟨hxs, List.singleton_inj.1 hx, rfl⟩
    · have hrest : xs ++ [x] = (before ++ y :: rest) ++ [z] := by simpa using h
      obtain ⟨hxs, hx⟩ := List.append_inj' hrest rfl
      obtain rfl := List.singleton_inj.1 hx
      exact .inr ⟨rest, by simp, hxs⟩
  · rintro (⟨rfl, rfl, rfl⟩ | ⟨rest, rfl, rfl⟩) <;> simp

/-- A write decides about its own key and about no other. -/
theorem lastPut_concat :
    LastPut (history ++ [w]) k v ↔ w = .put k v ∨ w.key ≠ k ∧ LastPut history k v := by
  constructor
  · rintro ⟨before, after, h, hafter⟩
    rcases concat_eq_append_cons_iff.1 h with ⟨-, hw, -⟩ | ⟨rest, rfl, hrest⟩
    · exact .inl hw
    · exact .inr ⟨hafter w (by simp), before, rest, hrest, fun u hu => hafter u (by simp [hu])⟩
  · rintro (rfl | ⟨hw, before, after, rfl, hafter⟩)
    · exact ⟨history, [], rfl, by simp⟩
    · refine ⟨before, after ++ [w], by simp, fun u hu => ?_⟩
      rcases List.mem_append.1 hu with hu | hu
      · exact hafter u hu
      · rwa [List.mem_singleton.1 hu]

/-- A key stays in its place up to its removal, and a new one gets the last place. -/
theorem presentSince_concat :
    PresentSince (history ++ [w]) k i ↔
      PresentSince history k i ∧ w ≠ .remove k ∨
        i = history.length ∧ (∃ v, w = .put k v) ∧ ∀ v, ¬ LastPut history k v := by
  constructor
  · rintro ⟨before, v, after, h, hi, habsent, hafter⟩
    rcases concat_eq_append_cons_iff.1 h with ⟨rfl, hw, -⟩ | ⟨rest, rfl, hrest⟩
    · exact .inr ⟨hi.symm, ⟨v, hw⟩, habsent⟩
    · rw [List.mem_append, List.mem_singleton, not_or] at hafter
      exact .inl ⟨⟨before, v, rest, hrest, hi, habsent, hafter.1⟩, Ne.symm hafter.2⟩
  · rintro (⟨⟨before, v, after, rfl, hi, habsent, hafter⟩, hw⟩ | ⟨rfl, ⟨v, rfl⟩, habsent⟩)
    · refine ⟨before, v, after ++ [w], by simp, hi, habsent, ?_⟩
      rw [List.mem_append, List.mem_singleton, not_or]
      exact ⟨hafter, Ne.symm hw⟩
    · exact ⟨history, v, [], rfl, rfl, habsent, by simp⟩

theorem PresentSince.lt_length (h : PresentSince history k i) : i < history.length := by
  obtain ⟨before, v, after, rfl, rfl, -⟩ := h
  simp

end

/-! ## All writes -/

namespace Level

@[simp] theorem written_nil : written [] = .empty := rfl

@[simp] theorem written_concat (history : List Write) (w : Write) :
    written (history ++ [w]) = w.apply (written history) := by
  simp [written]

theorem get?_written {k v : String} (history : List Write) :
    (written history).get? k = some v ↔ LastPut history k v := by
  induction history using List.reverseRecOn with
  | nil => simp [not_lastPut_nil]
  | append_singleton history w ih =>
    rw [written_concat, lastPut_concat]
    cases w with
    | put key value =>
      rw [Write.apply, get?_put]
      by_cases hk : k = key
      · simp [hk, Write.key]
      · simp [hk, Ne.symm hk, Write.key, ih]
    | remove key =>
      rw [Write.apply, get?_remove]
      by_cases hk : k = key
      · simp [hk, Write.key]
      · simp [hk, Ne.symm hk, Write.key, ih]

theorem mem_keys_written {k : String} (history : List Write) :
    k ∈ (written history).keys ↔ ∃ v, LastPut history k v := by
  rw [mem_keys_iff, Option.ne_none_iff_exists']
  simp only [get?_written]

theorem notMem_keys_written {k : String} (history : List Write) :
    k ∉ (written history).keys ↔ ∀ v, ¬ LastPut history k v := by
  rw [mem_keys_written, not_exists]

/-- After a write the keys present are those that it brought in and those present before that it
did not remove. -/
theorem mem_keys_apply {k : String} {l : Level} {w : Write} :
    k ∈ (w.apply l).keys ↔ k ∈ l.keys ∧ w ≠ .remove k ∨ (∃ v, w = .put k v) ∧ k ∉ l.keys := by
  cases w with
  | put key value =>
    have hput : (∃ v, Write.put key value = .put k v) ↔ k = key := by simp [eq_comm]
    rw [hput, Write.apply, keys_put]
    split <;> grind
  | remove key =>
    rw [Write.apply, keys_remove]
    grind

/-- A key is present since the write that brought it in. -/
theorem mem_keys_written_iff_presentSince {k : String} (history : List Write) :
    k ∈ (written history).keys ↔ ∃ i, PresentSince history k i := by
  induction history using List.reverseRecOn with
  | nil => simp [not_presentSince_nil, keys, empty]
  | append_singleton history w ih =>
    simp only [presentSince_concat, written_concat, mem_keys_apply, ih, exists_or,
      exists_and_right, exists_eq, true_and, ← notMem_keys_written]

end Level

namespace PresentSince
variable {history : List Write} {w : Write} {k : String} {i j : Nat}

theorem of_concat (hk : k ∈ (Level.written history).keys)
    (h : PresentSince (history ++ [w]) k i) : PresentSince history k i := by
  rcases presentSince_concat.1 h with ⟨h, -⟩ | ⟨-, -, habsent⟩
  · exact h
  · exact absurd hk ((Level.notMem_keys_written history).2 habsent)

theorem eq_length_of_concat (hk : k ∉ (Level.written history).keys)
    (h : PresentSince (history ++ [w]) k i) : i = history.length := by
  rcases presentSince_concat.1 h with ⟨h, -⟩ | ⟨hi, -⟩
  · exact absurd ((Level.mem_keys_written_iff_presentSince history).2 ⟨i, h⟩) hk
  · exact hi

/-- One write alone has brought in a key. -/
theorem unique (hi : PresentSince history k i) (hj : PresentSince history k j) : i = j := by
  induction history using List.reverseRecOn with
  | nil => exact (not_presentSince_nil hi).elim
  | append_singleton history w ih =>
    by_cases hk : k ∈ (Level.written history).keys
    · exact ih (of_concat hk hi) (of_concat hk hj)
    · rw [eq_length_of_concat hk hi, eq_length_of_concat hk hj]

end PresentSince

namespace Level

/-- A write keeps the order of the keys that it leaves, and brings in a key behind them. -/
theorem pairwise_keys_apply {R : String → String → Prop} {l : Level} {w : Write}
    (hkeys : l.keys.Pairwise R) (hnew : ∀ k v, w = .put k v → k ∉ l.keys → ∀ a ∈ l.keys, R a k) :
    (w.apply l).keys.Pairwise R := by
  cases w with
  | put key value =>
    rw [Write.apply, keys_put]
    split
    · exact hkeys
    · rename_i hmem
      rw [List.pairwise_append]
      refine ⟨hkeys, List.pairwise_singleton _ _, fun a ha b hb => ?_⟩
      rw [List.mem_singleton.1 hb]
      exact hnew key value rfl hmem a ha
  | remove key =>
    rw [Write.apply, keys_remove]
    exact hkeys.filter _

/-- The keys stand in the order in which they were brought in. -/
theorem pairwise_keys_written (history : List Write) :
    (written history).keys.Pairwise fun a b =>
      ∀ i j, PresentSince history a i → PresentSince history b j → i < j := by
  induction history using List.reverseRecOn with
  | nil => exact List.Pairwise.nil
  | append_singleton history w ih =>
    rw [written_concat]
    refine pairwise_keys_apply (ih.imp_of_mem fun ha hb hlt i j hi hj => ?_)
      fun k v _ hk a ha i j hi hj => ?_
    · exact hlt i j (.of_concat ha hi) (.of_concat hb hj)
    · rw [PresentSince.eq_length_of_concat hk hj]
      exact (PresentSince.of_concat ha hi).lt_length

theorem keys_put_remove (l : Level) (key value : String) :
    ((l.remove key).put key value).keys = l.keys.filter (· ≠ key) ++ [key] := by
  rw [keys_put, keys_remove]
  simp

end Level

/-! ## Writes to a store -/

namespace Stores
variable {s : Stores} {n : Nat}

theorem level_setLevel (hn : n < s.size) (l : Level) : (s.setLevel n l).level n = l := by
  obtain ⟨store, hstore⟩ := get?_of_lt hn
  simp only [get?] at hstore
  simp [level, get?, setLevel, hstore]

theorem level_add_size (s : Stores) (l : Level) (parent : Option Nat) :
    (s.add l parent).level s.size = l := by
  rw [level, get?_add_size]
  rfl

/-- A write answers with the value that the key had. -/
theorem run_write (s : Stores) (n : Nat) (w : Write) :
    (w.operation n).run s =
      (s.setLevel n (w.apply (s.level n)), .previous ((s.level n).get? w.key)) := by
  cases w <;> rfl

theorem level_after_writes (writes : List Write) : ∀ {s : Stores}, n < s.size →
    (s.after (writes.map (·.operation n))).level n = writes.foldl Write.apply (s.level n) := by
  induction writes with
  | nil => exact fun _ => rfl
  | cons w rest ih =>
    intro s hn
    have hstep : s.after ((w :: rest).map (·.operation n)) =
        (s.setLevel n (w.apply (s.level n))).after (rest.map (·.operation n)) := by
      simp only [after, List.map_cons, List.foldl_cons, run_write]
    rw [hstep, ih (by rwa [size_setLevel]), level_setLevel hn, List.foldl_cons]

end Stores

theorem Level.ofPairs_eq_written (pairs : List (String × String)) :
    ofPairs pairs = written (pairs.map fun e => .put e.1 e.2) := by
  rw [ofPairs, putAll, written, List.foldl_map]
  rfl

/-- **The level of a store is an insertion-ordered map.** Let a store be made with a list of entries
and then be written any row of writes; the entries count as writes too. At each time no key stands
there twice, a key has the value last put and not removed since, and a write answers with what its
key had. A key is present if and only if a write brought it in that has not been undone, and of two
keys that one stands first which was brought in first: writing a present key changes no place, and
removing it before moves it to the end. The keys, the entries, their number and the values read say
the same. -/
theorem store_is_ordered_map (s : Stores) (parent : Option Nat) (initial : List (String × String))
    (writes : List Write) :
    let history := initial.map (fun e => Write.put e.1 e.2) ++ writes
    let made := ((Operation.create (.ofPairs initial) parent).run s).1
    let now := made.after (writes.map (·.operation s.size))
    let l := now.level s.size
    l.keys.Nodup ∧
    (∀ k v, l.get? k = some v ↔ LastPut history k v) ∧
    (∀ w : Write, ((w.operation s.size).run now).2 = .previous (l.get? w.key)) ∧
    ((∀ k, k ∈ l.keys ↔ ∃! i, PresentSince history k i) ∧
      l.keys.Pairwise fun a b =>
        ∀ i j, PresentSince history a i → PresentSince history b j → i < j) ∧
    (∀ k v, (l.put k v).keys = (if k ∈ l.keys then l.keys else l.keys ++ [k]) ∧
      ((l.remove k).put k v).keys = l.keys.filter (· ≠ k) ++ [k]) ∧
    l.keys = l.entries.map (·.1) ∧ l.size = l.keys.length ∧
      ∀ k v, (k, v) ∈ l.entries ↔ l.get? k = some v := by
  intro history made now l
  have hl : l = Level.written history := by
    have hsize : s.size < (s.add (.ofPairs initial) parent).size := by
      rw [Stores.size_add]
      exact Nat.lt_succ_self _
    calc l = writes.foldl Write.apply ((s.add (.ofPairs initial) parent).level s.size) :=
          Stores.level_after_writes writes hsize
      _ = Level.written history := by
          rw [Stores.level_add_size, Level.ofPairs_eq_written, Level.written, Level.written,
            List.foldl_append]
  have hpresent : ∀ k, k ∈ l.keys ↔ ∃! i, PresentSince history k i := fun k => by
    rw [hl, Level.mem_keys_written_iff_presentSince]
    exact ⟨fun ⟨i, hi⟩ => ⟨i, hi, fun j hj => hj.unique hi⟩,
      fun ⟨i, hi, _⟩ => ⟨i, hi⟩⟩
  refine ⟨l.distinct, fun k v => ?_, fun w => ?_, ⟨hpresent, ?_⟩, fun k v => ⟨?_, ?_⟩, rfl, ?_,
    fun k v => Level.mem_entries_iff⟩
  · rw [hl, Level.get?_written]
  · rw [Stores.run_write]
  · rw [hl]
    exact Level.pairwise_keys_written history
  · exact l.keys_put k v
  · exact l.keys_put_remove k v
  · exact (List.length_map _).symm

/-- A key that is written again keeps its place, one that is removed in between does not. -/
example : (Level.written [.put "a" "1", .put "b" "2", .put "c" "3", .put "b" "4", .remove "a",
    .put "a" "5"]).entries = [("b", "4"), ("c", "3"), ("a", "5")] := by decide

end PropertyDocs
