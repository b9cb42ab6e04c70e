import Mathlib.Data.List.Perm.Subperm
import Mathlib.Order.RelClasses
import PropertyDocs.Session

/-!
# Writes stay where they are made

Stores refer to their parents, and as long as no store stands below itself the chain of a store is
a line of stores up to a root. An operation writes to one store at most; another store shows the
change only if it stands below that one, with nothing under the key in between.
-/
namespace PropertyDocs

namespace Stores
variable {s t : Stores} {n p : Nat}

/-! ## Links -/

def parent? (s : Stores) (n : Nat) : Option Nat := (s.get? n).bind (·.parent)

/-- `s.Below n m`: the store `n` is `m` or stands below it. -/
def Below (s : Stores) : Nat → Nat → Prop := Relation.ReflTransGen fun n p => s.parent? n = some p

/-- Parents are stores, and no store stands below itself: every way up comes to an end. -/
structure WellLinked (s : Stores) : Prop where
  lt_size {n p : Nat} : s.parent? n = some p → p < s.size
  acyclic : WellFounded fun p n => s.parent? n = some p

theorem get?_of_lt (h : n < s.size) : ∃ store, s.get? n = some store :=
  ⟨s.entries[n], List.getElem?_eq_getElem h⟩

theorem get?_of_le (h : s.size ≤ n) : s.get? n = none := List.getElem?_eq_none h

theorem level_congr (h : t.get? n = s.get? n) : t.level n = s.level n := by
  rw [level, level, h]

theorem parent?_congr (h : t.get? n = s.get? n) : t.parent? n = s.parent? n := by
  rw [parent?, parent?, h]

/-! ## Changes of one store -/

@[simp] theorem size_setLevel (s : Stores) (n : Nat) (l : Level) : (s.setLevel n l).size = s.size :=
  List.length_modify ..

@[simp] theorem size_setParent (s : Stores) (n : Nat) (parent : Option Nat) :
    (s.setParent n parent).size = s.size :=
  List.length_modify ..

@[simp] theorem size_add (s : Stores) (l : Level) (parent : Option Nat) :
    (s.add l parent).size = s.size + 1 :=
  List.length_append

theorem get?_setLevel_of_ne {m : Nat} (h : m ≠ n) (s : Stores) (l : Level) :
    (s.setLevel n l).get? m = s.get? m :=
  List.getElem?_modify_ne _ _ h.symm

theorem get?_setParent_of_ne {m : Nat} (h : m ≠ n) (s : Stores) (parent : Option Nat) :
    (s.setParent n parent).get? m = s.get? m :=
  List.getElem?_modify_ne _ _ h.symm

theorem get?_add_of_lt (h : n < s.size) (l : Level) (parent : Option Nat) :
    (s.add l parent).get? n = s.get? n :=
  List.getElem?_append_left h

theorem get?_add_size (s : Stores) (l : Level) (parent : Option Nat) :
    (s.add l parent).get? s.size = some ⟨l, parent⟩ :=
  List.getElem?_concat_length

theorem parent?_add_size (s : Stores) (l : Level) (parent : Option Nat) :
    (s.add l parent).parent? s.size = parent := by
  rw [parent?, get?_add_size]
  rfl

@[simp] theorem parent?_setLevel (s : Stores) (n : Nat) (l : Level) (m : Nat) :
    (s.setLevel n l).parent? m = s.parent? m := by
  by_cases h : m = n
  · subst h
    simp only [parent?, get?, setLevel, List.getElem?_modify_eq]
    cases s.entries[m]? <;> rfl
  · exact parent?_congr (get?_setLevel_of_ne h s l)

theorem parent?_setParent_self (s : Stores) (parent : Option Nat) (h : n < s.size) :
    (s.setParent n parent).parent? n = parent := by
  obtain ⟨store, hstore⟩ := get?_of_lt h
  simp only [get?] at hstore
  simp [parent?, get?, setParent, hstore]

/-! ## Links stay well -/

namespace WellLinked

theorem empty : empty.WellLinked where
  lt_size h := by simp [parent?, get?, Stores.empty] at h
  acyclic := ⟨fun n => ⟨n, fun p h => by simp [parent?, get?, Stores.empty] at h⟩⟩

theorem setLevel (h : s.WellLinked) (n : Nat) (l : Level) : (s.setLevel n l).WellLinked where
  lt_size hp := by
    rw [parent?_setLevel] at hp
    rw [size_setLevel]
    exact h.lt_size hp
  acyclic := by simpa only [parent?_setLevel] using h.acyclic

theorem add (h : s.WellLinked) (l : Level) {parent : Option Nat}
    (hparent : ∀ p, parent = some p → p < s.size) : (s.add l parent).WellLinked := by
  have hold : ∀ n < s.size, (s.add l parent).parent? n = s.parent? n := fun n hn =>
    parent?_congr (get?_add_of_lt hn l parent)
  have hnew : (s.add l parent).parent? s.size = parent := parent?_add_size s l parent
  have hcases : ∀ {n p}, (s.add l parent).parent? n = some p →
      p < s.size ∧ (n < s.size ∧ s.parent? n = some p ∨ n = s.size) := by
    intro n p hp
    rcases Nat.lt_trichotomy n s.size with hn | rfl | hn
    · rw [hold n hn] at hp
      exact ⟨h.lt_size hp, .inl ⟨hn, hp⟩⟩
    · exact ⟨hparent p (hnew.symm.trans hp), .inr rfl⟩
    · rw [parent?, get?_of_le (by rw [size_add]; omega)] at hp
      simp at hp
  refine ⟨fun hp => ?_, ?_⟩
  · rw [size_add]
    exact Nat.lt_succ_of_lt (hcases hp).1
  · have hacc : ∀ n < s.size, Acc (fun p n => (s.add l parent).parent? n = some p) n := by
      intro n
      induction n using h.acyclic.induction with
      | _ n ih =>
        intro hn
        refine ⟨n, fun p hp => ?_⟩
        rw [hold n hn] at hp
        exact ih p hp (h.lt_size hp)
    exact ⟨fun n => ⟨n, fun p hp => hacc p (hcases hp).1⟩⟩

/-- A store may get any parent that does not stand below it. -/
theorem setParent (h : s.WellLinked) (n : Nat) {parent : Option Nat}
    (hparent : ∀ p, parent = some p → p < s.size ∧ ¬ s.Below p n) :
    (s.setParent n parent).WellLinked := by
  have hother : ∀ m ≠ n, (s.setParent n parent).parent? m = s.parent? m := fun m hm =>
    parent?_congr (get?_setParent_of_ne hm s parent)
  have hself : ∀ p, (s.setParent n parent).parent? n = some p → parent = some p := by
    intro p hp
    by_cases hn : n < s.size
    · rwa [parent?_setParent_self s parent hn] at hp
    · rw [parent?, get?_of_le (by rw [size_setParent]; omega)] at hp
      simp at hp
  refine ⟨fun {m p} hp => ?_, ?_⟩
  · rw [size_setParent]
    by_cases hm : m = n
    · subst hm
      exact (hparent p (hself p hp)).1
    · rw [hother m hm] at hp
      exact h.lt_size hp
  · -- the ways up from stores that are not below `n` are what they were
    have haside : ∀ m, ¬ s.Below m n → Acc (fun p m => (s.setParent n parent).parent? m = some p) m := by
      intro m
      induction m using h.acyclic.induction with
      | _ m ih =>
        intro hm
        have hne : m ≠ n := by
          rintro rfl
          exact hm .refl
        refine ⟨m, fun p hp => ?_⟩
        rw [hother m hne] at hp
        exact ih p hp fun hbelow => hm (.head hp hbelow)
    have hacc : Acc (fun p m => (s.setParent n parent).parent? m = some p) n :=
      ⟨n, fun p hp => haside p (hparent p (hself p hp)).2⟩
    refine ⟨fun m => ?_⟩
    induction m using h.acyclic.induction with
    | _ m ih =>
      by_cases hm : m = n
      · rwa [hm]
      · refine ⟨m, fun p hp => ih p ?_⟩
        rwa [hother m hm] at hp

theorem addBelow (levels : List Level) : ∀ {s : Stores} {parent : Option Nat}, s.WellLinked →
    (∀ p, parent = some p → p < s.size) → (s.addBelow parent levels).WellLinked := by
  induction levels with
  | nil => exact fun h _ => h
  | cons l ls ih =>
    intro s parent h hparent
    refine ih (h.add l hparent) fun p hp => ?_
    obtain rfl := Option.some.inj hp
    rw [size_add]
    exact Nat.lt_succ_self _

end WellLinked

/-! ## Lines of stores -/

/-- The stores from one on up to its root, the nearest first. -/
inductive Line (s : Stores) : Nat → List Nat → Prop
  | root {n : Nat} : s.parent? n = none → Line s n [n]
  | next {n p : Nat} {ps : List Nat} : s.parent? n = some p → Line s p ps → Line s n (n :: ps)

theorem WellLinked.exists_line (h : s.WellLinked) (n : Nat) : ∃ line, s.Line n line := by
  induction n using h.acyclic.induction with
  | _ n ih =>
    cases hp : s.parent? n with
    | none => exact ⟨[n], .root hp⟩
    | some p =>
      obtain ⟨line, hline⟩ := ih p hp
      exact ⟨n :: line, .next hp hline⟩

namespace Line
variable {line : List Nat}

/-- A store has one line. -/
theorem unique {line' : List Nat} (h : s.Line n line) (h' : s.Line n line') : line = line' := by
  induction h generalizing line' with
  | root hp =>
    cases h' with
    | root => rfl
    | next hp' => simp [hp] at hp'
  | next hp _ ih =>
    cases h' with
    | root hp' => simp [hp] at hp'
    | next hp' hrest =>
      obtain rfl := Option.some.inj (hp.symm.trans hp')
      rw [ih hrest]

/-- From each of its stores on, a line is the line of that store. -/
theorem of_mem {m : Nat} (h : s.Line n line) (hm : m ∈ line) :
    ∃ nearer further, line = nearer ++ further ∧ s.Line m further := by
  induction h with
  | @root n hp =>
    obtain rfl := List.mem_singleton.1 hm
    exact ⟨[], [m], rfl, .root hp⟩
  | @next n p ps hp hrest ih =>
    rcases List.mem_cons.1 hm with rfl | hm
    · exact ⟨[], m :: ps, rfl, .next hp hrest⟩
    · obtain ⟨nearer, further, rfl, hline⟩ := ih hm
      exact ⟨n :: nearer, further, rfl, hline⟩

/-- A way up that comes to an end meets no store twice. -/
theorem nodup (h : s.Line n line) : line.Nodup := by
  induction h with
  | root => exact List.pairwise_singleton _ _
  | next hp hrest ih =>
    refine List.nodup_cons.2 ⟨fun hmem => ?_, ih⟩
    -- else the line of the store would be a part of itself
    obtain ⟨nearer, further, rfl, hline⟩ := hrest.of_mem hmem
    have hlength := congrArg List.length ((Line.next hp hrest).unique hline)
    simp only [List.length_cons, List.length_append] at hlength
    omega

theorem lt_size (hs : s.WellLinked) (hn : n < s.size) (h : s.Line n line) :
    ∀ m ∈ line, m < s.size := by
  induction h with
  | root => simpa using hn
  | next hp _ ih =>
    intro m hm
    rcases List.mem_cons.1 hm with rfl | hm
    · exact hn
    · exact ih (hs.lt_size hp) m hm

theorem length_le (h : s.Line n line) (hlt : ∀ m ∈ line, m < s.size) : line.length ≤ s.size := by
  have hsub : line ⊆ List.range s.size := fun m hm => List.mem_range.2 (hlt m hm)
  simpa using (h.nodup.subperm hsub).length_le

/-- The levels of a line are those found on the way up, if there is fuel for it. -/
theorem levelsFrom_eq (h : s.Line n line) :
    (∀ m ∈ line, m < s.size) → ∀ fuel ≥ line.length,
      s.levelsFrom fuel (some n) = line.map s.level := by
  induction h with
  | @root n hp =>
    intro hlt fuel hfuel
    obtain ⟨store, hstore⟩ := get?_of_lt (hlt n (by simp))
    obtain ⟨fuel, rfl⟩ : ∃ f, fuel = f + 1 := ⟨fuel - 1, by simp at hfuel; omega⟩
    have hnone : store.parent = none := by simpa [parent?, hstore] using hp
    cases fuel <;> simp [levelsFrom, hstore, hnone, level]
  | @next n p ps hp _ ih =>
    intro hlt fuel hfuel
    obtain ⟨store, hstore⟩ := get?_of_lt (hlt n (by simp))
    obtain ⟨fuel, rfl⟩ : ∃ f, fuel = f + 1 := ⟨fuel - 1, by simp at hfuel; omega⟩
    have hsome : store.parent = some p := by simpa [parent?, hstore] using hp
    have hrest := ih (fun m hm => hlt m (List.mem_cons_of_mem n hm)) fuel (by simpa using hfuel)
    simp [levelsFrom, hstore, hsome, hrest, level]

/-- The chain of a store consists of the levels of its line. -/
theorem levels_chain (h : s.Line n line) (hlt : ∀ m ∈ line, m < s.size) :
    (s.chain n).levels = line.map s.level := by
  have hlen := h.length_le hlt
  have hparent : (s.get? n).bind (·.parent) = s.parent? n := rfl
  rw [chain, Chain.levels, ancestors, hparent]
  cases h with
  | root hp =>
    rw [hp]
    cases s.size <;> simp [levelsFrom]
  | next hp hrest =>
    rw [hp, hrest.levelsFrom_eq (fun m hm => hlt m (List.mem_cons_of_mem n hm)) _
      (by simp at hlen; omega)]
    rfl

theorem of_parents (h : s.Line n line) (hsame : ∀ m ∈ line, t.parent? m = s.parent? m) :
    t.Line n line := by
  induction h with
  | root hp => exact .root ((hsame _ (by simp)).trans hp)
  | next hp _ ih =>
    exact .next ((hsame _ (by simp)).trans hp) (ih fun m hm => hsame m (List.mem_cons_of_mem _ hm))

end Line

end Stores

/-- The first of the levels that has a key decides. -/
theorem Chain.find?_append (ls ms : List Level) (k : String) :
    find? (ls ++ ms) k = (find? ls k).or (find? ms k) := by
  induction ls with
  | nil => rfl
  | cons l ls ih => rw [List.cons_append, find?_cons, find?_cons, ih, Option.or_assoc]

/-! ## Operations -/

namespace Operation

/-- The store that an operation acts on; none if it only makes stores. -/
def target? : Operation → Option Nat
  | .put n _ _ | .remove n _ | .setParent n _ | .execute n _ _ | .evaluate n _ _
  | .extend n _ _ => some n
  | .create _ _ | .load _ _ | .loadChain _ _ _ _ => none

def SetsParent (op : Operation) : Prop := ∃ n parent, op = .setParent n parent

/-- A parent is a store, and one that is given to a store does not stand below it. -/
def Allowed (s : Stores) : Operation → Prop
  | .setParent n parent => ∀ p, parent = some p → p < s.size ∧ ¬ s.Below p n
  | .create _ parent | .load _ parent | .loadChain _ _ parent _ =>
    ∀ p, parent = some p → p < s.size
  | _ => True

/-- What an operation does to the stores: it changes the level of the store it acts on, or sets its
parent, or adds stores. -/
theorem run_cases (s : Stores) (op : Operation) :
    (∃ n l, op.target? = some n ∧ ¬ op.SetsParent ∧ (op.run s).1 = s.setLevel n l) ∨
    (∃ n parent, op = .setParent n parent ∧ (op.run s).1 = s.setParent n parent) ∨
    (∃ parent levels, op.target? = none ∧ (op.Allowed s → ∀ p, parent = some p → p < s.size) ∧
      (op.run s).1 = s.addBelow parent levels) := by
  cases op with
  | put n | remove n | execute n | evaluate n | extend n =>
    exact .inl ⟨n, _, rfl, by simp [SetsParent], rfl⟩
  | setParent n parent => exact .inr (.inl ⟨n, parent, rfl, rfl⟩)
  | create level parent => exact .inr (.inr ⟨parent, [level], rfl, id, rfl⟩)
  | load document parent =>
    refine .inr (.inr ?_)
    simp only [run]
    split
    · exact ⟨parent, [], rfl, id, rfl⟩
    · exact ⟨parent, [_], rfl, id, rfl⟩
  | loadChain disk paths parent decryptor =>
    refine .inr (.inr ?_)
    simp only [run]
    split
    · exact ⟨parent, [], rfl, id, rfl⟩
    · exact ⟨parent, _, rfl, id, rfl⟩

end Operation

namespace Stores
variable {s : Stores} {n : Nat}

theorem get?_addBelow_of_lt (levels : List Level) : ∀ {s : Stores} (parent : Option Nat),
    n < s.size → (s.addBelow parent levels).get? n = s.get? n := by
  induction levels with
  | nil => exact fun _ _ => rfl
  | cons l ls ih =>
    intro s parent hn
    rw [addBelow, ih (some s.size) (by rw [size_add]; omega), get?_add_of_lt hn]

theorem size_addBelow (levels : List Level) :
    ∀ (s : Stores) (parent : Option Nat),
      (s.addBelow parent levels).size = s.size + levels.length := by
  induction levels with
  | nil => exact fun s _ => rfl
  | cons l ls ih =>
    intro s parent
    rw [addBelow, ih, size_add, List.length_cons]
    omega

theorem size_le_addBelow (levels : List Level) (s : Stores) (parent : Option Nat) :
    s.size ≤ (s.addBelow parent levels).size := by
  rw [size_addBelow]
  exact Nat.le_add_right _ _

end Stores

section Steps
variable {s : Stores} {op : Operation} {n : Nat}

theorem Stores.WellLinked.run (hs : s.WellLinked) (hop : op.Allowed s) :
    (op.run s).1.WellLinked := by
  rcases op.run_cases s with ⟨m, l, -, -, h⟩ | ⟨m, parent, rfl, h⟩ | ⟨parent, levels, -, hp, h⟩
  · rw [h]; exact hs.setLevel m l
  · rw [h]; exact hs.setParent m hop
  · rw [h]; exact .addBelow levels hs (hp hop)

/-- **Only the store that an operation acts on is changed**, whether or not the operation fails. -/
theorem Operation.get?_run_of_ne (hn : n < s.size) (hne : op.target? ≠ some n) :
    (op.run s).1.get? n = s.get? n := by
  rcases op.run_cases s with ⟨m, l, ht, -, h⟩ | ⟨m, parent, rfl, h⟩ | ⟨parent, levels, -, -, h⟩
  · have hnm : n ≠ m := fun e => hne (e ▸ ht)
    rw [h, Stores.get?_setLevel_of_ne hnm]
  · have hnm : n ≠ m := fun e => hne (e ▸ rfl)
    rw [h, Stores.get?_setParent_of_ne hnm]
  · rw [h, Stores.get?_addBelow_of_lt levels parent hn]

theorem Operation.parent?_run (hn : n < s.size) (hop : ¬ op.SetsParent) :
    (op.run s).1.parent? n = s.parent? n := by
  rcases op.run_cases s with ⟨m, l, -, -, h⟩ | ⟨m, parent, he, -⟩ | ⟨parent, levels, -, -, h⟩
  · rw [h, Stores.parent?_setLevel]
  · exact absurd ⟨m, parent, he⟩ hop
  · rw [h]
    exact Stores.parent?_congr (Stores.get?_addBelow_of_lt levels parent hn)

theorem Operation.size_le_run (s : Stores) (op : Operation) : s.size ≤ (op.run s).1.size := by
  rcases op.run_cases s with ⟨m, l, -, -, h⟩ | ⟨m, parent, -, h⟩ | ⟨parent, levels, -, -, h⟩
  · rw [h]; exact Nat.le_of_eq (Stores.size_setLevel s m l).symm
  · rw [h]; exact Nat.le_of_eq (Stores.size_setParent s m parent).symm
  · rw [h]; exact Stores.size_le_addBelow levels s parent

/-- **Who sees a write.** If links stay as they are, a store shows another value under a key only if
the store acted on is on its line, has another value under the key now, and no store before it on
the line has the key. -/
theorem Operation.exists_line_of_change (hs : s.WellLinked) (hallowed : op.Allowed s)
    (hop : ¬ op.SetsParent) (hn : n < s.size) {k : String}
    (hchange : ((op.run s).1.chain n).get? k ≠ (s.chain n).get? k) :
    ∃ a nearer further, op.target? = some a ∧ s.Line n (nearer ++ a :: further) ∧
      ((op.run s).1.level a).get? k ≠ (s.level a).get? k ∧
      ∀ m ∈ nearer, (s.level m).get? k = none := by
  obtain ⟨line, hline⟩ := hs.exists_line n
  have hlt := hline.lt_size hs hn
  have hline' : (op.run s).1.Line n line :=
    hline.of_parents fun m hm => Operation.parent?_run (hlt m hm) hop
  have hn' : n < (op.run s).1.size := Nat.lt_of_lt_of_le hn (Operation.size_le_run s op)
  rw [Chain.get?, Chain.get?, hline'.levels_chain (hline'.lt_size (hs.run hallowed) hn'),
    hline.levels_chain hlt] at hchange
  -- a store of the line has another level than before, and this is the store acted on
  have hlevel : ∀ m ∈ line, op.target? ≠ some m → (op.run s).1.level m = s.level m :=
    fun m hm hm' => Stores.level_congr (Operation.get?_run_of_ne (hlt m hm) hm')
  obtain ⟨a, ha, htarget⟩ : ∃ a ∈ line, op.target? = some a := by
    by_contra hnone
    push Not at hnone
    exact hchange (by rw [List.map_congr_left fun m hm => hlevel m hm (hnone m hm)])
  obtain ⟨nearer, further, rfl⟩ := List.append_of_mem ha
  have hdistinct := hline.nodup
  rw [List.nodup_append] at hdistinct
  have hnearer : nearer.map (op.run s).1.level = nearer.map s.level := by
    refine List.map_congr_left fun m hm => hlevel m (by simp [hm]) fun e => ?_
    obtain rfl : a = m := Option.some.inj (htarget.symm.trans e)
    exact hdistinct.2.2 a hm a (by simp) rfl
  have hfurther : further.map (op.run s).1.level = further.map s.level := by
    refine List.map_congr_left fun m hm => hlevel m (by simp [hm]) fun e => ?_
    obtain rfl : a = m := Option.some.inj (htarget.symm.trans e)
    exact (List.nodup_cons.1 hdistinct.2.1).1 hm
  simp only [List.map_append, List.map_cons, Chain.find?_append, Chain.find?_cons, hnearer,
    hfurther] at hchange
  refine ⟨a, nearer, further, htarget, hline, fun e => hchange (by rw [e]), fun m hm => ?_⟩
  -- had a nearer store the key, it would decide before and after
  by_contra hsome
  have hfound : Chain.find? (nearer.map s.level) k ≠ none := by
    simp only [Chain.find?, ne_eq, List.findSome?_eq_none_iff, List.mem_map, not_forall]
    exact ⟨s.level m, ⟨m, hm, rfl⟩, hsome⟩
  obtain ⟨v, hv⟩ := Option.ne_none_iff_exists'.1 hfound
  exact hchange (by rw [hv, Option.some_or, Option.some_or])

end Steps

/-! ## Rows of operations -/

/-- Each of the operations is allowed when its turn comes. -/
def AllAllowed : Stores → List Operation → Prop
  | _, [] => True
  | s, op :: rest => op.Allowed s ∧ AllAllowed (op.run s).1 rest

theorem allAllowed_append {s : Stores} {done rest : List Operation} :
    AllAllowed s (done ++ rest) ↔ AllAllowed s done ∧ AllAllowed (s.after done) rest := by
  induction done generalizing s with
  | nil => simp [AllAllowed, Stores.after]
  | cons op done ih =>
    rw [List.cons_append, AllAllowed, AllAllowed, ih, and_assoc]
    rfl

theorem Stores.WellLinked.after {s : Stores} {operations : List Operation} (hs : s.WellLinked)
    (hops : AllAllowed s operations) : (s.after operations).WellLinked := by
  induction operations generalizing s with
  | nil => exact hs
  | cons op rest ih => exact ih (hs.run hops.1) hops.2

/-- **Writes stay local.** In a row of operations on well linked stores, each leaves them well linked
and all stores but the one it acts on as they were, with their entries in order; and unless it sets
a parent, a store shows a change under a key only if the store acted on is on its line and changed
there, and no store before it on the line has the key. -/
theorem writes_stay_local {s : Stores} (hs : s.WellLinked) {done rest : List Operation}
    {op : Operation} (hops : AllAllowed s (done ++ op :: rest)) :
    let before := s.after done
    let after := s.after (done ++ [op])
    after.WellLinked ∧
    (∀ n < before.size, op.target? ≠ some n → after.get? n = before.get? n) ∧
    (¬ op.SetsParent → ∀ n < before.size, ∀ k,
      (after.chain n).get? k ≠ (before.chain n).get? k →
        ∃ a nearer further, op.target? = some a ∧ before.Line n (nearer ++ a :: further) ∧
          (after.level a).get? k ≠ (before.level a).get? k ∧
          ∀ m ∈ nearer, (before.level m).get? k = none) := by
  intro before after
  obtain ⟨hdone, hop, -⟩ := allAllowed_append.1 hops
  have hbefore : before.WellLinked := hs.after hdone
  have hafter : after = (op.run before).1 := by
    simp only [after, before, Stores.after, List.foldl_append, List.foldl_cons, List.foldl_nil]
  rw [hafter]
  exact ⟨hbefore.run hop, fun n hn hne => Operation.get?_run_of_ne hn hne,
    fun hsets n hn k hchange => Operation.exists_line_of_change hbefore hop hsets hn hchange⟩

/-- In the sample a document that fails has already written to the root of three stores, and the
lowest of them shows it. -/
theorem writes_stay_local_sample :
    let done : List Operation :=
      [.create .empty none, .create (.ofPairs [("b", "2")]) (some 0), .create .empty (some 1)]
    let op : Operation := .evaluate 0 ⟨[.assign ⟨.literal "a", .literal "1", false, false⟩,
      .error (.literal "stop")], none, none⟩ none
    let before := Stores.empty.after done
    let after := Stores.empty.after (done ++ [op])
    Stores.empty.WellLinked ∧ AllAllowed Stores.empty (done ++ [op]) ∧
    (op.run before).2 = .failed (.evaluation (.configuration "stop")) ∧
    after.get? 1 = before.get? 1 ∧
    ∃ a nearer further, op.target? = some a ∧ before.Line 2 (nearer ++ a :: further) ∧
      (after.level a).get? "a" ≠ (before.level a).get? "a" ∧
      ∀ m ∈ nearer, (before.level m).get? "a" = none := by
  intro done op before after
  have hallowed : AllAllowed Stores.empty (done ++ [op]) := by
    simp [done, op, AllAllowed, Operation.Allowed, Operation.run, Stores.size, Stores.add,
      Stores.empty]
  have hlocal := writes_stay_local .empty hallowed
  refine ⟨.empty, hallowed, by decide, hlocal.2.1 1 (by decide) (by decide), ?_⟩
  exact hlocal.2.2 (by simp [op, Operation.SetsParent]) 2 (by decide) "a" (by decide)

end PropertyDocs
