import Mathlib
import PropertyDocs.Proofs.ChainedLoading
import PropertyDocs.Proofs.Sessions

/-!
# Files loaded below one another

Loading files is loading the first of them and then the others below the last store of these. What
the first ones have come to stays as it is, whatever comes after them, and the first file that fails
decides the error. The stores that were there before are not touched.
-/
namespace PropertyDocs

/-! ## Levels of files -/

namespace Disk
variable {d : Disk} {decryptor : Option Decryptor} {ancestors : List Level} {p : Path}
  {ps : List Path} {loaded : List (Path × Level)} {e : LoadFailure}

/-- The levels below which the next file comes. -/
def below (loaded : List (Path × Level)) (ancestors : List Level) : List Level :=
  (loaded.map (·.2)).reverse ++ ancestors

theorem below_cons (p : Path) (level : Level) (more : List (Path × Level))
    (ancestors : List Level) :
    below ((p, level) :: more) ancestors = below more (level :: ancestors) := by
  simp [below]

theorem loadChain_append_of_error (h : d.loadChain decryptor ancestors ps = .error e)
    (qs : List Path) : d.loadChain decryptor ancestors (ps ++ qs) = .error e := by
  induction ps generalizing ancestors with
  | nil => simp [loadChain] at h
  | cons p ps ih =>
    rw [List.cons_append]
    rcases loadChain_cons_eq_error h with hp | ⟨level, hp, hps⟩
    · exact loadChain_cons_of_error hp _
    · rw [loadChain_cons_of_ok hp, ih hps]
      rfl

theorem loadChain_append_of_ok (h : d.loadChain decryptor ancestors ps = .ok loaded)
    (qs : List Path) :
    d.loadChain decryptor ancestors (ps ++ qs) =
      (d.loadChain decryptor (below loaded ancestors) qs).map (loaded ++ ·) := by
  induction ps generalizing ancestors loaded with
  | nil =>
    obtain rfl : [] = loaded := by simpa [loadChain] using h
    simp only [List.nil_append, below, List.map_nil, List.reverse_nil]
    cases d.loadChain decryptor ancestors qs <;> rfl
  | cons p ps ih =>
    obtain ⟨level, more, rfl, hp, hps⟩ := loadChain_cons_eq_ok h
    rw [List.cons_append, loadChain_cons_of_ok hp, ih hps, below_cons]
    cases d.loadChain decryptor (below more (level :: ancestors)) qs <;> rfl

/-- Each file has its level. -/
theorem paths_of_loadChain (h : d.loadChain decryptor ancestors ps = .ok loaded) :
    loaded.map (·.1) = ps := by
  induction ps generalizing ancestors loaded with
  | nil =>
    obtain rfl : [] = loaded := by simpa [loadChain] using h
    rfl
  | cons p ps ih =>
    obtain ⟨level, more, rfl, -, hps⟩ := loadChain_cons_eq_ok h
    rw [List.map_cons, ih hps]

/-- A file that is loaded is loaded below those before it. -/
theorem loadFile_of_loadChain {before after : List (Path × Level)} {level : Level}
    (h : d.loadChain decryptor ancestors ps = .ok (before ++ (p, level) :: after)) :
    d.loadFile decryptor (below before ancestors) p = .ok level := by
  induction ps generalizing ancestors before with
  | nil => simp [loadChain] at h
  | cons q qs ih =>
    obtain ⟨l, more, hmore, hq, hqs⟩ := loadChain_cons_eq_ok h
    cases before with
    | nil =>
      obtain ⟨⟨rfl, rfl⟩, -⟩ : (p = q ∧ level = l) ∧ after = more := by simpa using hmore
      exact hq
    | cons first before =>
      obtain ⟨rfl, rfl⟩ : first = (q, l) ∧ before ++ (p, level) :: after = more := by
        simpa using hmore
      rw [below_cons]
      exact ih hqs

/-- A chain fails at the first file that is not loaded below those before it. -/
theorem exists_file_of_loadChain_error (h : d.loadChain decryptor ancestors ps = .error e) :
    ∃ before p after loaded, ps = before ++ p :: after ∧
      d.loadChain decryptor ancestors before = .ok loaded ∧
      d.loadFile decryptor (below loaded ancestors) p = .error e := by
  induction ps generalizing ancestors with
  | nil => simp [loadChain] at h
  | cons p ps ih =>
    rcases loadChain_cons_eq_error h with hp | ⟨level, hp, hps⟩
    · exact ⟨[], p, ps, [], rfl, rfl, hp⟩
    · obtain ⟨before, q, after, loaded, rfl, hbefore, hq⟩ := ih hps
      refine ⟨p :: before, q, after, (p, level) :: loaded, rfl, ?_, ?_⟩
      · rw [loadChain_cons_of_ok hp, hbefore]
        rfl
      · rwa [below_cons]

end Disk

/-! ## Stores of files -/

/-- The store below which the next one comes: the last of those that were made, else the one that
was given. -/
def Stores.lowest (parent : Option Nat) (made : List Nat) : Option Nat := made.getLast?.or parent

namespace Stores
variable {s : Stores} {parent : Option Nat}

theorem lowest_cons (parent : Option Nat) (n : Nat) (made : List Nat) :
    lowest parent (n :: made) = lowest (some n) made := by
  rw [lowest, lowest, List.getLast?_cons]
  cases made.getLast? <;> rfl

/-- The numbers that new stores get. -/
def fresh (s : Stores) (count : Nat) : List Nat := List.range' s.size count

theorem fresh_succ (l : Level) (parent : Option Nat) (count : Nat) :
    s.fresh (count + 1) = s.size :: (s.add l parent).fresh count := by
  rw [fresh, fresh, List.range'_succ, size_add]

theorem addBelow_append (ls ms : List Level) : ∀ (s : Stores) (parent : Option Nat),
    s.addBelow parent (ls ++ ms) =
      (s.addBelow parent ls).addBelow (lowest parent (s.fresh ls.length)) ms := by
  induction ls with
  | nil => exact fun s parent => rfl
  | cons l ls ih =>
    intro s parent
    rw [List.cons_append, addBelow, addBelow, ih, List.length_cons, fresh_succ l parent,
      lowest_cons]

/-- The store that is made of a level hangs below those made before it. -/
theorem get?_addBelow_fresh (s : Stores) (parent : Option Nat) (ls ms : List Level) (l : Level) :
    (s.addBelow parent (ls ++ l :: ms)).get? (s.size + ls.length) =
      some ⟨l, lowest parent (s.fresh ls.length)⟩ := by
  have hsize := size_addBelow ls s parent
  have hlt : s.size + ls.length <
      ((s.addBelow parent ls).add l (lowest parent (s.fresh ls.length))).size := by
    rw [size_add, hsize]
    exact Nat.lt_succ_self _
  rw [addBelow_append, addBelow, get?_addBelow_of_lt _ _ hlt, ← hsize, get?_add_size]

theorem fresh_append (s : Stores) (parent : Option Nat) (ls : List Level) (count : Nat) :
    s.fresh (ls.length + count) = s.fresh ls.length ++ (s.addBelow parent ls).fresh count := by
  rw [fresh, fresh, fresh, size_addBelow, List.range'_append_1]

theorem lt_of_mem_fresh {count n : Nat} (h : n ∈ s.fresh count) : n < s.size + count :=
  (List.mem_range'_1.1 h).2

/-- A new store comes after as many as stand before it. -/
theorem of_fresh_eq_append {count n : Nat} {before after : List Nat}
    (h : s.fresh count = before ++ n :: after) :
    before = s.fresh before.length ∧ n = s.size + before.length ∧ before.length < count := by
  have hcount : before.length < count := by
    have hlength := congrArg List.length h
    simp only [fresh, List.length_range', List.length_append, List.length_cons] at hlength
    omega
  have hsplit : s.fresh count = s.fresh before.length ++
      List.range' (s.size + before.length) (count - before.length) := by
    rw [fresh, fresh, List.range'_append_1, Nat.add_sub_cancel' (Nat.le_of_lt hcount)]
  have hlength : before.length = (s.fresh before.length).length := (List.length_range' ..).symm
  obtain ⟨hbefore, hafter⟩ := List.append_inj (h.symm.trans hsplit) hlength
  obtain ⟨rest, hrest⟩ : ∃ rest, count - before.length = rest + 1 :=
    ⟨count - before.length - 1, by omega⟩
  rw [hrest, List.range'_succ] at hafter
  exact ⟨hbefore, (List.cons.inj hafter).1, hcount⟩

/-! ## Ways up -/

/-- Stores that were there are there as they were. -/
structure Extends (s t : Stores) : Prop where
  size_le : s.size ≤ t.size
  get?_eq {n : Nat} : n < s.size → t.get? n = s.get? n

theorem extends_add (s : Stores) (l : Level) (parent : Option Nat) : s.Extends (s.add l parent) where
  size_le := by
    rw [size_add]
    exact Nat.le_succ _
  get?_eq hn := get?_add_of_lt hn l parent

theorem extends_addBelow (s : Stores) (parent : Option Nat) (levels : List Level) :
    s.Extends (s.addBelow parent levels) where
  size_le := size_le_addBelow levels s parent
  get?_eq hn := get?_addBelow_of_lt levels parent hn

/-- The way up from here comes to an end at a root. -/
def Rooted (s : Stores) (start : Option Nat) : Prop :=
  ∀ n, start = some n → ∃ line, s.Line n line ∧ ∀ m ∈ line, m < s.size

theorem WellLinked.rooted (hs : s.WellLinked) (hparent : ∀ p, parent = some p → p < s.size) :
    s.Rooted parent := by
  intro p hp
  obtain ⟨line, hline⟩ := hs.exists_line p
  exact ⟨line, hline, hline.lt_size hs (hparent p hp)⟩

theorem levelsAt_none (s : Stores) : s.levelsAt none = [] := by
  rw [levelsAt]
  cases s.size <;> rfl

theorem Line.levelsAt_eq {n : Nat} {line : List Nat} (h : s.Line n line)
    (hlt : ∀ m ∈ line, m < s.size) : s.levelsAt (some n) = line.map s.level :=
  h.levelsFrom_eq hlt s.size (h.length_le hlt)

namespace Rooted

/-- Stores that are added leave a way up as it was. -/
theorem levelsAt_extends {t : Stores} (h : s.Rooted parent) (ht : s.Extends t) :
    t.levelsAt parent = s.levelsAt parent := by
  cases parent with
  | none => rw [levelsAt_none, levelsAt_none]
  | some p =>
    obtain ⟨line, hline, hlt⟩ := h p rfl
    have hline' : t.Line p line :=
      hline.of_parents fun m hm => parent?_congr (ht.get?_eq (hlt m hm))
    have hlt' : ∀ m ∈ line, m < t.size := fun m hm => Nat.lt_of_lt_of_le (hlt m hm) ht.size_le
    rw [hline'.levelsAt_eq hlt', hline.levelsAt_eq hlt]
    exact List.map_congr_left fun m hm => level_congr (ht.get?_eq (hlt m hm))

/-- A store has its level and those above its parent. -/
theorem levelsAt_some {n : Nat} (h : s.Rooted (some n)) :
    s.levelsAt (some n) = s.level n :: s.levelsAt (s.parent? n) := by
  obtain ⟨line, hline, hlt⟩ := h n rfl
  rw [hline.levelsAt_eq hlt]
  cases hline with
  | root hp => rw [hp, levelsAt_none, List.map_singleton]
  | next hp hrest =>
    rw [hp, hrest.levelsAt_eq fun m hm => hlt m (List.mem_cons_of_mem n hm), List.map_cons]

theorem add (h : s.Rooted parent) (l : Level) : (s.add l parent).Rooted (some s.size) := by
  intro n hn
  obtain rfl : s.size = n := Option.some.inj hn
  have hself : s.size < (s.add l parent).size := by
    rw [size_add]
    exact Nat.lt_succ_self _
  have hup := parent?_add_size s l parent
  cases parent with
  | none => exact ⟨[s.size], .root hup, by simp⟩
  | some p =>
    obtain ⟨line, hline, hlt⟩ := h p rfl
    have hextends := s.extends_add l (some p)
    have hline' : (s.add l (some p)).Line p line :=
      hline.of_parents fun m hm => parent?_congr (hextends.get?_eq (hlt m hm))
    refine ⟨s.size :: line, .next hup hline', fun m hm => ?_⟩
    rcases List.mem_cons.1 hm with rfl | hm
    · exact hself
    · exact Nat.lt_of_lt_of_le (hlt m hm) hextends.size_le

theorem levelsAt_add (h : s.Rooted parent) (l : Level) :
    (s.add l parent).levelsAt (some s.size) = l :: s.levelsAt parent := by
  have hself : (s.add l parent).level s.size = l := by
    rw [level, get?_add_size]
    rfl
  rw [(h.add l).levelsAt_some, hself, parent?_add_size, h.levelsAt_extends (s.extends_add l parent)]

theorem addBelow (levels : List Level) : ∀ {s : Stores} {parent : Option Nat}, s.Rooted parent →
    (s.addBelow parent levels).Rooted (lowest parent (s.fresh levels.length)) := by
  induction levels with
  | nil => exact fun h => h
  | cons l ls ih =>
    intro s parent h
    rw [List.length_cons, fresh_succ l parent, lowest_cons]
    exact ih (h.add l)

theorem levelsAt_addBelow (levels : List Level) : ∀ {s : Stores} {parent : Option Nat},
    s.Rooted parent →
      (s.addBelow parent levels).levelsAt (lowest parent (s.fresh levels.length)) =
        levels.reverse ++ s.levelsAt parent := by
  induction levels with
  | nil => exact fun _ => rfl
  | cons l ls ih =>
    intro s parent h
    rw [Stores.addBelow, List.length_cons, fresh_succ l parent, lowest_cons, ih (h.add l),
      h.levelsAt_add l, List.reverse_cons, List.append_assoc, List.singleton_append]

end Rooted

end Stores

/-! ## Loading below a store -/

section Loading
variable {d : Disk} {decryptor : Option Decryptor} {s t u : Stores} {parent : Option Nat}
  {ps qs : List Path} {made : List Nat} {e : LoadFailure}

namespace Operation

theorem run_loadChain_eq_created_iff :
    (loadChain d ps parent decryptor).run s = (t, .created made) ↔
      ∃ loaded, d.loadChain decryptor (s.levelsAt parent) ps = .ok loaded ∧
        s.addBelow parent (loaded.map (·.2)) = t ∧ s.fresh loaded.length = made := by
  rw [run]
  cases hload : d.loadChain decryptor (s.levelsAt parent) ps with
  | error e => simp
  | ok loaded => simp [Stores.fresh]

theorem run_loadChain_eq_failed_iff :
    (loadChain d ps parent decryptor).run s = (t, .failed e) ↔
      d.loadChain decryptor (s.levelsAt parent) ps = .error e ∧ s = t := by
  rw [run]
  cases hload : d.loadChain decryptor (s.levelsAt parent) ps with
  | error e' => simp [and_comm]
  | ok loaded => simp

/-- The files that come later are loaded below the last store of those before. -/
theorem levelsAt_of_loadChain (hparent : s.Rooted parent) (loaded : List (Path × Level)) :
    (s.addBelow parent (loaded.map (·.2))).levelsAt
        (Stores.lowest parent (s.fresh loaded.length)) =
      Disk.below loaded (s.levelsAt parent) := by
  rw [Disk.below, ← hparent.levelsAt_addBelow (loaded.map (·.2)), List.length_map]

/-- Loading files is loading some and then the others below them. -/
theorem run_loadChain_append_iff (hparent : s.Rooted parent) :
    (loadChain d (ps ++ qs) parent decryptor).run s = (u, .created made) ↔
      ∃ t first later, (loadChain d ps parent decryptor).run s = (t, .created first) ∧
        (loadChain d qs (Stores.lowest parent first) decryptor).run t = (u, .created later) ∧
        made = first ++ later := by
  simp only [run_loadChain_eq_created_iff]
  -- where both parts are loaded, the stores are those of all files
  have hstores : ∀ loaded more : List (Path × Level),
      s.addBelow parent ((loaded ++ more).map (·.2)) =
        (s.addBelow parent (loaded.map (·.2))).addBelow
          (Stores.lowest parent (s.fresh loaded.length)) (more.map (·.2)) := by
    intro loaded more
    rw [List.map_append, Stores.addBelow_append, List.length_map]
  have hfresh : ∀ loaded more : List (Path × Level),
      s.fresh (loaded ++ more).length = s.fresh loaded.length ++
        (s.addBelow parent (loaded.map (·.2))).fresh more.length := by
    intro loaded more
    have happend := s.fresh_append parent (loaded.map (·.2)) more.length
    rwa [List.length_map, ← List.length_append] at happend
  constructor
  · rintro ⟨all, hall, rfl, rfl⟩
    cases hps : d.loadChain decryptor (s.levelsAt parent) ps with
    | error e =>
      rw [Disk.loadChain_append_of_error hps] at hall
      cases hall
    | ok loaded =>
      rw [Disk.loadChain_append_of_ok hps] at hall
      cases hqs : d.loadChain decryptor (Disk.below loaded (s.levelsAt parent)) qs with
      | error e => simp [hqs, Except.map] at hall
      | ok more =>
        obtain rfl : loaded ++ more = all := by simpa [hqs, Except.map] using hall
        refine ⟨_, _, _, ⟨loaded, rfl, rfl, rfl⟩, ⟨more, ?_, (hstores loaded more).symm, rfl⟩,
          hfresh loaded more⟩
        rw [levelsAt_of_loadChain hparent, hqs]
  · rintro ⟨_, _, _, ⟨loaded, hps, rfl, rfl⟩, ⟨more, hqs, rfl, rfl⟩, rfl⟩
    rw [levelsAt_of_loadChain hparent] at hqs
    refine ⟨loaded ++ more, ?_, hstores loaded more, hfresh loaded more⟩
    rw [Disk.loadChain_append_of_ok hps, hqs]
    rfl

/-- A store hangs below the one made before it, and holds what its file comes to there. -/
theorem store_of_run_loadChain (hparent : s.Rooted parent) {before after : List Nat} {n : Nat}
    (h : (loadChain d ps parent decryptor).run s = (t, .created (before ++ n :: after))) :
    t.parent? n = Stores.lowest parent before ∧
      ∃ p, ps[before.length]? = some p ∧
        d.loadFile decryptor (t.levelsAt (t.parent? n)) p = .ok (t.level n) := by
  obtain ⟨loaded, hload, rfl, hfresh⟩ := run_loadChain_eq_created_iff.1 h
  obtain ⟨hbefore, rfl, hlt⟩ := Stores.of_fresh_eq_append hfresh
  obtain ⟨earlier, ⟨p, level⟩, later, rfl, hlength⟩ :
      ∃ earlier e later, loaded = earlier ++ e :: later ∧ earlier.length = before.length :=
    ⟨loaded.take before.length, loaded[before.length], loaded.drop (before.length + 1),
      by simp, by simp [Nat.le_of_lt hlt]⟩
  have hmade := s.get?_addBelow_fresh parent (earlier.map (·.2)) (later.map (·.2)) level
  rw [List.length_map, hlength, ← hbefore] at hmade
  have hmap : (earlier ++ (p, level) :: later).map (·.2) =
      earlier.map (·.2) ++ level :: later.map (·.2) := by simp
  have hup : (s.addBelow parent ((earlier ++ (p, level) :: later).map (·.2))).parent?
      (s.size + before.length) = Stores.lowest parent before := by
    rw [hmap, Stores.parent?, hmade]
    rfl
  refine ⟨hup, p, ?_, ?_⟩
  · rw [← Disk.paths_of_loadChain hload, ← hlength]
    simp
  · -- the stores made after it do not change what is above it
    have habove : (s.addBelow parent ((earlier ++ (p, level) :: later).map (·.2))).levelsAt
        (Stores.lowest parent before) = Disk.below earlier (s.levelsAt parent) := by
      have hrooted := hparent.addBelow (earlier.map (·.2))
      rw [List.length_map, hlength, ← hbefore] at hrooted
      rw [← levelsAt_of_loadChain hparent earlier, hlength, ← hbefore, hmap,
        Stores.addBelow_append]
      exact hrooted.levelsAt_extends (Stores.extends_addBelow ..)
    have hlevel : (s.addBelow parent ((earlier ++ (p, level) :: later).map (·.2))).level
        (s.size + before.length) = level := by
      rw [hmap, Stores.level, hmade]
      rfl
    rw [hup, habove, hlevel]
    exact Disk.loadFile_of_loadChain hload

/-- The file that fails is the first that is not loaded below the stores of those before it. -/
theorem run_loadChain_failed_iff (hparent : s.Rooted parent) :
    (loadChain d ps parent decryptor).run s = (s, .failed e) ↔
      ∃ before p after t first, ps = before ++ p :: after ∧
        (loadChain d before parent decryptor).run s = (t, .created first) ∧
        d.loadFile decryptor (t.levelsAt (Stores.lowest parent first)) p = .error e := by
  simp only [run_loadChain_eq_failed_iff, run_loadChain_eq_created_iff, and_true]
  constructor
  · intro h
    obtain ⟨before, p, after, loaded, rfl, hbefore, hp⟩ := Disk.exists_file_of_loadChain_error h
    refine ⟨before, p, after, _, _, rfl, ⟨loaded, hbefore, rfl, rfl⟩, ?_⟩
    rw [levelsAt_of_loadChain hparent, hp]
  · rintro ⟨before, p, after, _, _, rfl, ⟨loaded, hbefore, rfl, rfl⟩, hp⟩
    rw [levelsAt_of_loadChain hparent] at hp
    rw [Disk.loadChain_append_of_ok hbefore, Disk.loadChain_cons_of_error hp]
    rfl

end Operation

end Loading

/-- **Files are loaded one below the other, and later ones disturb nothing.** Below a parent whose way
up comes to an end, or below none, loading a row of files succeeds just if loading a first part of it
succeeds and then loading the others below its last store, and makes the stores that these make. Each
store hangs below the one before it, holds what its file comes to there, and is the same whatever
files follow. Where a row fails, it is with the error of the first file that fails below the stores
of those before it, and so with the same error whatever files follow. The stores that were there
before, among them the parent, stay as they are in all cases. -/
theorem loadChain_composes (d : Disk) (decryptor : Option Decryptor) {s : Stores}
    {parent : Option Nat} (hparent : s.Rooted parent) (ps : List Path) :
    let load (s : Stores) (parent : Option Nat) (ps : List Path) :=
      (Operation.loadChain d ps parent decryptor).run s
    (∀ n < s.size, (load s parent ps).1.get? n = s.get? n) ∧
    ((∃ t made, load s parent ps = (t, .created made)) ∨
      ∃ e, load s parent ps = (s, .failed e)) ∧
    (∀ qs u made, load s parent (ps ++ qs) = (u, .created made) ↔
      ∃ t first later, load s parent ps = (t, .created first) ∧
        load t (Stores.lowest parent first) qs = (u, .created later) ∧ made = first ++ later) ∧
    (∀ t made, load s parent ps = (t, .created made) →
      made.length = ps.length ∧
      (∀ before n after, made = before ++ n :: after →
        t.parent? n = Stores.lowest parent before ∧
        ∃ p, ps[before.length]? = some p ∧
          d.loadFile decryptor (t.levelsAt (t.parent? n)) p = .ok (t.level n)) ∧
      ∀ qs u all, load s parent (ps ++ qs) = (u, .created all) →
        made <+: all ∧ ∀ n ∈ made, u.get? n = t.get? n) ∧
    (∀ e, load s parent ps = (s, .failed e) ↔
      ∃ before p after t first, ps = before ++ p :: after ∧
        load s parent before = (t, .created first) ∧
        d.loadFile decryptor (t.levelsAt (Stores.lowest parent first)) p = .error e) ∧
    (∀ e, load s parent ps = (s, .failed e) → ∀ qs, load s parent (ps ++ qs) = (s, .failed e)) := by
  intro load
  have hfailed : ∀ e, load s parent ps = (s, .failed e) → ∀ qs,
      load s parent (ps ++ qs) = (s, .failed e) := by
    intro e he qs
    have hps := (Operation.run_loadChain_eq_failed_iff.1 he).1
    exact Operation.run_loadChain_eq_failed_iff.2 ⟨Disk.loadChain_append_of_error hps qs, rfl⟩
  refine ⟨fun n hn => Operation.get?_run_of_ne hn (by simp [Operation.target?]), ?_,
    fun qs u made => Operation.run_loadChain_append_iff hparent, ?_,
    fun e => Operation.run_loadChain_failed_iff hparent, hfailed⟩
  · cases hps : d.loadChain decryptor (s.levelsAt parent) ps with
    | ok loaded =>
      exact .inl ⟨_, _, Operation.run_loadChain_eq_created_iff.2 ⟨loaded, hps, rfl, rfl⟩⟩
    | error e => exact .inr ⟨e, Operation.run_loadChain_eq_failed_iff.2 ⟨hps, rfl⟩⟩
  · intro t made hmade
    refine ⟨?_, fun before n after hsplit => ?_, fun qs u all hall => ?_⟩
    · obtain ⟨loaded, hps, -, rfl⟩ := Operation.run_loadChain_eq_created_iff.1 hmade
      rw [← Disk.paths_of_loadChain hps, List.length_map]
      exact List.length_range' ..
    · rw [hsplit] at hmade
      exact Operation.store_of_run_loadChain hparent hmade
    · obtain ⟨t', first, later, hfirst, hlater, rfl⟩ :=
        (Operation.run_loadChain_append_iff hparent).1 hall
      obtain ⟨rfl, hreply⟩ := Prod.mk.inj (hmade.symm.trans hfirst)
      obtain rfl := Reply.created.inj hreply
      refine ⟨List.prefix_append .., fun n hn => ?_⟩
      obtain ⟨loaded, -, rfl, rfl⟩ := Operation.run_loadChain_eq_created_iff.1 hmade
      obtain ⟨more, -, rfl, -⟩ := Operation.run_loadChain_eq_created_iff.1 hlater
      refine Stores.get?_addBelow_of_lt _ _ ?_
      rw [Stores.size_addBelow, List.length_map]
      exact Stores.lt_of_mem_fresh hn

/-! ## Two files, and a file that is missing -/

def rowDisk : Disk :=
  ⟨⟨"/", []⟩, .folder [("a.properties", .file "x=1".toUTF8.toList),
    ("b.properties", .file "y=2".toUTF8.toList)]⟩

theorem loadFile_row (ancestors : List Level) :
    rowDisk.loadFile none ancestors (.ofText "a.properties") = .ok (.ofPairs [("x", "1")]) ∧
    rowDisk.loadFile none ancestors (.ofText "b.properties") = .ok (.ofPairs [("y", "2")]) ∧
    rowDisk.loadFile none ancestors (.ofText "c.properties") =
      .error (.load (.unreadable (.ofText "c.properties") .missing)) := by
  have ha : rowDisk.read (.ofText "a.properties") = .ok "x=1".toUTF8.toList := rfl
  have hb : rowDisk.read (.ofText "b.properties") = .ok "y=2".toUTF8.toList := rfl
  exact ⟨Disk.loadFile_of_flat ha (by cbv) (by cbv) ancestors,
    Disk.loadFile_of_flat hb (by cbv) (by cbv) ancestors, rfl⟩

/-- Two files are loaded below a store; with a file that is missing between them, none is. -/
theorem loadChain_composes_sample :
    let s := Stores.empty.add (.ofPairs [("x", "0")]) none
    let load (ps : List Path) := (Operation.loadChain rowDisk ps (some 0) none).run s
    s.Rooted (some 0) ∧
    (∃ u, load [.ofText "a.properties", .ofText "b.properties"] = (u, .created [1, 2]) ∧
      u.parent? 1 = some 0 ∧ u.parent? 2 = some 1 ∧ u.get? 0 = s.get? 0) ∧
    load [.ofText "a.properties", .ofText "c.properties", .ofText "b.properties"] =
      (s, .failed (.load (.unreadable (.ofText "c.properties") .missing))) := by
  intro s load
  have hparent : s.Rooted (some 0) := by
    refine (Stores.WellLinked.empty.add _ (by simp)).rooted fun p hp => ?_
    obtain rfl : 0 = p := Option.some.inj hp
    decide
  have hfirst : load [.ofText "a.properties"] =
      (s.add (.ofPairs [("x", "1")]) (some 0), .created [1]) := by
    refine Operation.run_loadChain_eq_created_iff.2
      ⟨[(.ofText "a.properties", .ofPairs [("x", "1")])], ?_, rfl, rfl⟩
    rw [Disk.loadChain_cons_of_ok (loadFile_row _).1]
    rfl
  have hboth : load [.ofText "a.properties", .ofText "b.properties"] =
      ((s.add (.ofPairs [("x", "1")]) (some 0)).add (.ofPairs [("y", "2")]) (some 1),
        .created [1, 2]) := by
    refine Operation.run_loadChain_eq_created_iff.2
      ⟨[(.ofText "a.properties", .ofPairs [("x", "1")]),
        (.ofText "b.properties", .ofPairs [("y", "2")])], ?_, rfl, rfl⟩
    rw [Disk.loadChain_cons_of_ok (loadFile_row _).1,
      Disk.loadChain_cons_of_ok (loadFile_row _).2.1]
    rfl
  obtain ⟨hkeep, -, -, hlinks, -⟩ := loadChain_composes rowDisk none hparent
    [.ofText "a.properties", .ofText "b.properties"]
  obtain ⟨-, -, -, -, hfails, -⟩ := loadChain_composes rowDisk none hparent
    [.ofText "a.properties", .ofText "c.properties", .ofText "b.properties"]
  refine ⟨hparent, ⟨_, hboth, ?_, ?_, ?_⟩, ?_⟩
  · exact ((hlinks _ _ hboth).2.1 [] 1 [2] rfl).1
  · exact ((hlinks _ _ hboth).2.1 [1] 2 [] rfl).1
  · have hzero : (load [.ofText "a.properties", .ofText "b.properties"]).1.get? 0 = s.get? 0 :=
      hkeep 0 (by decide)
    rwa [hboth] at hzero
  · exact (hfails _).2 ⟨[.ofText "a.properties"], .ofText "c.properties",
      [.ofText "b.properties"], _, _, rfl, hfirst, (loadFile_row _).2.2⟩

end PropertyDocs
