import PropertyDocs.Loading
import PropertyDocs.Proofs.CaptureScope
import PropertyDocs.Proofs.ChainedView

/-!
# Documents below one another and documents one after another

Running each document on a new leaf below that of the document before shows the same in the end as
running all of them on one leaf. The leaf of the first way shows through the growing ancestors what
the one leaf of the second way has itself. The two drift apart only where a binding uncovers a
numeral of an earlier document, which the one leaf would have lost; so either no document assigns
to a numeral, or none has a match pattern.
-/
namespace PropertyDocs

/-- What documents run below one another leave. -/
structure Tower where
  /-- The levels, the last one first, above them those that were given. -/
  levels : List Level
  calls : List (String × String)
  error : Option EvaluationError

/-- Runs each document on a new leaf below the levels before it, up to the first error. -/
def runBelow (decryptor : Option Decryptor) : List Level → List Document → Tower
  | levels, [] => ⟨levels, [], none⟩
  | levels, d :: ds =>
    let o := d.run decryptor ⟨.empty, levels⟩
    match o.error with
    | some e => ⟨o.level :: levels, o.calls, some e⟩
    | none =>
      let rest := runBelow decryptor (o.level :: levels) ds
      { rest with calls := o.calls ++ rest.calls }

/-- What a run of a document comes to. -/
def Document.visits (d : Document) (decryptor : Option Decryptor) (c : Chain) : List Visit :=
  visitsAll ⟨decryptor <|> d.decryptor, c.ancestors⟩ d.body c.leaf

section
variable {decryptor : Option Decryptor}

theorem runBelow_cons_of_error {levels : List Level} {d : Document} {ds : List Document}
    {e : EvaluationError} (h : (d.run decryptor ⟨.empty, levels⟩).error = some e) :
    runBelow decryptor levels (d :: ds) =
      ⟨(d.run decryptor ⟨.empty, levels⟩).level :: levels,
        (d.run decryptor ⟨.empty, levels⟩).calls, some e⟩ := by
  simp only [runBelow, h]

theorem runBelow_cons_of_none {levels : List Level} {d : Document} {ds : List Document}
    (h : (d.run decryptor ⟨.empty, levels⟩).error = none) :
    runBelow decryptor levels (d :: ds) =
      let rest := runBelow decryptor ((d.run decryptor ⟨.empty, levels⟩).level :: levels) ds
      { rest with calls := (d.run decryptor ⟨.empty, levels⟩).calls ++ rest.calls } := by
  simp only [runBelow, h]

/-- A document without a decryptor is run as its block is. -/
theorem Document.run_of_noDecryptor {d : Document} (h : d.decryptor = none) (c : Chain) :
    d.run decryptor c = (Statement.block d.body).run ⟨decryptor, c.ancestors⟩ c.leaf := by
  simp only [run, h, Option.orElse_eq_orElse, Option.orElse_eq_or, Option.or_none, Statement.run]

theorem Document.decryptor_concat_of_none {ds : List Document}
    (h : ∀ d ∈ ds, d.decryptor = none) :
    (Document.concat ds none).decryptor = none := by
  simpa [concat] using h

/-- The two ways side by side: `levels` shows what the leaf `b` below `parents` shows, and `b` has
no key of `N`. -/
theorem runBelow_agree {N : String → Prop} {parents : List Level} :
    ∀ (ds : List Document) (levels : List Level) (b : Level),
      (∀ d ∈ ds, d.decryptor = none) → (∀ d ∈ ds, BindsOnly N (.block d.body)) →
      (∀ k, N k → OnlyScoped ⟨decryptor, parents⟩ k
        (visitsAll ⟨decryptor, parents⟩ (ds.map fun d => .block d.body) b)) →
      (∀ k, N k → b.get? k = none) →
      (∀ k, Chain.find? levels k = Chain.find? (b :: parents) k) →
      let o := runAll ⟨decryptor, parents⟩ (ds.map fun d => .block d.body) b
      let t := runBelow decryptor levels ds
      t.error = o.error ∧ t.calls = o.calls ∧
        (t.error = none → ∀ k, Chain.find? t.levels k = Chain.find? (o.level :: parents) k)
  | [], levels, b, _, _, _, _, hview => by
    simp only [List.map_nil, runAll, runBelow, Outcome.done, true_and]
    exact fun _ => hview
  | d :: ds, levels, b, hown, hbinds, hscoped, hfree, hview => by
    have hsame : SameView id levels parents .empty b := fun k => by
      rw [Chain.find?_empty_cons, hview]
    have habove : ∀ k, N k → id (Chain.find? levels k) = id (Chain.find? parents k) := by
      intro k hk
      rw [hview, Chain.find?_cons, hfree k hk, Option.none_or]
    have hagree := (sameView_bisimulation (fun _ _ h => congrArg (·.getD "") h) habove).run
      (d := decryptor) (.block d.body) (hbinds d (by simp)) .empty b hsame
    rw [← d.run_of_noDecryptor (hown d (by simp)) ⟨.empty, levels⟩] at hagree
    simp only [List.map_cons, runAll]
    cases he : (d.run decryptor ⟨.empty, levels⟩).error with
    | some e =>
      have hflat := hagree.error.symm.trans he
      rw [Outcome.andThen_of_error hflat, runBelow_cons_of_error he]
      exact ⟨hflat.symm, hagree.calls, fun h => by simp at h⟩
    | none =>
      have hflat := hagree.error.symm.trans he
      rw [Outcome.andThen_of_none hflat, runBelow_cons_of_none he]
      have hfree' : ∀ k, N k →
          ((Statement.block d.body).run ⟨decryptor, parents⟩ b).level.get? k = none := by
        intro k hk
        rw [get?_run_of_onlyScoped (.block d.body) b fun v hv =>
          hscoped k hk v (mem_visitsAll_head hv)]
        exact hfree k hk
      obtain ⟨h1, h2, h3⟩ := runBelow_agree ds _ _ (fun e he => hown e (by simp [he]))
        (fun e he => hbinds e (by simp [he]))
        (fun k hk v hv => hscoped k hk v (mem_visitsAll_tail hflat hv)) hfree' hagree.level
      exact ⟨h1, by simp only [hagree.calls, h2], h3⟩

/-- Both ways from a new leaf below `parents`. -/
theorem runBelow_agree_concat {N : String → Prop} {parents : List Level} {ds : List Document}
    (hown : ∀ d ∈ ds, d.decryptor = none) (hbinds : ∀ d ∈ ds, BindsOnly N (.block d.body))
    (hscoped : ∀ k, N k → OnlyScoped ⟨decryptor, parents⟩ k
      ((Document.concat ds none).visits decryptor ⟨.empty, parents⟩)) :
    let o := (Document.concat ds none).run decryptor ⟨.empty, parents⟩
    let t := runBelow decryptor parents ds
    t.error = o.error ∧ t.calls = o.calls ∧
      (t.error = none → ∀ k, Chain.find? t.levels k = Chain.find? (o.level :: parents) k) := by
  have hconcat := Document.decryptor_concat_of_none hown
  simp only [Document.visits, hconcat, Option.orElse_eq_orElse, Option.orElse_eq_or,
    Option.or_none] at hscoped
  rw [Document.run_of_noDecryptor hconcat, Statement.run]
  exact runBelow_agree ds parents .empty hown hbinds hscoped (fun _ _ => Level.get?_empty _)
    fun k => (Chain.find?_empty_cons parents k).symm

end

/-- **Chained loading agrees with concatenated loading**, if no assignment that the second way comes
to has a numeral for its key, or if no document has a match pattern. -/
theorem chained_agrees_with_concatenated (decryptor : Option Decryptor) (parents : List Level)
    (ds : List Document) (hown : ∀ d ∈ ds, d.decryptor = none)
    (h : (∀ v ∈ (Document.concat ds none).visits decryptor ⟨.empty, parents⟩, ∀ i : Nat,
        v.key? ⟨decryptor, parents⟩ ≠ some (toString i)) ∨
      (∀ d ∈ ds, ∀ s ∈ d.body, ∀ value pattern body,
        ¬ s.Contains (.matchPattern value pattern body))) :
    (runBelow decryptor parents ds).error =
      ((Document.concat ds none).run decryptor ⟨.empty, parents⟩).error ∧
    (runBelow decryptor parents ds).calls =
      ((Document.concat ds none).run decryptor ⟨.empty, parents⟩).calls ∧
    ((runBelow decryptor parents ds).error = none → ∀ k,
      Chain.find? (runBelow decryptor parents ds).levels k =
        (Chain.mk ((Document.concat ds none).run decryptor ⟨.empty, parents⟩).level
          parents).get? k) := by
  rcases h with hkeys | hpatterns
  · -- bindings are of numerals, which no assignment touches
    refine runBelow_agree_concat (N := fun k => ∃ i : Nat, k = toString i) hown ?_ ?_
    · intro d _ value pattern body _ k hk
      obtain ⟨i, -, rfl⟩ := mem_numerals.1 hk
      exact ⟨i, rfl⟩
    · rintro _ ⟨i, rfl⟩ v hv hkey
      exact absurd hkey (hkeys v hv i)
  · -- nothing is bound at all
    refine runBelow_agree_concat (N := fun _ => False) hown ?_ fun _ hk => hk.elim
    intro d hd value pattern body hc
    cases hc with
    | inner hs hc => exact absurd hc (hpatterns d hd _ hs value pattern body)

theorem ne_toString {k : String} {c : Char} (hc : c ∈ k.toList) (hdigit : c.isDigit = false)
    (i : Nat) : k ≠ toString i := by
  rintro rfl
  have hmem : c ∈ Nat.toDigits 10 i := by rwa [← Nat.toList_repr]
  have := Nat.isDigit_of_mem_toDigits (by decide) (by decide) hmem
  rw [hdigit] at this
  cases this

/-- A match that reads a group which takes no part, and a default of what the match has set. -/
def sampleDocuments : List Document :=
  [{ body := [.sample (.assign { key := .literal "b", value := .template ⟨"", [("2", "")]⟩,
                                 defaultOnly := false, encrypted := false })]
     source := none, decryptor := none },
   { body := [.assign { key := .literal "a", value := .literal "z", defaultOnly := true,
                        encrypted := false }]
     source := none, decryptor := none }]

/-- A level that has the numeral of the group. -/
def sampleParent : Level := .ofPairs [("2", "p")]

/-- Below the numeral, both ways read it through the removal. -/
theorem chained_agrees_with_concatenated_samples :
    (∀ d ∈ sampleDocuments, d.decryptor = none) ∧
    (∀ v ∈ (Document.concat sampleDocuments none).visits none ⟨.empty, [sampleParent]⟩,
      ∀ i : Nat, v.key? ⟨none, [sampleParent]⟩ ≠ some (toString i)) ∧
    Chain.find? (runBelow none [sampleParent] sampleDocuments).levels "b" = some "p" := by
  have hown : ∀ d ∈ sampleDocuments, d.decryptor = none := by simp [sampleDocuments]
  have hkeys : ((Document.concat sampleDocuments none).visits none ⟨.empty, [sampleParent]⟩).map
      (·.key? ⟨none, [sampleParent]⟩) =
        [none, none, none, some "a", some "b", none, some "a"] := by decide
  have hnumerals : ∀ v ∈ (Document.concat sampleDocuments none).visits none
      ⟨.empty, [sampleParent]⟩, ∀ i : Nat,
        v.key? ⟨none, [sampleParent]⟩ ≠ some (toString i) := by
    intro v hv i hkey
    have hmem := List.mem_map_of_mem (f := (·.key? ⟨none, [sampleParent]⟩)) hv
    rw [hkeys, hkey] at hmem
    simp only [List.mem_cons, Option.some.injEq, reduceCtorEq, List.not_mem_nil, false_or,
      or_false] at hmem
    rcases hmem with h | h | h
    · exact ne_toString (c := 'a') (by decide) (by decide) i h.symm
    · exact ne_toString (c := 'b') (by decide) (by decide) i h.symm
    · exact ne_toString (c := 'a') (by decide) (by decide) i h.symm
  refine ⟨hown, hnumerals, ?_⟩
  have hagree := chained_agrees_with_concatenated none [sampleParent] sampleDocuments hown
    (.inl hnumerals)
  exact (hagree.2.2 (by decide) "b").trans (by decide)

/-! ## Files -/

theorem Disk.parseFile_eq (disk : Disk) (decryptor : Option Decryptor) (p : Path) :
    disk.parseFile decryptor p =
      match disk.read p with
      | .error e => .error (.load (.unreadable p e))
      | .ok bytes =>
        match Document.bodyOf (.bytes bytes) (formatOf p) with
        | .error e => .error (.compile p.text e)
        | .ok body => .ok { body, source := some p.text, decryptor } := by
  unfold parseFile
  cases disk.read p with
  | error e => rfl
  | ok bytes =>
    simp only [Document.compile]
    cases Document.bodyOf (.bytes bytes) (formatOf p) <;> rfl

theorem Disk.formatOf_of_properties {p : Path} (h : p.suffix = ".properties") :
    formatOf p = .flat := by
  have hlower : Text.lowercase ".properties" = ".properties" := by decide +kernel
  rw [formatOf, h, hlower]
  rfl

theorem Disk.parseFile_of_flat {d : Disk} {decryptor : Option Decryptor} {p : Path}
    {bytes : List UInt8} (hread : d.read p = .ok bytes) (hsuffix : p.suffix = ".properties") :
    d.parseFile decryptor p =
      match Document.bodyOf (.bytes bytes) .flat with
      | .error e => .error (.compile p.text e)
      | .ok body => .ok { body, source := some p.text, decryptor } := by
  rw [parseFile_eq, hread, formatOf_of_properties hsuffix]

/-- A flat document writes its entries and does not fail. -/
theorem runAll_flatStatements {τ : Type} [DecidableEq τ] [Texts τ] (ctx : Context τ) :
    ∀ (entries : List (τ × τ)) (l : Level τ),
    runAll ctx (entries.map Document.flatStatement) l = .done (l.putAll entries)
  | [], _ => rfl
  | e :: entries, l => by
    have hrun : (Document.flatStatement e).run ctx l = .done (l.put e.1 e.2) := by
      simp [Document.flatStatement, Statement.run, Assignment.run, Expression.eval,
        Outcome.onValue]
    rw [List.map_cons, runAll, hrun]
    exact runAll_flatStatements ctx entries (l.put e.1 e.2)

theorem Disk.loadFile_of_flat {d : Disk} {decryptor : Option Decryptor} {p : Path}
    {bytes : List UInt8} (hread : d.read p = .ok bytes) (hsuffix : p.suffix = ".properties")
    {entries : List (String × String)}
    (hbody : Document.bodyOf (.bytes bytes) .flat = .ok (entries.map Document.flatStatement))
    (ancestors : List Level) :
    d.loadFile decryptor ancestors p = .ok (.ofPairs entries) := by
  rw [loadFile, parseFile_of_flat hread hsuffix, hbody]
  simp only [bind, Except.bind, Document.load, Document.run, runAll_flatStatements]
  rfl

/-- What a file says does not depend on the decryptor. -/
theorem Disk.parseFile_decryptor {disk : Disk} {p : Path} {d : Document}
    (h : disk.parseFile none p = .ok d) (decryptor : Option Decryptor) :
    d.decryptor = none ∧ disk.parseFile decryptor p = .ok { d with decryptor } := by
  rw [parseFile_eq] at h ⊢
  cases hread : disk.read p with
  | error e => simp [hread] at h
  | ok bytes =>
    simp only [hread] at h ⊢
    cases hbody : Document.bodyOf (.bytes bytes) (formatOf p) with
    | error e => simp [hbody] at h
    | ok body =>
      obtain rfl : _ = d := by simpa [hbody] using h
      exact ⟨rfl, rfl⟩

theorem Disk.loadFile_eq {disk : Disk} {p : Path} {d : Document}
    (h : disk.parseFile none p = .ok d) (decryptor : Option Decryptor) (levels : List Level) :
    disk.loadFile decryptor levels p =
      match (d.run decryptor ⟨.empty, levels⟩).error with
      | some e => .error (.evaluation e)
      | none => .ok (d.run decryptor ⟨.empty, levels⟩).level := by
  obtain ⟨hown, hparse⟩ := parseFile_decryptor h decryptor
  have hrun : ({ d with decryptor } : Document).load levels =
      d.run decryptor ⟨.empty, levels⟩ := by
    simp [Document.load, Document.run, hown]
  simp only [loadFile, hparse, bind, Except.bind, hrun]
  cases (d.run decryptor ⟨.empty, levels⟩).error <;> rfl

/-- Files loaded in a chain are their documents run below one another. -/
theorem Disk.loadChain_eq_runBelow (disk : Disk) (decryptor : Option Decryptor) :
    ∀ (ps : List Path) (ds : List Document) (levels : List Level),
      ps.map (disk.parseFile none) = ds.map .ok →
      (disk.loadChain decryptor levels ps).map (fun loaded => loaded.reverse.map (·.2) ++ levels) =
        match (runBelow decryptor levels ds).error with
        | some e => .error (.evaluation e)
        | none => .ok (runBelow decryptor levels ds).levels
  | [], [], levels, _ => by
    simp [loadChain, runBelow, Except.map]
  | [], _ :: _, _, h => by simp at h
  | _ :: _, [], _, h => by simp at h
  | p :: ps, d :: ds, levels, h => by
    obtain ⟨hp, hps⟩ := List.cons.inj h
    have ih := loadChain_eq_runBelow disk decryptor ps ds
    simp only [loadChain, loadFile_eq hp]
    cases he : (d.run decryptor ⟨.empty, levels⟩).error with
    | some e => simp [runBelow_cons_of_error he, bind, Except.bind, Except.map]
    | none =>
      have hrest := ih ((d.run decryptor ⟨.empty, levels⟩).level :: levels) hps
      simp only [runBelow_cons_of_none he, ← hrest, bind, Except.bind]
      cases disk.loadChain decryptor ((d.run decryptor ⟨.empty, levels⟩).level :: levels) ps with
      | error e => rfl
      | ok loaded => simp [Except.map, pure, Except.pure]

end PropertyDocs
