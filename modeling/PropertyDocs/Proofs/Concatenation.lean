import PropertyDocs.Document

/-!
# Documents one after another

Documents put together count for their blocks in order, for their named sources in order and for
the first decryptor among them. So it does not matter in which groups they were put together, and
running them comes to running their blocks in turn, up to the first that fails.
-/
namespace PropertyDocs

/-! ## Statements one after another -/

namespace Outcome

@[simp] theorem andThen_done (o : Outcome) : o.andThen done = o := by
  unfold andThen
  cases ho : o.error with
  | some e => rfl
  | none =>
    obtain ⟨level, calls, error⟩ := o
    obtain rfl : error = none := ho
    simp [done]

@[simp] theorem done_andThen (l : Level) (next : Level → Outcome) :
    (done l).andThen next = next l := by
  simp [andThen, done]

theorem andThen_assoc (o : Outcome) (f g : Level → Outcome) :
    (o.andThen f).andThen g = o.andThen fun l => (f l).andThen g := by
  unfold andThen
  cases ho : o.error with
  | some e => simp only [ho]
  | none =>
    cases hf : (f o.level).error with
    | some e => simp only [hf]
    | none => simp only [hf, List.append_assoc]

end Outcome

section
variable (ctx : Context)

theorem runAll_singleton (s : Statement) (l : Level) : runAll ctx [s] l = s.run ctx l := by
  have hnil : runAll ctx [] = Outcome.done := by
    funext m
    rw [runAll]
  rw [runAll, hnil, Outcome.andThen_done]

theorem runAll_append (body rest : List Statement) (l : Level) :
    runAll ctx (body ++ rest) l = (runAll ctx body l).andThen (runAll ctx rest) := by
  induction body generalizing l with
  | nil => rw [List.nil_append, runAll, Outcome.done_andThen]
  | cons s body ih =>
    have hrest : runAll ctx (body ++ rest) =
        fun m => (runAll ctx body m).andThen (runAll ctx rest) := funext ih
    rw [List.cons_append, runAll, runAll, hrest, Outcome.andThen_assoc]

end

/-- `RunsInTurn ctx body l o`: run one after another from the leaf `l` on, the statements come to
`o`. The first one that fails ends it with its error and with what it has done to the leaf by then;
those after it leave no trace. -/
inductive RunsInTurn (ctx : Context) : List Statement → Level → Outcome → Prop
  | finished (l : Level) : RunsInTurn ctx [] l ⟨l, [], none⟩
  | failed {s : Statement} {l m : Level} {calls : List (String × String)} {e : EvaluationError}
      (later : List Statement) : s.run ctx l = ⟨m, calls, some e⟩ →
      RunsInTurn ctx (s :: later) l ⟨m, calls, some e⟩
  | next {s : Statement} {later : List Statement} {l m n : Level}
      {calls calls' : List (String × String)} {error : Option EvaluationError} :
      s.run ctx l = ⟨m, calls, none⟩ → RunsInTurn ctx later m ⟨n, calls', error⟩ →
      RunsInTurn ctx (s :: later) l ⟨n, calls ++ calls', error⟩

/-- Running statements in turn is what a block does, and it has one outcome. -/
theorem runsInTurn_iff {ctx : Context} {body : List Statement} {l : Level} {o : Outcome} :
    RunsInTurn ctx body l o ↔ runAll ctx body l = o := by
  constructor
  · intro h
    induction h with
    | finished l => rw [runAll, Outcome.done]
    | failed later hs => rw [runAll, hs, Outcome.andThen]
    | next hs _ ih => simp only [runAll, hs, Outcome.andThen, ih]
  · rintro rfl
    induction body generalizing l with
    | nil =>
      rw [runAll]
      exact .finished l
    | cons s later ih =>
      rw [runAll]
      cases hs : s.run ctx l with
      | mk m calls error =>
        cases error with
        | some e => exact .failed later hs
        | none => exact .next hs ih

/-! ## What documents count for among others -/

namespace Document

/-- The sources that are named, in order. -/
def sources (ds : List Document) : List String := (ds.filterMap (·.source)).filter (· != "")

/-- The source of documents put together. -/
def sourceOf (ds : List Document) : Option String :=
  if (sources ds).isEmpty then none else some (", ".intercalate (sources ds))

theorem source_concat (ds : List Document) (decryptor : Option Decryptor) :
    (concat ds decryptor).source = sourceOf ds := rfl

theorem sources_singleton (d : Document) : sources [d] = (d.source.filter (· != "")).toList := by
  cases hd : d.source with
  | none => simp [sources, hd]
  | some s => by_cases hs : s = "" <;> simp [sources, hd, hs, Option.filter]

theorem sourceOf_of_nil {ds : List Document} (h : sources ds = []) : sourceOf ds = none := by
  simp [sourceOf, h]

theorem sourceOf_of_ne_nil {ds : List Document} (h : sources ds ≠ []) :
    sourceOf ds = some (", ".intercalate (sources ds)) := by
  simp [sourceOf, h]

/-- The source of what comes first and that of what comes after it, as one. -/
def joinSources : Option String → Option String → Option String
  | none, t => t
  | some s, none => some s
  | some s, some t => some (s ++ ", " ++ t)

theorem sourceOf_append (ds es : List Document) :
    sourceOf (ds ++ es) = joinSources (sourceOf ds) (sourceOf es) := by
  have happend : sources (ds ++ es) = sources ds ++ sources es := by
    simp only [sources, List.filterMap_append, List.filter_append]
  by_cases hd : sources ds = []
  · have hes : sources (ds ++ es) = sources es := by rw [happend, hd, List.nil_append]
    rw [sourceOf_of_nil hd, joinSources, sourceOf, sourceOf, hes]
  · by_cases he : sources es = []
    · have hds : sources (ds ++ es) = sources ds := by rw [happend, he, List.append_nil]
      rw [sourceOf_of_nil he, sourceOf_of_ne_nil hd, joinSources, sourceOf, hds, if_neg (by simpa)]
    · have hne : sources (ds ++ es) ≠ [] := by simp [happend, hd]
      rw [sourceOf_of_ne_nil hd, sourceOf_of_ne_nil he, sourceOf_of_ne_nil hne, happend,
        String.intercalate_append_of_ne_nil hd he, joinSources]

/-- Named sources put together are a name. -/
theorem intercalate_sources_ne_empty {ds : List Document} (h : sources ds ≠ []) :
    ", ".intercalate (sources ds) ≠ "" := by
  have hnamed : ∀ s ∈ sources ds, s ≠ "" := by simp [sources]
  cases hs : sources ds with
  | nil => exact absurd hs h
  | cons s rest =>
    have hne : s ≠ "" := hnamed s (by simp [hs])
    cases rest with
    | nil => rwa [String.intercalate_singleton]
    | cons t rest => simp [String.intercalate_cons_cons, hne]

/-- Documents that were put together are named among others as if they were not. -/
theorem sourceOf_concat (ds : List Document) (decryptor : Option Decryptor) :
    sourceOf [concat ds decryptor] = sourceOf ds := by
  have hsources : sources [concat ds decryptor] = ((sourceOf ds).filter (· != "")).toList :=
    sources_singleton _
  by_cases h : sources ds = []
  · rw [sourceOf_of_nil h] at hsources ⊢
    exact sourceOf_of_nil hsources
  · have hname := intercalate_sources_ne_empty h
    have hsingle : sources [concat ds decryptor] = [", ".intercalate (sources ds)] := by
      rw [hsources, sourceOf_of_ne_nil h]
      simp [hname]
    rw [sourceOf_of_ne_nil h, sourceOf_of_ne_nil (by simp [hsingle]), hsingle,
      String.intercalate_singleton]

/-- The blocks of documents. -/
def blocks (ds : List Document) : List Statement := ds.map fun d => .block d.body

/-- The blocks of documents are run as the statements in them. -/
theorem runAll_blocks (ctx : Context) (ds : List Document) (l : Level) :
    runAll ctx (blocks ds) l = runAll ctx (ds.flatMap (·.body)) l := by
  induction ds generalizing l with
  | nil => rfl
  | cons d ds ih =>
    have hblocks : blocks (d :: ds) = .block d.body :: blocks ds := rfl
    have hrest : runAll ctx (blocks ds) = runAll ctx (ds.flatMap (·.body)) := funext ih
    rw [hblocks, List.flatMap_cons, runAll, Statement.run, runAll_append, hrest]

/-- Documents put together run as one document that has their statements. -/
theorem run_concat_eq (ds : List Document) (source : Option String) (override : Option Decryptor)
    (c : Chain) :
    (concat ds none).run override c =
      (⟨ds.flatMap (·.body), source, ds.findSome? (·.decryptor)⟩ : Document).run override c :=
  runAll_blocks _ ds c.leaf

/-- Documents that count for the same as others, wherever they stand. -/
structure Interchangeable (ds es : List Document) : Prop where
  source : sourceOf ds = sourceOf es
  decryptor : ds.findSome? (·.decryptor) = es.findSome? (·.decryptor)
  run (ctx : Context) (l : Level) : runAll ctx (blocks ds) l = runAll ctx (blocks es) l

namespace Interchangeable
variable {ds ds' es es' : List Document}

theorem refl (ds : List Document) : Interchangeable ds ds := ⟨rfl, rfl, fun _ _ => rfl⟩

theorem trans {fs : List Document} (h : Interchangeable ds es) (h' : Interchangeable es fs) :
    Interchangeable ds fs where
  source := h.source.trans h'.source
  decryptor := h.decryptor.trans h'.decryptor
  run ctx l := (h.run ctx l).trans (h'.run ctx l)

theorem append (h : Interchangeable ds es) (h' : Interchangeable ds' es') :
    Interchangeable (ds ++ ds') (es ++ es') where
  source := by rw [sourceOf_append, sourceOf_append, h.source, h'.source]
  decryptor := by rw [List.findSome?_append, List.findSome?_append, h.decryptor, h'.decryptor]
  run ctx l := by
    have hrest : runAll ctx (blocks ds') = runAll ctx (blocks es') := funext (h'.run ctx)
    have happend : ∀ fs gs : List Document, blocks (fs ++ gs) = blocks fs ++ blocks gs :=
      fun _ _ => List.map_append
    rw [happend, happend, runAll_append, runAll_append, h.run, hrest]

/-- Documents put together count for what they count for apart. -/
theorem concat (ds : List Document) : Interchangeable [Document.concat ds none] ds where
  source := sourceOf_concat ds none
  decryptor := by simp [Document.concat]
  run ctx l := by
    have hbody : blocks [Document.concat ds none] = [.block (blocks ds)] := rfl
    rw [hbody, runAll_singleton, Statement.run]

/-- Put together, they are the same but for the shape of their block. -/
theorem run_concat (h : Interchangeable ds es) (override : Option Decryptor) (c : Chain) :
    (Document.concat ds none).run override c = (Document.concat es none).run override c := by
  have hdecryptor : (Document.concat ds none).decryptor = (Document.concat es none).decryptor :=
    congrArg (none <|> ·) h.decryptor
  rw [Document.run, Document.run, hdecryptor]
  exact h.run _ _

end Interchangeable

/-! ## Documents in groups -/

/-- Documents in groups of groups, each of which is put together. -/
inductive Grouping where
  | document (d : Document)
  | group (parts : List Grouping)

mutual

/-- The documents in a grouping, in order. -/
def Grouping.documents : Grouping → List Document
  | .document d => [d]
  | .group parts => documentsIn parts

def documentsIn : List Grouping → List Document
  | [] => []
  | g :: rest => g.documents ++ documentsIn rest

end

mutual

/-- The document that a grouping is put together to. -/
def Grouping.together : Grouping → Document
  | .document d => d
  | .group parts => concat (togetherIn parts) none

def togetherIn : List Grouping → List Document
  | [] => []
  | g :: rest => g.together :: togetherIn rest

end

mutual

theorem interchangeable_together : ∀ g : Grouping, Interchangeable [g.together] g.documents
  | .document d => by
    rw [Grouping.together, Grouping.documents]
    exact .refl [d]
  | .group parts => by
    rw [Grouping.together, Grouping.documents]
    exact (Interchangeable.concat _).trans (interchangeable_togetherIn parts)

theorem interchangeable_togetherIn :
    ∀ parts : List Grouping, Interchangeable (togetherIn parts) (documentsIn parts)
  | [] => by
    rw [togetherIn, documentsIn]
    exact .refl []
  | g :: rest => by
    rw [togetherIn, documentsIn]
    exact (interchangeable_together g).append (interchangeable_togetherIn rest)

end

/-- **Putting documents together is associative, and running them is running their blocks in
turn.** However they are grouped, they have the named sources in order for their source, the first
decryptor among them, and in every run the outcome of the list without groups; and that is the one
that their blocks come to in turn, all with the decryptor of the run, else with that first one. -/
theorem concat_groups_eq_flat (parts : List Grouping) :
    let ds := documentsIn parts
    let d := concat (togetherIn parts) none
    let named := (ds.filterMap (·.source)).filter (· != "")
    let first := ds.findSome? (·.decryptor)
    (d.source = (concat ds none).source ∧
      d.source = if named.isEmpty then none else some (", ".intercalate named)) ∧
    (d.decryptor = (concat ds none).decryptor ∧ d.decryptor = first) ∧
    ∀ (override : Option Decryptor) (c : Chain),
      d.run override c = (concat ds none).run override c ∧
      ∀ o, RunsInTurn ⟨override <|> first, c.ancestors⟩ (ds.map fun d => .block d.body) c.leaf o ↔
        d.run override c = o := by
  intro ds d named first
  have hsame : Interchangeable (togetherIn parts) ds := interchangeable_togetherIn parts
  have hsource : d.source = sourceOf ds := (source_concat _ none).trans hsame.source
  have hfirst : ∀ es : List Document, (concat es none).decryptor = es.findSome? (·.decryptor) := by
    simp [concat]
  have hdecryptor : d.decryptor = first := (hfirst _).trans hsame.decryptor
  refine ⟨⟨hsource, hsource⟩, ⟨hdecryptor.trans (hfirst ds).symm, hdecryptor⟩, fun override c => ?_⟩
  refine ⟨hsame.run_concat override c, fun o => ?_⟩
  have hrun : d.run override c =
      runAll ⟨override <|> first, c.ancestors⟩ (ds.map fun d => .block d.body) c.leaf := by
    rw [run, hdecryptor]
    exact hsame.run _ _
  rw [hrun, runsInTurn_iff]

end Document

end PropertyDocs
