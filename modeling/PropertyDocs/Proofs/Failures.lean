import PropertyDocs.Proofs.Origins
import PropertyDocs.Proofs.Visits

/-!
# How runs fail

The error of a run is one that a visited statement raises itself. A known statement raises an error
only where an error statement is run, where a ciphertext meets no decryptor, or where the decryptor
fails; and compiled documents have known statements only.
-/
namespace PropertyDocs

/-! ## Which statement raises an error -/

def errorOf? {α : Type} : Except EvaluationError α → Option EvaluationError
  | .error e => some e
  | .ok _ => none

/-- The error that a statement raises when it is run on `l`, apart from those of the statements in
it. -/
def Statement.raised? (ctx : Context) (l : Level) : Statement → Option EvaluationError
  | .assign a => (a.run ctx l).error
  | .block _ => none
  | .matchPattern value _ _ => errorOf? (value.eval (ctx.chain l))
  | .error message =>
    match message.eval (ctx.chain l) with
    | .ok text => some (.configuration text)
    | .error e => some e
  | .foreign kind => some (.unknownStatement kind)
  | s => errorOf? (s.picked (ctx.chain l))

def Visit.raised? (ctx : Context) (v : Visit) : Option EvaluationError :=
  v.statement.raised? ctx v.level

section
variable {ctx : Context} {e : EvaluationError}

theorem exists_visit_of_runAll {body : List Statement}
    (ih : ∀ s ∈ body, ∀ l, (s.run ctx l).error = some e →
      ∃ v ∈ s.visits ctx l, v.raised? ctx = some e)
    (l : Level) (h : (runAll ctx body l).error = some e) :
    ∃ v ∈ visitsAll ctx body l, v.raised? ctx = some e := by
  induction body generalizing l with
  | nil => simp [runAll, Outcome.done] at h
  | cons s rest ihRest =>
    rw [runAll] at h
    cases he : (s.run ctx l).error with
    | some e' =>
      rw [Outcome.andThen_of_error he, he] at h
      obtain rfl : e' = e := Option.some.inj h
      obtain ⟨v, hv, hraised⟩ := ih s (by simp) l he
      exact ⟨v, mem_visitsAll_head hv, hraised⟩
    | none =>
      rw [Outcome.andThen_of_none he] at h
      obtain ⟨v, hv, hraised⟩ := ihRest (fun t ht => ih t (by simp [ht])) _ h
      exact ⟨v, mem_visitsAll_tail he hv, hraised⟩

theorem exists_visit_of_picked {s : Statement}
    (ih : ∀ t ∈ s.children, ∀ l, (t.run ctx l).error = some e →
      ∃ v ∈ t.visits ctx l, v.raised? ctx = some e)
    (hraised : ∀ l, s.raised? ctx l = errorOf? (s.picked (ctx.chain l)))
    (l : Level)
    (h : (Outcome.onValue l (s.picked (ctx.chain l)) fun t => runOption ctx t l).error = some e) :
    ∃ v ∈ s.visits ctx l, v.raised? ctx = some e := by
  cases hp : s.picked (ctx.chain l) with
  | error e' =>
    obtain rfl : e' = e := by simpa [hp, Outcome.onValue, Outcome.failed] using h
    exact ⟨⟨[], s, l⟩, mem_visits_self s, by simp [Visit.raised?, hraised, hp, errorOf?]⟩
  | ok t =>
    cases t with
    | none => simp [hp, Outcome.onValue, runOption, Outcome.done] at h
    | some t =>
      simp only [hp, Outcome.onValue, runOption] at h
      obtain ⟨v, hv, hv'⟩ := ih t (Statement.mem_children_of_picked hp) l h
      exact ⟨v, mem_visits_of_picked hp hv, hv'⟩

/-- **A visited statement raises the error of a run.** -/
theorem exists_visit_of_error (s : Statement) :
    ∀ l, (s.run ctx l).error = some e → ∃ v ∈ s.visits ctx l, v.raised? ctx = some e := by
  induction s using Statement.induct with
  | step s ih =>
    intro l h
    have hself : s.raised? ctx l = some e → ∃ v ∈ s.visits ctx l, v.raised? ctx = some e :=
      fun hraised => ⟨⟨[], s, l⟩, mem_visits_self s, hraised⟩
    cases s with
    | assign a =>
      rw [Statement.run] at h
      exact hself h
    | block body =>
      rw [Statement.run] at h
      obtain ⟨v, hv, hraised⟩ := exists_visit_of_runAll ih l h
      rw [Statement.visits]
      exact ⟨v, List.mem_cons_of_mem _ hv, hraised⟩
    | choose whens otherwise =>
      rw [run_choose] at h
      exact exists_visit_of_picked ih (fun _ => rfl) l h
    | table selector separator rows otherwise =>
      rw [run_table] at h
      exact exists_visit_of_picked ih (fun _ => rfl) l h
    | matchPattern value pattern body =>
      cases hvalue : value.eval (ctx.chain l) with
      | error e' =>
        rw [run_matchPattern_of_error hvalue] at h
        obtain rfl : e' = e := Option.some.inj h
        exact hself (by simp [Statement.raised?, hvalue, errorOf?])
      | ok text =>
        cases hmatch : pattern.fullMatch? text with
        | none =>
          rw [run_matchPattern_of_noMatch hvalue hmatch] at h
          simp [Outcome.done] at h
        | some groups =>
          rw [run_matchPattern_of_match hvalue hmatch] at h
          obtain ⟨v, hv, hraised⟩ := ih body (by simp [Statement.children]) _ h
          rw [visits_matchPattern_of_match hvalue hmatch]
          exact ⟨v.inside pattern.groups, List.mem_cons_of_mem _ (List.mem_map_of_mem hv), hraised⟩
    | error message =>
      rw [Statement.run] at h
      refine hself ?_
      cases hmessage : message.eval (ctx.chain l) <;>
        simpa [hmessage, Outcome.onValue, Outcome.failed, Statement.raised?] using h
    | foreign kind =>
      rw [Statement.run] at h
      exact hself h

theorem exists_run_of_mem_visitsAll {body : List Statement} {v : Visit} :
    ∀ {l : Level}, v ∈ visitsAll ctx body l → ∃ s ∈ body, ∃ l', v ∈ s.visits ctx l' := by
  induction body with
  | nil =>
    intro l hv
    simp [visitsAll] at hv
  | cons s rest ih =>
    intro l hv
    rw [visitsAll] at hv
    rcases List.mem_append.1 hv with hv | hv
    · exact ⟨s, List.mem_cons_self, l, hv⟩
    · split at hv
      · obtain ⟨t, ht, hv⟩ := ih hv
        exact ⟨t, List.mem_cons_of_mem _ ht, hv⟩
      · simp at hv

theorem exists_picked_of_mem_visitsPicked {picked : Except EvaluationError (Option Statement)}
    {l : Level} {v : Visit} (hv : v ∈ visitsPicked ctx picked l) :
    ∃ s, picked = .ok (some s) ∧ v ∈ s.visits ctx l := by
  cases picked with
  | error e => simp [visitsPicked] at hv
  | ok s =>
    cases s with
    | none => simp [visitsPicked, visitsOption] at hv
    | some s => exact ⟨s, rfl, by simpa only [visitsPicked, visitsOption] using hv⟩

/-- A run comes to statements of the tree only. -/
theorem contains_of_mem_visits (s : Statement) :
    ∀ l, ∀ v ∈ s.visits ctx l, s.Contains v.statement := by
  induction s using Statement.induct with
  | step s ih =>
    intro l v hv
    have hfirst : ∀ {rest : List Visit}, v ∈ ⟨[], s, l⟩ :: rest →
        (v ∈ rest → s.Contains v.statement) → s.Contains v.statement := fun hv hrest => by
      rcases List.mem_cons.1 hv with rfl | hv
      · exact .self s
      · exact hrest hv
    have hpicked : v ∈ visitsPicked ctx (s.picked (ctx.chain l)) l → s.Contains v.statement := by
      intro hv
      obtain ⟨t, ht, hv⟩ := exists_picked_of_mem_visitsPicked hv
      have hchild := Statement.mem_children_of_picked ht
      exact .inner hchild (ih t hchild l v hv)
    cases s with
    | block body =>
      rw [Statement.visits] at hv
      refine hfirst hv fun hv => ?_
      obtain ⟨t, ht, l', hv⟩ := exists_run_of_mem_visitsAll hv
      exact .inner ht (ih t ht l' v hv)
    | choose whens otherwise =>
      rw [visits_choose] at hv
      exact hfirst hv hpicked
    | table selector separator rows otherwise =>
      rw [visits_table] at hv
      exact hfirst hv hpicked
    | matchPattern value pattern body =>
      rw [Statement.visits] at hv
      refine hfirst hv fun hv => ?_
      split at hv
      · simp at hv
      · -- the visits of the body count one more scope, but come to the same statements
        obtain ⟨w, hw, rfl⟩ := List.mem_map.1 hv
        have hbody : body ∈ (Statement.matchPattern value pattern body).children := by
          simp [Statement.children]
        exact .inner hbody (ih body hbody _ w hw)
    | assign | error | foreign =>
      obtain rfl : v = ⟨[], _, l⟩ := by simpa [Statement.visits] using hv
      exact .self _

/-! ## Known forms do not fail -/

theorem Expression.exists_eval_of_known {e : Expression} (he : e.Known) (c : Chain) :
    ∃ text, e.eval c = .ok text := by
  cases e with
  | template t => exact ⟨_, rfl⟩
  | literal text => exact ⟨text, rfl⟩
  | foreign kind => exact he.elim

theorem Test.exists_eval_of_known {test : Test} (htest : test.Known) (c : Chain) :
    ∃ holds, test.eval c = .ok holds := by
  induction test with
  | truthy key =>
    obtain ⟨k, hk⟩ := Expression.exists_eval_of_known htest c
    exact ⟨isTruthy (c.value k), by rw [eval, Expression.lookup, hk]; rfl⟩
  | equals key value caseSensitive =>
    obtain ⟨k, hk⟩ := Expression.exists_eval_of_known htest.1 c
    obtain ⟨v, hv⟩ := Expression.exists_eval_of_known htest.2 c
    exact ⟨_, by rw [eval, Expression.lookup, hk, hv]; rfl⟩
  | matchesPattern key pattern =>
    obtain ⟨k, hk⟩ := Expression.exists_eval_of_known htest c
    exact ⟨pattern.isMatch (c.value k), by rw [eval, Expression.lookup, hk]; rfl⟩
  | not test ih =>
    obtain ⟨holds, h⟩ := ih htest
    exact ⟨!holds, by rw [eval, h]; rfl⟩
  | foreign kind => exact htest.elim

theorem exists_chosen_of_known (c : Chain) (otherwise : Option Statement)
    {whens : List (Test × Statement)} (hknown : ∀ w ∈ whens, w.1.Known) :
    ∃ s, chosen c otherwise whens = .ok s := by
  induction whens with
  | nil => exact ⟨otherwise, rfl⟩
  | cons w rest ih =>
    obtain ⟨test, body⟩ := w
    obtain ⟨htest, hrest⟩ := List.forall_mem_cons.1 hknown
    obtain ⟨holds, h⟩ := Test.exists_eval_of_known htest c
    rw [chosen, h]
    cases holds with
    | true => exact ⟨some body, rfl⟩
    | false => exact ih hrest

theorem Statement.exists_picked_of_known {s : Statement} (hs : s.Known) (c : Chain) :
    ∃ t, s.picked c = .ok t := by
  cases s with
  | choose whens otherwise => exact exists_chosen_of_known c otherwise hs
  | table selector separator rows otherwise =>
    obtain ⟨text, htext⟩ := Expression.exists_eval_of_known hs c
    exact ⟨_, by rw [picked, htext, Except.map]⟩
  | assign | block | matchPattern | error | foreign => exact ⟨none, rfl⟩

end

/-! ## Grounds of errors -/

/-- What there has to be in a statement, and among the calls of its run, for an error to be raised;
there are no grounds for an unknown form. -/
def Statement.Grounds (ctx : Context) (s : Statement) (calls : List (String × String)) :
    EvaluationError → Prop
  | .configuration _ => ∃ message, s.Contains (.error message)
  | .missingDecryptor _ => ctx.decryptor = none ∧ ∃ a, a.encrypted = true ∧ s.Contains (.assign a)
  | .decryption key cause => ∃ d ciphertext, ctx.decryptor = some d ∧ (key, ciphertext) ∈ calls ∧
      d.decrypt key ciphertext = .error cause
  | .unknownStatement _ | .unknownExpression _ | .unknownTest _ => False

section
variable {ctx : Context} {e : EvaluationError}

theorem Statement.Contains.trans {s t u : Statement} (hst : s.Contains t) (htu : t.Contains u) :
    s.Contains u := by
  induction hst with
  | self => exact htu
  | inner hchild _ ih => exact .inner hchild (ih htu)

theorem Statement.Grounds.mono {s t : Statement} {calls calls' : List (String × String)}
    (hst : s.Contains t) (hcalls : ∀ call ∈ calls, call ∈ calls')
    (h : t.Grounds ctx calls e) : s.Grounds ctx calls' e := by
  cases e with
  | configuration text =>
    obtain ⟨message, ht⟩ := h
    exact ⟨message, hst.trans ht⟩
  | missingDecryptor key =>
    obtain ⟨hnone, a, ha, ht⟩ := h
    exact ⟨hnone, a, ha, hst.trans ht⟩
  | decryption key cause =>
    obtain ⟨d, ciphertext, hd, hcall, hfail⟩ := h
    exact ⟨d, ciphertext, hd, hcalls _ hcall, hfail⟩
  | unknownStatement | unknownExpression | unknownTest => exact h

/-- An assignment of known expressions fails at decryption only. -/
theorem Assignment.grounds_of_error {a : Assignment} (ha : (Statement.assign a).Known) {l : Level}
    (h : (a.run ctx l).error = some e) :
    (Statement.assign a).Grounds ctx (a.run ctx l).calls e := by
  obtain ⟨key, hkey⟩ := Expression.exists_eval_of_known ha.1 (ctx.chain l)
  obtain ⟨value, hvalue⟩ := Expression.exists_eval_of_known ha.2 (ctx.chain l)
  simp only [run, hkey, hvalue, Outcome.onValue] at h ⊢
  split at h
  · simp [Outcome.done] at h
  · rename_i hwrites
    rw [if_neg hwrites]
    split at h
    · rename_i hencrypted
      rw [if_pos hencrypted]
      cases hd : ctx.decryptor with
      | none =>
        obtain rfl : EvaluationError.missingDecryptor key = e := by
          simpa [putDecrypted, hd, Outcome.failed] using h
        exact ⟨hd, a, hencrypted, .self _⟩
      | some d =>
        simp only [putDecrypted, hd] at h ⊢
        cases hplain : d.decrypt key value with
        | ok plain => simp [hplain] at h
        | error cause =>
          obtain rfl : EvaluationError.decryption key cause = e := by simpa [hplain] using h
          exact ⟨d, value, hd, by simp, hplain⟩
    · simp [Outcome.done] at h

/-- A known statement has grounds for the error that it raises. -/
theorem Visit.grounds_of_raised {v : Visit} (hv : v.statement.Known)
    (h : v.raised? ctx = some e) : v.statement.Grounds ctx (v.calls ctx) e := by
  obtain ⟨scopes, s, l⟩ := v
  -- what is picked raises its own error, picking raises none
  have hpicked : errorOf? (s.picked (ctx.chain l)) ≠ some e := by
    obtain ⟨t, ht⟩ := Statement.exists_picked_of_known hv (ctx.chain l)
    simp [ht, errorOf?]
  cases s with
  | assign a => exact Assignment.grounds_of_error hv h
  | block body => simp [raised?, Statement.raised?] at h
  | choose whens otherwise => exact absurd h hpicked
  | table selector separator rows otherwise => exact absurd h hpicked
  | matchPattern value pattern body =>
    obtain ⟨text, htext⟩ := Expression.exists_eval_of_known hv (ctx.chain l)
    simp [raised?, Statement.raised?, htext, errorOf?] at h
  | error message =>
    obtain ⟨text, htext⟩ := Expression.exists_eval_of_known hv (ctx.chain l)
    obtain rfl : EvaluationError.configuration text = e := by
      simpa [raised?, Statement.raised?, htext] using h
    exact ⟨message, .self _⟩
  | foreign kind => exact hv.elim

/-- **Where all statements are known, there are grounds for the error of a run.** -/
theorem Statement.grounds_of_run {s : Statement} (hs : ∀ t, s.Contains t → t.Known) {l : Level}
    (h : (s.run ctx l).error = some e) : s.Grounds ctx (s.run ctx l).calls e := by
  obtain ⟨v, hv, hraised⟩ := exists_visit_of_error s l h
  have hcontains := contains_of_mem_visits s l v hv
  refine (Visit.grounds_of_raised (hs _ hcontains) hraised).mono hcontains fun call hcall => ?_
  rw [calls_run]
  exact List.mem_flatMap.2 ⟨v, hv, hcall⟩

end

/-! ## Documents -/

namespace Document

/-- `d.BuiltFrom texts`: the document was compiled from one text, or put together from documents
that were built in turn; `texts` are all the texts that went into it. -/
inductive BuiltFrom : Document → List (Content × Format) → Prop
  | compiled {content : Content} {format : Format} {source : Option String}
      {decryptor : Option Decryptor} {d : Document} :
      compile content format source decryptor = .ok d → BuiltFrom d [(content, format)]
  | concat {parts : List (Document × List (Content × Format))} {decryptor : Option Decryptor} :
      (∀ p ∈ parts, BuiltFrom p.1 p.2) →
        BuiltFrom (concat (parts.map (·.1)) decryptor) (parts.flatMap (·.2))

/-- The text is an XML document with an element of the tag. -/
def HasElement (tag : String) (text : Content × Format) : Prop :=
  text.2 = .xml ∧ ∃ root, Xml.parse text.1.toBytes = .ok root ∧ tag ∈ root.tags

theorem bodyOf_of_compile {content : Content} {format : Format} {source : Option String}
    {decryptor : Option Decryptor} {d : Document}
    (h : compile content format source decryptor = .ok d) : bodyOf content format = .ok d.body := by
  simp only [compile, Grammar.bind_eq_ok_iff, Grammar.pure_eq_ok_iff] at h
  obtain ⟨body, hbody, rfl⟩ := h
  exact hbody

theorem exists_flatStatement_of_flatBody {text : String} {body : List Statement}
    (h : flatBody text = .ok body) {s : Statement} (hs : s ∈ body) : ∃ e, s = flatStatement e := by
  unfold flatBody at h
  split at h
  · obtain rfl := Except.ok.inj h
    obtain ⟨e, -, rfl⟩ := List.mem_map.1 hs
    exact ⟨Texts.ofEntry e, rfl⟩
  · cases h

/-- The statements of a document are known, and its error statements come from elements of its
texts. -/
theorem BuiltFrom.known_of_contains {d : Document} {texts : List (Content × Format)}
    (hd : d.BuiltFrom texts) {t : Statement} (ht : (Statement.block d.body).Contains t) :
    t.Known ∧ ∀ message, t = .error message → ∃ text ∈ texts, HasElement "error" text := by
  induction hd with
  | @compiled content format _ _ d hcompile =>
    have hbody := bodyOf_of_compile hcompile
    cases format with
    | xml =>
      obtain ⟨root, hparse, hall⟩ := Grammar.exists_root_of_xmlBody hbody
      obtain ⟨hknown, -, tag, hroot, htag⟩ := hall t ht
      refine ⟨hknown, ?_⟩
      rintro message rfl
      obtain rfl : tag = "error" := by simpa [Statement.tags] using htag
      exact ⟨_, List.mem_singleton_self _, rfl, root, hparse, hroot⟩
    | flat =>
      cases ht with
      | self => exact ⟨trivial, by simp⟩
      | inner hs ht =>
        obtain ⟨entry, rfl⟩ := exists_flatStatement_of_flatBody hbody hs
        cases ht with
        | self => exact ⟨⟨trivial, trivial⟩, by simp [flatStatement]⟩
        | inner hs ht => simp [flatStatement, Statement.children] at hs
  | @concat parts _ _ ih =>
    cases ht with
    | self => exact ⟨trivial, by simp⟩
    | inner hs ht =>
      obtain ⟨_, hd, rfl⟩ := List.mem_map.1 hs
      obtain ⟨p, hp, rfl⟩ := List.mem_map.1 hd
      obtain ⟨hknown, herror⟩ := ih p hp ht
      refine ⟨hknown, fun message h => ?_⟩
      obtain ⟨text, htext, helement⟩ := herror message h
      exact ⟨text, List.mem_flatMap.2 ⟨p, hp, htext⟩, helement⟩

/-- **Documents fail in the documented ways only.** The error of a run is that of an error element,
that of an encrypted assignment without a decryptor, or one that the decryptor gave to a call; a
document that was built from texts never comes to an unknown form. -/
theorem run_fails_as_documented {d : Document} {texts : List (Content × Format)}
    (hd : d.BuiltFrom texts) (decryptor : Option Decryptor) (c : Chain) :
    match (d.run decryptor c).error with
    | none => True
    | some (.configuration _) => ∃ text ∈ texts, HasElement "error" text
    | some (.missingDecryptor _) => (decryptor <|> d.decryptor) = none ∧
        ∃ a, a.encrypted = true ∧ (Statement.block d.body).Contains (.assign a)
    | some (.decryption key cause) => ∃ dec ciphertext, (decryptor <|> d.decryptor) = some dec ∧
        (key, ciphertext) ∈ (d.run decryptor c).calls ∧ dec.decrypt key ciphertext = .error cause
    | some (.unknownStatement _)
    | some (.unknownExpression _)
    | some (.unknownTest _) => False := by
  have hrun : (Statement.block d.body).run ⟨decryptor <|> d.decryptor, c.ancestors⟩ c.leaf =
      d.run decryptor c := by rw [Statement.run, run]
  have hgrounds : ∀ {e}, (d.run decryptor c).error = some e →
      (Statement.block d.body).Grounds ⟨decryptor <|> d.decryptor, c.ancestors⟩
        (d.run decryptor c).calls e := fun h => by
    rw [← hrun] at h ⊢
    exact Statement.grounds_of_run (fun t ht => (hd.known_of_contains ht).1) h
  cases herror : (d.run decryptor c).error with
  | none => trivial
  | some e =>
    cases e with
    | configuration text =>
      obtain ⟨message, hmessage⟩ := hgrounds herror
      exact (hd.known_of_contains hmessage).2 message rfl
    | missingDecryptor | decryption | unknownStatement | unknownExpression | unknownTest =>
      exact hgrounds herror

/-- The sample and a flat document, each with its text. -/
def sampleParts : List (Document × List (Content × Format)) :=
  [(⟨sampleBody, none, none⟩, [(.sample, .xml)]),
   (⟨[flatStatement ("a", "b")], none, none⟩, [(.text "a=b", .flat)])]

/-- Together they raise the error of the sample. -/
theorem run_fails_as_documented_sample :
    let d := concat (sampleParts.map (·.1)) none
    let texts := sampleParts.flatMap (·.2)
    d.BuiltFrom texts ∧ (d.run none ⟨.empty, []⟩).error = some (.configuration "") ∧
      ∃ text ∈ texts, HasElement "error" text := by
  intro d texts
  have hxml : compile .sample .xml none none = .ok ⟨sampleBody, none, none⟩ := by
    rw [compile, bodyOf, xmlBody_sample]
    rfl
  have hflat : compile (.text "a=b") .flat none none =
      .ok ⟨[flatStatement ("a", "b")], none, none⟩ := by cbv
  have hbuilt : d.BuiltFrom texts := by
    refine .concat fun p hp => ?_
    simp only [sampleParts, List.mem_cons, List.not_mem_nil, or_false] at hp
    rcases hp with rfl | rfl
    · exact .compiled hxml
    · exact .compiled hflat
  have herror : (d.run none ⟨.empty, []⟩).error = some (.configuration "") := by cbv
  have h := run_fails_as_documented hbuilt none ⟨.empty, []⟩
  rw [herror] at h
  exact ⟨hbuilt, herror, h⟩

end Document

end PropertyDocs
