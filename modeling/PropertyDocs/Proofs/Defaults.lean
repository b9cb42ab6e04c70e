import PropertyDocs.Proofs.Origins
import PropertyDocs.Proofs.RunRelation

/-!
# Defaults fill blanks only

Where every assignment is a default, a run changes no key that has a value. A default writes the
leaf also where it keeps what an ancestor has, and a match pattern overwrites and removes numerals
for a while; neither changes in the end what the chain shows under a key that is not empty.
-/
namespace PropertyDocs

/-- Below the ancestors, the second leaf shows every value that the first one shows and that is not
empty. -/
def KeepsValues (ancestors : List Level) (l l' : Level) : Prop :=
  ∀ k v, v ≠ "" → (Chain.mk l ancestors).get? k = some v → (Chain.mk l' ancestors).get? k = some v

/-- The chain shows the same under keys that the leaves have alike. -/
theorem Chain.get?_congr {l l' : Level} {k : String} (h : l'.get? k = l.get? k)
    (ancestors : List Level) : (Chain.mk l' ancestors).get? k = (Chain.mk l ancestors).get? k := by
  rw [get?_mk, get?_mk, h]

theorem keepsValues_runRelation (ancestors : List Level) :
    RunRelation (KeepsValues ancestors) := by
  unfold KeepsValues
  simp only [Chain.get?_mk]
  exact RunRelation.of_keys
    (Q := fun k u w => ∀ v, v ≠ "" → u.or (Chain.find? ancestors k) = some v →
      w.or (Chain.find? ancestors k) = some v)
    (fun _ _ _ _ hk => hk) fun _ _ _ _ huw hwx v hv hk => hwx v hv (huw v hv hk)

/-- A default keeps the value of its key, if there is one, and leaves the other keys. -/
theorem Assignment.keepsValues {ctx : Context} {a : Assignment} (ha : a.defaultOnly = true)
    (l : Level) : KeepsValues ctx.ancestors l (a.run ctx l).level := by
  intro k v hv hk
  rcases a.run_cases ctx l with ⟨e, -, hl⟩ | ⟨key, value, hkey, -, hl⟩
  · rw [hl]
    exact hk
  · by_cases he : k = key
    · subst he
      have hpresent : (ctx.chain l).value k = v := by
        have hget : (ctx.chain l).get? k = some v := hk
        rw [Chain.value, hget, Option.getD_some]
      -- the value that is kept is written to the leaf, wherever it was before
      have hrun : (a.run ctx l).level = l.put k v := by
        simp [run, hkey, Outcome.onValue, ha, hpresent, hv, Outcome.done]
      rw [hrun, Chain.get?_mk, Level.get?_put_self]
      rfl
    · rw [hl, Chain.get?_congr (Level.get?_put_of_ne l value he)]
      exact hk

/-- A document without elements that assign unconditionally has defaults only. -/
theorem defaultOnly_of_notMem_tags {root : Xml.Node} {s : Statement} (hs : s.AllIn root)
    (hentry : "entry" ∉ root.tags) (htable : "entryTable" ∉ root.tags) {a : Assignment}
    (ha : s.Contains (.assign a)) : a.defaultOnly = true := by
  obtain ⟨-, -, tag, hroot, htag⟩ := hs _ ha
  cases hd : a.defaultOnly with
  | true => rfl
  | false =>
    simp only [Statement.tags, hd, Bool.false_eq_true, if_false, List.mem_cons,
      List.not_mem_nil, or_false] at htag
    rcases htag with rfl | rfl
    · exact absurd hroot hentry
    · exact absurd hroot htable

/-- **Defaults fill blanks only.** Where every assignment is a default, as in an XML document
without unconditional ones, a key that the chain shows with a value that is not empty is shown with
this value after every run, whether or not it fails. -/
theorem run_defaults_keepsValues :
    (∀ (ctx : Context) (s : Statement), (∀ a, s.Contains (.assign a) → a.defaultOnly = true) →
      ∀ l, KeepsValues ctx.ancestors l (s.run ctx l).level) ∧
    ∀ (bytes : List UInt8) (root : Xml.Node) (body : List Statement),
      Xml.parse bytes = .ok root → Document.xmlBody bytes = .ok body →
      "entry" ∉ root.tags → "entryTable" ∉ root.tags →
      ∀ (ctx : Context) (l : Level),
        KeepsValues ctx.ancestors l ((Statement.block body).run ctx l).level := by
  have hrun : ∀ (ctx : Context) (s : Statement),
      (∀ a, s.Contains (.assign a) → a.defaultOnly = true) →
        ∀ l, KeepsValues ctx.ancestors l (s.run ctx l).level := fun ctx s hs =>
    (keepsValues_runRelation ctx.ancestors).run s fun a ha l =>
      Assignment.keepsValues (hs a ha) l
  refine ⟨hrun, fun bytes root body hparse hbody hentry htable ctx l => ?_⟩
  obtain ⟨root', hparse', hall⟩ := Grammar.exists_root_of_xmlBody hbody
  obtain rfl : root = root' := Except.ok.inj (hparse.symm.trans hparse')
  exact hrun ctx _ (fun a ha => defaultOnly_of_notMem_tags hall hentry htable ha) l

/-- The sample fills the first numeral of a match around it, which is undone after the error, and
keeps what an ancestor has. -/
theorem run_defaults_keepsValues_sample :
    let s : Statement := .matchPattern (.literal "7") .sample (.block Document.sampleBody)
    let l := Level.ofPairs [("1", "x")]
    (∀ a, s.Contains (.assign a) → a.defaultOnly = true) ∧
    (Chain.mk (s.run ⟨none, []⟩ l).level []).get? "1" = some "x" ∧
    Xml.parse Document.Content.sample.toBytes = .ok .sample ∧
    Document.xmlBody Document.Content.sample.toBytes = .ok Document.sampleBody ∧
    "entry" ∉ Xml.Node.sample.tags ∧ "entryTable" ∉ Xml.Node.sample.tags ∧
    (Chain.mk ((Statement.block Document.sampleBody).run ⟨none, [l]⟩ .empty).level [l]).get? "1" =
      some "x" := by
  intro s l
  have hentry : "entry" ∉ Xml.Node.sample.tags := by decide
  have htable : "entryTable" ∉ Xml.Node.sample.tags := by decide
  have hdefaults : ∀ a, s.Contains (.assign a) → a.defaultOnly = true := by
    intro a ha
    obtain ⟨root, hparse, hall⟩ := Grammar.exists_root_of_xmlBody Document.xmlBody_sample
    obtain rfl : Xml.Node.sample = root := Except.ok.inj (Xml.parse_sample.symm.trans hparse)
    simp only [s] at ha
    cases ha with
    | inner hbody ha =>
      obtain rfl := List.mem_singleton.1 hbody
      exact defaultOnly_of_notMem_tags hall hentry htable ha
  refine ⟨hdefaults, ?_, Xml.parse_sample, Document.xmlBody_sample, hentry, htable, ?_⟩
  · exact run_defaults_keepsValues.1 _ s hdefaults l "1" "x" (by decide) (by decide)
  · exact run_defaults_keepsValues.2 _ _ _ Xml.parse_sample Document.xmlBody_sample hentry htable
      ⟨none, [l]⟩ .empty "1" "x" (by decide) (by decide)

end PropertyDocs
