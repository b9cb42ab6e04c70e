import PropertyDocs.Proofs.ChainedLoading
import PropertyDocs.Proofs.Failures
import PropertyDocs.Proofs.Flattening

/-!
# Flat documents as overlays

The entries of a flat document become assignments, which are run like any others: the chain is read
before each one writes. Nothing of what is read there reaches the leaf all the same, so that a run
is nothing but the writing of the entries, whatever is above the leaf and whatever the entries say.
-/
namespace PropertyDocs

/-! ## Levels with entries written over them -/

namespace Level
variable {τ : Type} [DecidableEq τ] {l : Level τ} {k v : τ}

/-- The last entry of a key decides. -/
theorem get?_putAll_of_last {before after : List (τ × τ)} (hlast : k ∉ after.map (·.1)) :
    (l.putAll (before ++ (k, v) :: after)).get? k = some v := by
  have hafter : after.reverse.lookup k = none := by
    rw [lookup_eq_none_iff, List.map_reverse, List.mem_reverse]
    exact hlast
  rw [get?_putAll, List.reverse_append, List.reverse_cons, List.append_assoc, List.lookup_append,
    hafter, Option.none_or, List.lookup_append, lookup_cons_if, if_pos rfl]
  rfl

/-- A key without an entry keeps what it had. -/
theorem get?_putAll_of_notMem {pairs : List (τ × τ)} (hk : k ∉ pairs.map (·.1)) :
    (l.putAll pairs).get? k = l.get? k := by
  have hnone : pairs.reverse.lookup k = none := by
    rw [lookup_eq_none_iff, List.map_reverse, List.mem_reverse]
    exact hk
  rw [get?_putAll, hnone, Option.none_or]

/-- The keys that were there stay where they are, and new ones come behind them. -/
theorem keys_putAll (l : Level τ) (pairs : List (τ × τ)) :
    (l.putAll pairs).keys = (l.keys ++ pairs.map (·.1)).eraseDups :=
  (Appends.putAll _ pairs l).keys_eq

end Level

/-! ## Code points as texts -/

def CodePoint.sameLetter : CodePoint → CodePoint → Bool
  | .char a, .char b => PropertyDocs.sameLetter a b
  | a, b => a == b

/-- Texts in which each half of a surrogate pair is kept. Patterns are matched with what is shown of
them. -/
instance : Texts CodePoints where
  empty := []
  ofCodePoints cs := cs
  numeral n := CodePoints.ofString (toString n)
  expand t value :=
    t.rest.foldl (fun text part => text ++ value part.1 ++ CodePoints.ofString part.2) t.first
  isTruthy cs := isTruthy cs.shown
  equalsIgnoreCase as bs := as.length == bs.length && (as.zip bs).all fun e => e.1.sameLetter e.2
  fullMatch? p cs :=
    (p.fullMatch? cs.shown).map fun groups => groups.map fun g => g.map CodePoints.ofString
  splitSelector cs separator := Pattern.splitSelector cs.shown separator

/-! ## Documents -/

namespace Document
variable {τ : Type} [Texts τ]

/-- A text is accepted as a flat document if it has no malformed entry. -/
theorem flatBody_eq_ok_iff {text : String} {body : List (Statement τ)} :
    flatBody text = .ok body ↔ ∃ entries, FlatFormat.entries text = (entries, none) ∧
      body = entries.map fun e => flatStatement (Texts.ofEntry e) := by
  unfold flatBody
  obtain ⟨entries, malformed⟩ := FlatFormat.entries text
  cases malformed with
  | none => simp [eq_comm]
  | some e => simp

theorem flatBody_of_compileFlat {content : Content} {source : Option String}
    {decryptor : Option (Decryptor τ)} {d : Document τ}
    (h : compileFlat content source decryptor = .ok d) : flatBody content.toText = .ok d.body := by
  simp only [compileFlat, Grammar.bind_eq_ok_iff, Grammar.pure_eq_ok_iff] at h
  obtain ⟨body, hbody, rfl⟩ := h
  exact hbody

/-- **A flat document is an overlay.** Whatever texts are made of, whatever is above the leaf and
whichever decryptor is in force, a run of a flat document does not fail, decrypts nothing and writes
the entries to the leaf one after another, as they stand. So the last entry of a key gives it its
value, a key without an entry keeps its own, the keys that were there stay in their places, and the
new ones come behind them in the order of their first entries. For strings the document is the one
that `compile` gives (`compile_flat`). -/
theorem flat_document_overlays [DecidableEq τ] {content : Content} {source : Option String}
    {bound : Option (Decryptor τ)} {d : Document τ}
    (hcompile : compileFlat content source bound = .ok d) :
    ∃ entries, FlatFormat.entries content.toText = (entries, none) ∧
      ∀ (decryptor : Option (Decryptor τ)) (c : Chain τ),
        let pairs := entries.map Texts.ofEntry
        let after := c.leaf.putAll pairs
        d.run decryptor c = { level := after, calls := [], error := none } ∧
        (∀ before k v later, pairs = before ++ (k, v) :: later → k ∉ later.map (·.1) →
          after.get? k = some v) ∧
        (∀ k, k ∉ pairs.map (·.1) → after.get? k = c.leaf.get? k) ∧
        after.keys = (c.leaf.keys ++ pairs.map (·.1)).eraseDups := by
  obtain ⟨entries, hentries, hbody⟩ := flatBody_eq_ok_iff.1 (flatBody_of_compileFlat hcompile)
  refine ⟨entries, hentries, fun decryptor c => ?_⟩
  intro pairs after
  have hassign : d.body = pairs.map flatStatement := by
    rw [hbody, List.map_map]
    rfl
  refine ⟨?_, ?_, ?_, ?_⟩
  · rw [run, hassign, runAll_flatStatements]
    rfl
  · intro before k v later hpairs hlast
    simp only [after, hpairs]
    exact Level.get?_putAll_of_last hlast
  · intro k hk
    exact Level.get?_putAll_of_notMem hk
  · exact Level.keys_putAll c.leaf pairs

/-- A reference, an escaped backslash and a key that is there twice; the parent has the variable
that is referred to. -/
def overlayText : String := "b=1\na=$\x7bx\x7d\\\\\nb : 2\n"

def halfText : String := "\\ud800=1\n\\ud801=2"

/-- The keys are different halves of surrogate pairs. -/
def halfEntries : List (CodePoints × CodePoints) :=
  [([.ofNat 0xD800], "1"), ([.ofNat 0xD801], "2")]

/-- With strings, and with code points, where no two halves are the same. -/
theorem flat_document_overlays_sample :
    (∃ d, compile (.text overlayText) .flat none none = .ok d ∧
      d.run none ⟨.ofPairs [("c", "0"), ("b", "")], [.ofPairs [("x", "y")]]⟩ =
        { level := .ofPairs [("c", "0"), ("b", "2"), ("a", "$\x7bx\x7d\\")]
          calls := []
          error := none }) ∧
    ∃ d : Document CodePoints, compileFlat (.text halfText) none none = .ok d ∧
      (d.run none ⟨.empty, []⟩).level.entries = halfEntries := by
  constructor
  · have hentries : FlatFormat.entries overlayText =
        ([("b", "1"), ("a", "$\x7bx\x7d\\"), ("b", "2")].map CodePoints.ofPair, none) := by cbv
    have hcompile : compileFlat (.text overlayText) none none =
        .ok ⟨[("b", "1"), ("a", "$\x7bx\x7d\\"), ("b", "2")].map flatStatement, none, none⟩ := by
      cbv
    obtain ⟨entries, hpairs, hrun⟩ := flat_document_overlays hcompile
    obtain ⟨rfl, -⟩ := Prod.mk.inj (hentries.symm.trans hpairs)
    exact ⟨_, (compile_flat _ _ _).trans hcompile, (hrun none _).1.trans (by decide)⟩
  · have hentries : FlatFormat.entries halfText = (halfEntries, none) := by cbv
    have hcompile : compileFlat (.text halfText) none none =
        .ok (⟨halfEntries.map flatStatement, none, none⟩ : Document CodePoints) := by cbv
    obtain ⟨entries, hpairs, hrun⟩ := flat_document_overlays hcompile
    obtain ⟨rfl, -⟩ := Prod.mk.inj (hentries.symm.trans hpairs)
    refine ⟨_, hcompile, ?_⟩
    rw [(hrun none _).1]
    decide

end Document

end PropertyDocs
