import PropertyDocs.Proofs.Bisimulation

/-!
# The chained view is all that a run sees

Leaves below different ancestors that show the same are run alike. What is compared of a look-up is
a parameter: the value itself, or the value with the empty text for an undefined key, which is all
that expressions and tests read.
-/
namespace PropertyDocs

/-- Below their ancestors, the leaves show the same of every key, as far as `look` tells. -/
def SameView {α : Type} (look : Option String → α) (P Q : List Level) (a b : Level) : Prop :=
  ∀ k, look (Chain.find? (a :: P) k) = look (Chain.find? (b :: Q) k)

section
variable {α : Type} {look : Option String → α} {N : String → Prop} {P Q : List Level}

/-- Leaves that show the same go on showing the same, if the ancestors agree on the keys that are
removed. -/
theorem sameView_bisimulation (hlook : ∀ x y, look x = look y → x.getD "" = y.getD "")
    (above : ∀ k, N k → look (Chain.find? P k) = look (Chain.find? Q k)) :
    Bisimulation P Q N (SameView look P Q) where
  value h := funext fun k => hlook _ _ (h k)
  put {a b} h key value := by
    intro k
    have hk := h k
    simp only [Chain.find?_cons, Level.get?_put] at hk ⊢
    by_cases he : k = key
    · simp [he]
    · simpa [he] using hk
  remove {a b} h key hkey := by
    intro k
    have hk := h k
    simp only [Chain.find?_cons, Level.get?_remove] at hk ⊢
    by_cases he : k = key
    · -- the removal uncovers what the ancestors have
      subst he; simpa using above k hkey
    · simpa [he] using hk
  restore {a b a' b'} h h' n := by
    intro k
    have hk := h k
    have hk' := h' k
    simp only [Chain.find?_cons] at hk hk' ⊢
    by_cases hn : k ∈ numerals n
    · rw [get?_restoreFrom_numeral hn, get?_restoreFrom_numeral hn]; exact hk
    · rw [get?_restoreFrom_other hn, get?_restoreFrom_other hn]; exact hk'

end

/-- Equal leaves stay equal in any bisimulation. -/
theorem Bisimulation.and_eq {P Q : List Level} {N : String → Prop} {R : Level → Level → Prop}
    (bisim : Bisimulation P Q N R) : Bisimulation P Q N fun a b => R a b ∧ a = b where
  value h := bisim.value h.1
  put h key value := ⟨bisim.put h.1 key value, by rw [h.2]⟩
  remove h key hkey := ⟨bisim.remove h.1 key hkey, by rw [h.2]⟩
  restore h h' n := ⟨bisim.restore h.1 h'.1 n, by rw [h.2, h'.2]⟩

/-! ## Values, an undefined key being like an empty one -/

section
variable {P Q : List Level} {a b : Level} {d : Option Decryptor}

theorem valueView_bisimulation
    (above : ∀ k, (Chain.find? P k).getD "" = (Chain.find? Q k).getD "") :
    Bisimulation P Q (fun _ => True) (SameView (·.getD "") P Q) :=
  sameView_bisimulation (fun _ _ h => h) fun k _ => above k

theorem run_agree_of_values (s : Statement)
    (above : ∀ k, (Chain.find? P k).getD "" = (Chain.find? Q k).getD "")
    (h : ∀ k, (Chain.mk a P).value k = (Chain.mk b Q).value k) :
    (s.run ⟨d, P⟩ a).Agree (SameView (·.getD "") P Q) (s.run ⟨d, Q⟩ b) :=
  (valueView_bisimulation above).run s (fun _ _ _ _ _ _ => trivial) a b h

/-- Below ancestors of the same values, a leaf is run to the same outcome. -/
theorem run_eq_of_values (s : Statement)
    (above : ∀ k, (Chain.find? P k).getD "" = (Chain.find? Q k).getD "") (l : Level) :
    s.run ⟨d, P⟩ l = s.run ⟨d, Q⟩ l := by
  have hview : SameView (·.getD "") P Q l l := fun k => by
    simp only [Chain.find?_cons]
    cases l.get? k with
    | some value => rfl
    | none => exact above k
  have hagree := (valueView_bisimulation above).and_eq.run (d := d) s
    (fun _ _ _ _ _ _ => trivial) l l ⟨hview, rfl⟩
  exact Outcome.Agree.eq ⟨hagree.error, hagree.calls, hagree.level.2⟩

end

/-- **A run sees a leaf only through the values of its chain.** Two leaves whose chains, and whose
ancestors, have the same values are run to the same error and the same calls, and have the same
values afterwards; equal leaves stay equal. So the ancestors can be replaced by one level that
shows what they show. -/
theorem run_sees_only_values (d : Option Decryptor) (s : Statement) (P Q : List Level)
    (a b : Level)
    (above : ∀ k, (Chain.find? P k).getD "" = (Chain.find? Q k).getD "")
    (h : ∀ k, (Chain.mk a P).value k = (Chain.mk b Q).value k) :
    (s.run ⟨d, P⟩ a).error = (s.run ⟨d, Q⟩ b).error ∧
    (s.run ⟨d, P⟩ a).calls = (s.run ⟨d, Q⟩ b).calls ∧
    (∀ k, (Chain.mk (s.run ⟨d, P⟩ a).level P).value k =
      (Chain.mk (s.run ⟨d, Q⟩ b).level Q).value k) ∧
    (a = b → (s.run ⟨d, P⟩ a).level = (s.run ⟨d, Q⟩ b).level) ∧
    s.run ⟨d, [Chain.flattened P]⟩ a = s.run ⟨d, P⟩ a ∧
    ∀ l k, (Chain.mk l [Chain.flattened P]).get? k = (Chain.mk l P).get? k := by
  have hagree := run_agree_of_values (d := d) s above h
  refine ⟨hagree.error, hagree.calls, hagree.level, ?_, ?_, ?_⟩
  · rintro rfl
    rw [run_eq_of_values s above]
  · exact run_eq_of_values s (fun k => by rw [Chain.find?_flattened]) a
  · intro l k
    simp only [Chain.get?, Chain.levels, Chain.find?_cons, Chain.get?_flattened, Chain.find?_nil,
      Option.or_none]

/-- The second group takes no part: its numeral is removed from both leaves, and the error comes
before it is put back into the one, where it was empty, and removed again from the other. -/
theorem run_sees_only_values_empty_numeral :
    (∀ k, (Chain.find? [Level.ofPairs [("p", "")]] k).getD "" = (Chain.find? [] k).getD "") ∧
    (∀ k, (Chain.mk (Level.ofPairs [("2", "")]) [Level.ofPairs [("p", "")]]).value k =
      (Chain.mk .empty []).value k) ∧
    ((Statement.sample (.error (.template ⟨"", [("a", "")]⟩))).run
      ⟨none, [Level.ofPairs [("p", "")]]⟩ (Level.ofPairs [("2", "")])).error =
        some (.configuration "7") := by
  have above : ∀ k, (Chain.find? [Level.ofPairs [("p", "")]] k).getD "" =
      (Chain.find? [] k).getD "" := fun k => by
    simp only [Chain.find?_cons, Chain.find?_nil, Level.ofPairs, Level.get?_putAll,
      List.reverse_singleton, Level.lookup_cons_if]
    split <;> rfl
  have hleaf : ∀ k, (Chain.mk (Level.ofPairs [("2", "")]) [Level.ofPairs [("p", "")]]).value k =
      (Chain.mk .empty []).value k := fun k => by
    simp only [Chain.value, Chain.get?, Chain.levels, Chain.find?_cons, Chain.find?_nil,
      Level.ofPairs, Level.get?_putAll, List.reverse_singleton, Level.lookup_cons_if]
    split <;> split <;> rfl
  refine ⟨above, hleaf, ?_⟩
  rw [(run_sees_only_values none _ _ _ _ _ above hleaf).1]
  decide

end PropertyDocs
