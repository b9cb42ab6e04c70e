import PropertyDocs.Proofs.Comments
import PropertyDocs.Proofs.Concatenation

/-!
# Documents in one tree

The content of one document after that of another, in one root, is accepted if and only if both
documents are. It gives the statements of the one and then those of the other, and runs as the two
do when they are put together.
-/
namespace PropertyDocs

namespace Grammar

open Xml (Head Node)

/-! ## Blocks after blocks -/

namespace PassesOver
variable {α β : Type} {h : Head} {read : List Node → Read α} (hread : PassesOver h read)
include hread

/-- Something is done with what was read. -/
theorem bind (f : α → Read β) : PassesOver h fun content => read content >>= f where
  text s rest := by
    rw [toOption_bind, hread.text, toOption_bind, toOption_bind, Option.bind_assoc]
    simp only [toOption_bind]
  comment s rest := by rw [toOption_bind, hread.comment, toOption_bind]
  instruction target data rest := by rw [toOption_bind, hread.instruction, toOption_bind]
  reference name rest := by rw [toOption_bind, hread.reference, toOption_bind]

/-- Something stands after what is read. -/
theorem append (after : List Node) : PassesOver h fun content => read (content ++ after) where
  text s rest := hread.text s (rest ++ after)
  comment s rest := hread.comment s (rest ++ after)
  instruction target data rest := hread.instruction target data (rest ++ after)
  reference name rest := hread.reference name (rest ++ after)

end PassesOver

/-- The element around a block does not matter. -/
theorem toOption_block_head (h h' : Head) (content : List Node) :
    (block h content).toOption = (block h' content).toOption := by
  refine PassesOver.toOption_congr (σ := Unit) (fun _ => passesOver_block h)
    (fun _ => passesOver_block h') (fun _ => by rw [block, block]) (fun e _ rest hrest _ => ?_) ()
  simp only [block]
  exact toOption_bind_congr rfl fun _ => toOption_bind_congr (hrest ()) fun _ => rfl

theorem toOption_block_append (h : Head) (content after : List Node) :
    (block h (content ++ after)).toOption =
      (block h content >>= fun ss => (block h after).map (ss ++ ·)).toOption := by
  refine PassesOver.toOption_congr (σ := Unit) (fun _ => (passesOver_block h).append after)
    (fun _ => (passesOver_block h).bind _) (fun _ => ?_) (fun e _ rest hrest _ => ?_) ()
  · have hnil : (block h after).map ([] ++ ·) = block h after := by
      cases block h after <;> rfl
    rw [List.nil_append, block]
    exact congrArg Except.toOption hnil.symm
  · have happend : (block h (rest ++ after)).toOption =
        (block h rest).toOption.bind fun ss => (block h after).toOption.map (ss ++ ·) := by
      simp only [hrest (), toOption_bind, toOption_map]
    simp only [List.cons_append, block, toOption_bind, toOption_map, happend]
    cases (statement (.element e.1 e.2)).toOption with
    | none => rfl
    | some s =>
      cases (block h rest).toOption with
      | none => rfl
      | some ss =>
        cases (block h after).toOption with
        | none => rfl
        | some ts => exact congrArg some (List.append_assoc s.toList ss ts).symm

/-! ## One tree for two -/

theorem toOption_document_of_tag {h : Head} (htag : h.tag = "properties") (content : List Node)
    (h' : Head) : (document (.element h content)).toOption = (block h' content).toOption := by
  rw [document, if_pos (by simp [htag])]
  exact toOption_block_head h h' content

section
variable {h hA hB : Head} (htag : h.tag = "properties") (htagA : hA.tag = "properties")
  (htagB : hB.tag = "properties") {a b ab : List Node}
  (hab : Xml.strippedIn ab = Xml.strippedIn (a ++ b))
include htag htagA htagB hab

/-- What one tree for two documents gives. -/
theorem document_eq_ok_iff_of_merged (body : List Statement) :
    document (.element h ab) = .ok body ↔
      ∃ bodyA, document (.element hA a) = .ok bodyA ∧
        ∃ bodyB, document (.element hB b) = .ok bodyB ∧ bodyA ++ bodyB = body := by
  have hmerged : (document (.element h ab)).toOption =
      (document (.element hA a)).toOption.bind fun bodyA =>
        (document (.element hB b)).toOption.map (bodyA ++ ·) := by
    calc (document (.element h ab)).toOption
        = (block h ab).toOption := toOption_document_of_tag htag ab h
      _ = (block h (a ++ b)).toOption := by
          rw [← toOption_block_stripped, hab, toOption_block_stripped]
      _ = (block h a).toOption.bind fun bodyA => (block h b).toOption.map (bodyA ++ ·) := by
          simp only [toOption_block_append, toOption_bind, toOption_map]
      _ = _ := by
          rw [toOption_document_of_tag htagA a h, toOption_document_of_tag htagB b h]
  simp only [← toOption_eq_some_iff, hmerged, Option.bind_eq_some_iff, Option.map_eq_some_iff]

end

/-- **One tree for two documents is the two put together.** The content `ab` is that of the one
document and then that of the other, whether or not the texts that meet between them are joined;
comments may stand elsewhere. It is accepted in a root if and only if both are; then its statements
are those of the one and those of the other, and in every run it has the outcome of the two put
together. -/
theorem document_merged (h hA hB : Head) (htag : h.tag = "properties")
    (htagA : hA.tag = "properties") (htagB : hB.tag = "properties") {a b ab : List Node}
    (hab : Xml.strippedIn ab = Xml.strippedIn (a ++ b)) :
    ((∃ body, document (.element h ab) = .ok body) ↔
      (∃ body, document (.element hA a) = .ok body) ∧
        ∃ body, document (.element hB b) = .ok body) ∧
    ∀ bodyA bodyB, document (.element hA a) = .ok bodyA → document (.element hB b) = .ok bodyB →
      document (.element h ab) = .ok (bodyA ++ bodyB) ∧
      ∀ (source sourceA sourceB : Option String) (decryptorA decryptorB : Option Decryptor)
        (override : Option Decryptor) (c : Chain),
        (Document.mk (bodyA ++ bodyB) source (decryptorA <|> decryptorB)).run override c =
          (Document.concat [⟨bodyA, sourceA, decryptorA⟩, ⟨bodyB, sourceB, decryptorB⟩] none).run
            override c := by
  have hmerged := document_eq_ok_iff_of_merged htag htagA htagB hab
  constructor
  · constructor
    · rintro ⟨body, hbody⟩
      obtain ⟨bodyA, hreadA, bodyB, hreadB, -⟩ := (hmerged body).1 hbody
      exact ⟨⟨bodyA, hreadA⟩, bodyB, hreadB⟩
    · rintro ⟨⟨bodyA, hreadA⟩, bodyB, hreadB⟩
      exact ⟨bodyA ++ bodyB, (hmerged _).2 ⟨bodyA, hreadA, bodyB, hreadB, rfl⟩⟩
  · intro bodyA bodyB hreadA hreadB
    refine ⟨(hmerged _).2 ⟨bodyA, hreadA, bodyB, hreadB, rfl⟩, ?_⟩
    intro source sourceA sourceB decryptorA decryptorB override c
    have hdecryptor : [(⟨bodyA, sourceA, decryptorA⟩ : Document),
        ⟨bodyB, sourceB, decryptorB⟩].findSome? (·.decryptor) = (decryptorA <|> decryptorB) := by
      cases decryptorA <;> cases decryptorB <;> rfl
    have hbody : [(⟨bodyA, sourceA, decryptorA⟩ : Document),
        ⟨bodyB, sourceB, decryptorB⟩].flatMap (·.body) = bodyA ++ bodyB := by simp
    rw [Document.run_concat_eq _ source, hdecryptor, hbody]

/-- An entry and a blank after it. -/
def entrySample : List Node :=
  [.element ⟨"entry", [("key", "k"), ("value", "1")], 1⟩ [], .text " "]

/-- A blank and an error after it. -/
def errorSample : List Node := [.text "\n", .element ⟨"error", [("message", "${k}")], 1⟩ []]

/-- The two in one root, with the blanks between them as one text. -/
def mergedSample : List Node :=
  [.element ⟨"entry", [("key", "k"), ("value", "1")], 1⟩ [], .text " \n",
   .element ⟨"error", [("message", "${k}")], 1⟩ []]

/-- The value of the entry is in the error, and both are what the two come to. -/
theorem document_merged_sample :
    let entry := Statement.assign { key := .template ⟨"k", []⟩, value := .template ⟨"1", []⟩,
                                    defaultOnly := false, encrypted := false }
    let error := Statement.error (.template ⟨"", [("k", "")]⟩)
    document (.element ⟨"properties", [], 1⟩ mergedSample) = .ok [entry, error] ∧
    (Document.concat [⟨[entry], none, none⟩, ⟨[error], none, none⟩] none).run none ⟨.empty, []⟩ =
      ⟨Level.empty.put "k" "1", [], some (.configuration "1")⟩ := by
  intro entry error
  have hab : Xml.strippedIn mergedSample = Xml.strippedIn (entrySample ++ errorSample) := by
    simp [mergedSample, entrySample, errorSample, Xml.consText]
  have hmerged := document_merged ⟨"properties", [], 1⟩ ⟨"properties", [], 1⟩
    ⟨"properties", [], 2⟩ rfl rfl rfl hab
  obtain ⟨hread, hrun⟩ := hmerged.2 [entry] [error] rfl rfl
  refine ⟨hread, ?_⟩
  rw [← hrun none none none none none none ⟨.empty, []⟩]
  rfl

end Grammar

end PropertyDocs
