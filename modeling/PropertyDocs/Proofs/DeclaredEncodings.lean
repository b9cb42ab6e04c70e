import PropertyDocs.Proofs.DeclarationScan

/-!
# Encodings that a declaration names

A document that is given as a text is turned into UTF-8, and then its bytes are read in the encoding
that its XML declaration names. The declaration itself is ASCII, which all these encodings have in
common, so it is the rest that comes out as other characters (`Encoding.reread`), unless the
encoding is UTF-8 or the rest is ASCII as well.
-/
namespace PropertyDocs.Xml

namespace XmlDeclaration
open Scan Input

variable (d : XmlDeclaration)

theorem charsOf_text {encoding : Option (Part "encoding" isEncodingName)} {e : Encoding}
    (he : encoding? encoding = some e) (cs : List Char) :
    Encoding.charsOf (utf8Bytes (d.text encoding ++ cs)) = .ok (d.text encoding ++ e.reread cs) := by
  have hascii := d.isAscii_text encoding
  have hmarked : Encoding.marked? (utf8Bytes (d.text encoding ++ cs)) = none := by
    obtain ⟨tail, htail⟩ := d.exists_text_eq encoding
    rw [htail]
    rfl
  have hlatin : (Encoding.page .latin1).decode (utf8Bytes (d.text encoding ++ cs)) =
      d.text encoding ++ (Encoding.page .latin1).reread cs :=
    Encoding.reread_ascii_append (e := .page .latin1) trivial hascii cs
  have hdeclared : Encoding.ofDeclaration.run' (onLine 1
      (d.text encoding ++ (Encoding.page .latin1).reread cs)) = .ok e := by
    obtain ⟨n, hn⟩ := d.reads_ofDeclaration he ((Encoding.page .latin1).reread cs) 1
    change Prod.fst <$> Encoding.ofDeclaration.run _ = _
    rw [hn]
    rfl
  rw [Encoding.charsOf, hmarked]
  change (Encoding.ofDeclaration.run' (onLine 1 _)).map _ = _
  rw [hlatin, hdeclared]
  exact congrArg Except.ok (Encoding.reread_ascii_append (isAsciiBased_of_encoding? he) hascii cs)

/-- The statements of what stands after a declaration. -/
def bodyAfter (standalone : Bool) (cs : List Char) : Option (List Statement) :=
  (((afterHeader standalone).run (onLine 1 cs)).toOption).bind fun r =>
    (Grammar.document r.1).toOption

theorem toOption_xmlBody_text {encoding : Option (Part "encoding" isEncodingName)} {e : Encoding}
    (he : encoding? encoding = some e) (cs : List Char) :
    (Document.xmlBody (utf8Bytes (d.text encoding ++ cs))).toOption =
      bodyAfter d.isAlone (e.reread cs) := by
  obtain ⟨n, hn⟩ := d.reads_header encoding (e.reread cs) 1
  have hparse : parse (utf8Bytes (d.text encoding ++ cs)) =
      Prod.fst <$> (afterHeader d.isAlone).run (onLine n (e.reread cs)) := by
    rw [parse, d.charsOf_text he]
    change Prod.fst <$> document.run (onLine 1 _) = _
    rw [document_eq, StateT.run_bind, hn]
    rfl
  rw [Document.xmlBody, hparse, bodyAfter]
  have halike := alike_afterHeader d.isAlone _ _ (alike_onLine n 1 (e.reread cs))
  generalize (afterHeader d.isAlone).run (onLine n (e.reread cs)) = r,
    (afterHeader d.isAlone).run (onLine 1 (e.reread cs)) = r' at halike
  cases halike with
  | @ok root root' _ _ hroot =>
    change (Grammar.document root).toOption = (Grammar.document root').toOption
    rw [← Grammar.toOption_document_unplaced, ← hroot, Grammar.toOption_document_unplaced]
  | error => rfl

theorem bodyOf_text_eq_ok_iff {encoding : Option (Part "encoding" isEncodingName)} {e : Encoding}
    (he : encoding? encoding = some e) (cs : List Char) (body : List Statement) :
    Document.bodyOf (.text (String.ofList (d.text encoding ++ cs))) .xml = .ok body ↔
      bodyAfter d.isAlone (e.reread cs) = some body := by
  rw [Document.bodyOf, toBytes_text, ← d.toOption_xmlBody_text he, Grammar.toOption_eq_some_iff]

end XmlDeclaration

open Scan

/-- **What a declared encoding does to a text.** A text whose XML declaration names an encoding is
accepted if and only if the text is that does without the name and has after the declaration what
the UTF-8 of the rest means in that encoding, and both give the same statements. So the name changes
nothing if it is that of UTF-8, or if the rest is ASCII. -/
theorem bodyOf_declared (d : XmlDeclaration) (p : Part "encoding" isEncodingName) {e : Encoding}
    (he : Encoding.named? (String.ofList p.value) = some e) (cs : List Char) :
    (∀ body, Document.bodyOf (.text (String.ofList (d.text (some p) ++ cs))) .xml = .ok body ↔
      Document.bodyOf (.text (String.ofList (d.text none ++ e.reread cs))) .xml = .ok body) ∧
    ((e = .utf8 ∨ IsAscii cs) → ∀ body,
      Document.bodyOf (.text (String.ofList (d.text (some p) ++ cs))) .xml = .ok body ↔
        Document.bodyOf (.text (String.ofList (d.text none ++ cs))) .xml = .ok body) := by
  have hsame : ∀ body,
      Document.bodyOf (.text (String.ofList (d.text (some p) ++ cs))) .xml = .ok body ↔
        Document.bodyOf (.text (String.ofList (d.text none ++ e.reread cs))) .xml = .ok body := by
    have hnamed : XmlDeclaration.encoding? (some p) = some e := he
    intro body
    rw [d.bodyOf_text_eq_ok_iff hnamed, d.bodyOf_text_eq_ok_iff rfl, Encoding.reread_utf8]
  refine ⟨hsame, fun hcs => ?_⟩
  have hreread : e.reread cs = cs := by
    rcases hcs with rfl | hcs
    · exact Encoding.reread_utf8 cs
    · exact Encoding.reread_ascii (Encoding.isAsciiBased_of_named he) hcs
  rwa [hreread] at hsame

/-- The declaration `<?xml version='1.0'?>`. -/
def plainDeclaration : XmlDeclaration where
  version := {
    value := "1.0".toList, quote := '\'', before := [' '], left := [], right := []
    accepted := by decide, isQuote := .inr rfl, spaced := by simp
    gapBefore := by simp [IsGap, isSpace], gapLeft := by simp [IsGap], gapRight := by simp [IsGap] }
  standalone := none
  gap := []
  isGap := by simp [IsGap]

/-- ` encoding='ISO-8859-1'`, with the blank. -/
def latin1Part : Part "encoding" isEncodingName where
  value := "ISO-8859-1".toList
  quote := '\''
  before := [' ']
  left := []
  right := []
  accepted := by decide
  isQuote := .inr rfl
  spaced := by simp
  gapBefore := by simp [IsGap, isSpace]
  gapLeft := by simp [IsGap]
  gapRight := by simp [IsGap]

theorem named_latin1Part :
    Encoding.named? (String.ofList latin1Part.value) = some (.page .latin1) := by
  have hlower : (String.ofList latin1Part.value).map Char.toLower = "iso-8859-1" := by
    rw [← String.toList_inj, String.toList_map, String.toList_ofList]
    rfl
  rw [Encoding.named?, hlower]
  rfl

/-- An entry without variables. -/
def entrySample (key value : String) : Statement :=
  .assign { key := .template ⟨key, []⟩, value := .template ⟨value, []⟩, defaultOnly := false,
            encrypted := false }

/-- An ASCII document after a declaration of Latin-1. -/
theorem bodyOf_declared_sample :
    let root := "<properties><entry key='k' value='v'/></properties>".toList
    Encoding.named? (String.ofList latin1Part.value) = some (.page .latin1) ∧ IsAscii root ∧
    Document.bodyOf (.text (String.ofList (plainDeclaration.text (some latin1Part) ++ root))) .xml =
      .ok [entrySample "k" "v"] := by
  have hascii : IsAscii "<properties><entry key='k' value='v'/></properties>".toList := by
    simp [IsAscii]
  have hbody : XmlDeclaration.bodyAfter false
      "<properties><entry key='k' value='v'/></properties>".toList = some [entrySample "k" "v"] := by
    cbv
  refine ⟨named_latin1Part, hascii, ?_⟩
  refine ((bodyOf_declared plainDeclaration latin1Part named_latin1Part _).2 (.inr hascii) _).2 ?_
  rw [plainDeclaration.bodyOf_text_eq_ok_iff rfl, Encoding.reread_utf8]
  exact hbody

/-- Under a declaration of Latin-1 the characters of a text come out as others. -/
theorem declared_latin1_misread :
    Document.bodyOf (.text ("<?xml version='1.0' encoding='ISO-8859-1'?>" ++
        "<properties><entry key='é' value='ü'/></properties>")) .xml =
      .ok [entrySample "Ã©" "Ã¼"] ∧
    Document.bodyOf (.text ("<?xml version='1.0'?>" ++
        "<properties><entry key='é' value='ü'/></properties>")) .xml =
      .ok [entrySample "é" "ü"] := by
  have hlatin : plainDeclaration.text (some latin1Part) =
      "<?xml version='1.0' encoding='ISO-8859-1'?>".toList := by cbv
  have hplain : plainDeclaration.text none = "<?xml version='1.0'?>".toList := by cbv
  have hbytes : (Encoding.page .latin1).reread
      "<properties><entry key='é' value='ü'/></properties>".toList =
        "<properties><entry key='Ã©' value='Ã¼'/></properties>".toList := by cbv
  have hmisread : XmlDeclaration.bodyAfter false
      "<properties><entry key='Ã©' value='Ã¼'/></properties>".toList =
        some [entrySample "Ã©" "Ã¼"] := by cbv
  have hread : XmlDeclaration.bodyAfter false
      "<properties><entry key='é' value='ü'/></properties>".toList =
        some [entrySample "é" "ü"] := by cbv
  have hnamed : XmlDeclaration.encoding? (some latin1Part) = some (.page .latin1) :=
    named_latin1Part
  have hnone : XmlDeclaration.encoding? none = some .utf8 := rfl
  constructor
  · have h := plainDeclaration.bodyOf_text_eq_ok_iff hnamed
      "<properties><entry key='é' value='ü'/></properties>".toList [entrySample "Ã©" "Ã¼"]
    rw [hlatin, hbytes, ← String.toList_append, String.ofList_toList] at h
    exact h.2 hmisread
  · have h := plainDeclaration.bodyOf_text_eq_ok_iff hnone
      "<properties><entry key='é' value='ü'/></properties>".toList [entrySample "é" "ü"]
    rw [hplain, Encoding.reread_utf8, ← String.toList_append, String.ofList_toList] at h
    exact h.2 hread

end PropertyDocs.Xml
