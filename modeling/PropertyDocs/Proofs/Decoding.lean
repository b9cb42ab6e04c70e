import PropertyDocs.Document

/-!
# The bytes of a document

A text is written in UTF-8, and read from it again without a loss. Of the other encodings that a
declaration may name, all read the ASCII bytes as what they are.
-/
namespace PropertyDocs.Xml

/-! ## The bytes of a text -/

theorem toList_loop (bs : ByteArray) (i : Nat) (r : List UInt8) :
    ByteArray.toList.loop bs i r = r.reverse ++ bs.data.toList.drop i := by
  fun_induction ByteArray.toList.loop bs i r with
  | case1 i r hi ih =>
    have hlength : i < bs.data.toList.length := by simpa using hi
    rw [ih, List.drop_eq_getElem_cons hlength]
    simp [ByteArray.get!, hi]
  | case2 i r hi =>
    have hlength : bs.data.toList.length ≤ i := by simpa using hi
    rw [List.drop_of_length_le hlength, List.append_nil]

def utf8Bytes (cs : List Char) : List UInt8 := cs.flatMap String.utf8EncodeChar

theorem utf8Bytes_append (cs ds : List Char) :
    utf8Bytes (cs ++ ds) = utf8Bytes cs ++ utf8Bytes ds := List.flatMap_append

theorem toBytes_text (cs : List Char) :
    (Document.Content.text (String.ofList cs)).toBytes = utf8Bytes cs := by
  have hbytes : (String.ofList cs).toUTF8 = (utf8Bytes cs).toByteArray := by
    rw [String.toUTF8, String.toByteArray_ofList]
    rfl
  rw [Document.Content.toBytes, hbytes, ByteArray.toList, toList_loop, List.data_toByteArray]
  simp

def IsAscii (cs : List Char) : Prop := ∀ c ∈ cs, c.toNat < 0x80

theorem IsAscii.append {cs ds : List Char} (h : IsAscii cs) (h' : IsAscii ds) :
    IsAscii (cs ++ ds) := List.forall_mem_append.2 ⟨h, h'⟩

theorem utf8EncodeChar_ascii {c : Char} (h : c.toNat < 0x80) :
    String.utf8EncodeChar c = [UInt8.ofNat c.toNat] := by
  have hle : c.val.toNat ≤ 127 := Nat.le_of_lt_succ h
  simp only [String.utf8EncodeChar, hle, if_true]
  rfl

theorem utf8Bytes_ascii {cs : List Char} (h : IsAscii cs) :
    utf8Bytes cs = cs.map fun c => UInt8.ofNat c.toNat := by
  induction cs with
  | nil => rfl
  | cons c cs ih =>
    obtain ⟨hc, hcs⟩ := List.forall_mem_cons.1 h
    rw [utf8Bytes, List.flatMap_cons, utf8EncodeChar_ascii hc, List.map_cons]
    exact congrArg _ (ih hcs)

namespace Encoding

/-! ## Decoding -/

theorem toNat_lt (c : Char) : c.toNat < 0x110000 := by
  have hvalid : c.toNat.isValidChar := c.valid
  simp only [Nat.isValidChar] at hvalid
  omega

theorem toNat_ofNat_ascii {c : Char} (h : c.toNat < 0x80) :
    (UInt8.ofNat c.toNat).toNat = c.toNat :=
  Nat.mod_eq_of_lt (by omega)

theorem isTail_iff {b : UInt8} : isTail b = true ↔ 0x80 ≤ b.toNat ∧ b.toNat < 0xc0 := by
  simp [isTail, UInt8.le_iff_toNat_le, UInt8.lt_iff_toNat_lt]

theorem utf8Char_eq {lead least : Nat} {tail : List UInt8} {c : Char}
    (hsum : tail.foldl (fun n b => n * 64 + b.toNat % 64) lead = c.toNat) (hleast : least ≤ c.toNat)
    (htail : ∀ b ∈ tail, isTail b = true) : utf8Char lead least tail = c := by
  have hall : tail.all isTail = true := List.all_eq_true.2 htail
  have hvalid : c.toNat.isValidChar := c.valid
  simp [utf8Char, hsum, hall, Nat.not_lt.2 hleast, charOf, hvalid]

section
variable {b b₁ b₂ b₃ : UInt8} {c : Char} {rest : List UInt8}

theorem decodeUtf8_ascii (h : c.toNat < 0x80) (rest : List UInt8) :
    decodeUtf8 (UInt8.ofNat c.toNat :: rest) = c :: decodeUtf8 rest := by
  have hb : UInt8.ofNat c.toNat < 0x80 := by
    rw [UInt8.lt_iff_toNat_lt, toNat_ofNat_ascii h]
    exact h
  rw [decodeUtf8.eq_def]
  simp only [hb, if_true, toNat_ofNat_ascii h, Char.ofNat_toNat]

theorem not_lt_of_le {m n : Nat} (hb : b.toNat = n + m) {k : UInt8} (hk : k.toNat ≤ m) : ¬ b < k := by
  rw [UInt8.lt_iff_toNat_lt]
  omega

theorem decodeUtf8_two (hb : b.toNat = c.toNat / 64 + 0xc0) (hb₁ : b₁.toNat = c.toNat % 64 + 0x80)
    (hleast : 0x80 ≤ c.toNat) (hlast : c.toNat < 0x800) :
    decodeUtf8 (b :: b₁ :: rest) = c :: decodeUtf8 rest := by
  have hchar : utf8Char (b.toNat - 0xc0) 0x80 [b₁] = c := by
    refine utf8Char_eq ?_ hleast (by simp [isTail_iff, hb₁]; omega)
    simp only [List.foldl_cons, List.foldl_nil]
    omega
  have hlead : b < 0xe0 := by
    rw [UInt8.lt_iff_toNat_lt, hb]
    change _ < 0xe0
    omega
  rw [decodeUtf8, if_neg (not_lt_of_le hb (by decide)), if_neg (not_lt_of_le hb (by decide)),
    if_pos hlead, hchar]

theorem decodeUtf8_three (hb : b.toNat = c.toNat / 4096 + 0xe0)
    (hb₁ : b₁.toNat = c.toNat / 64 % 64 + 0x80) (hb₂ : b₂.toNat = c.toNat % 64 + 0x80)
    (hleast : 0x800 ≤ c.toNat) (hlast : c.toNat < 0x10000) :
    decodeUtf8 (b :: b₁ :: b₂ :: rest) = c :: decodeUtf8 rest := by
  have hchar : utf8Char (b.toNat - 0xe0) 0x800 [b₁, b₂] = c := by
    refine utf8Char_eq ?_ hleast (by simp [isTail_iff, hb₁, hb₂]; omega)
    simp only [List.foldl_cons, List.foldl_nil]
    omega
  have hlead : b < 0xf0 := by
    rw [UInt8.lt_iff_toNat_lt, hb]
    change _ < 0xf0
    omega
  rw [decodeUtf8, if_neg (not_lt_of_le hb (by decide)), if_neg (not_lt_of_le hb (by decide)),
    if_neg (not_lt_of_le hb (by decide)), if_pos hlead]
  dsimp only
  rw [hchar]

theorem decodeUtf8_four (hb : b.toNat = c.toNat / 262144 + 0xf0)
    (hb₁ : b₁.toNat = c.toNat / 4096 % 64 + 0x80) (hb₂ : b₂.toNat = c.toNat / 64 % 64 + 0x80)
    (hb₃ : b₃.toNat = c.toNat % 64 + 0x80) (hleast : 0x10000 ≤ c.toNat) :
    decodeUtf8 (b :: b₁ :: b₂ :: b₃ :: rest) = c :: decodeUtf8 rest := by
  have hchar : utf8Char (b.toNat - 0xf0) 0x10000 [b₁, b₂, b₃] = c := by
    refine utf8Char_eq ?_ hleast (by simp [isTail_iff, hb₁, hb₂, hb₃]; omega)
    simp only [List.foldl_cons, List.foldl_nil]
    omega
  have hlast : c.toNat < 0x110000 := toNat_lt c
  have hlead : b < 0xf8 := by
    rw [UInt8.lt_iff_toNat_lt, hb]
    change _ < 0xf8
    omega
  rw [decodeUtf8, if_neg (not_lt_of_le hb (by decide)), if_neg (not_lt_of_le hb (by decide)),
    if_neg (not_lt_of_le hb (by decide)), if_neg (not_lt_of_le hb (by decide)), if_pos hlead]
  dsimp only
  rw [hchar]

end

/-- UTF-8 is read as it was written. -/
theorem decodeUtf8_utf8EncodeChar (c : Char) (rest : List UInt8) :
    decodeUtf8 (String.utf8EncodeChar c ++ rest) = c :: decodeUtf8 rest := by
  have hlast : c.toNat < 0x110000 := toNat_lt c
  have hbyte {n m : Nat} (hn : n < 256) (hm : n = m) : (UInt8.ofNat n).toNat = m :=
    (Nat.mod_eq_of_lt hn).trans hm
  simp only [String.utf8EncodeChar, show c.val.toNat = c.toNat from rfl]
  split
  · exact decodeUtf8_ascii (by omega) rest
  split
  · exact decodeUtf8_two (hbyte (by omega) (by omega)) (hbyte (by omega) (by omega)) (by omega)
      (by omega)
  split
  · exact decodeUtf8_three (hbyte (by omega) (by omega)) (hbyte (by omega) (by omega))
      (hbyte (by omega) (by omega)) (by omega) (by omega)
  · exact decodeUtf8_four (hbyte (by omega) (by omega)) (hbyte (by omega) (by omega))
      (hbyte (by omega) (by omega)) (hbyte (by omega) (by omega)) (by omega)

theorem decodeUtf8_utf8Bytes (cs : List Char) : decodeUtf8 (utf8Bytes cs) = cs := by
  induction cs with
  | nil => rfl
  | cons c cs ih =>
    rw [utf8Bytes, List.flatMap_cons, decodeUtf8_utf8EncodeChar]
    exact congrArg _ ih

/-! ## Encodings with the ASCII characters -/

/-- One byte stands for each ASCII character, and it is the same as in ASCII. -/
def IsAsciiBased : Encoding → Prop
  | utf16 _ => False
  | _ => True

theorem isAsciiBased_of_named {name : String} {e : Encoding} (h : named? name = some e) :
    e.IsAsciiBased := by
  unfold named? at h
  dsimp only at h
  split at h
  · cases h
    trivial
  · split at h
    · cases h
      trivial
    · obtain ⟨p, -, rfl⟩ := Option.map_eq_some_iff.1 h
      trivial

/-- What the characters are read as if they are written in UTF-8. -/
def reread (e : Encoding) (cs : List Char) : List Char := e.decode (utf8Bytes cs)

theorem decode_ascii_append {e : Encoding} (he : e.IsAsciiBased) {cs : List Char} (hcs : IsAscii cs)
    (bs : List UInt8) : e.decode (utf8Bytes cs ++ bs) = cs ++ e.decode bs := by
  rw [utf8Bytes_ascii hcs]
  induction cs with
  | nil => rfl
  | cons c cs ih =>
    obtain ⟨hc, hcs⟩ := List.forall_mem_cons.1 hcs
    have hlt : UInt8.ofNat c.toNat < 0x80 := by
      rw [UInt8.lt_iff_toNat_lt, toNat_ofNat_ascii hc]
      exact hc
    cases e with
    | utf8 => exact (decodeUtf8_ascii hc _).trans (congrArg _ (ih hcs))
    | utf16 => exact he.elim
    | ascii | page p =>
      simp only [decode, List.map_cons, List.cons_append, hlt, if_true, toNat_ofNat_ascii hc,
        Char.ofNat_toNat] at ih ⊢
      rw [ih hcs]

theorem reread_ascii_append {e : Encoding} (he : e.IsAsciiBased) {cs : List Char}
    (hcs : IsAscii cs) (ds : List Char) : e.reread (cs ++ ds) = cs ++ e.reread ds := by
  rw [reread, utf8Bytes_append, decode_ascii_append he hcs, reread]

theorem reread_utf8 (cs : List Char) : utf8.reread cs = cs := decodeUtf8_utf8Bytes cs

theorem reread_ascii {e : Encoding} (he : e.IsAsciiBased) {cs : List Char} (hcs : IsAscii cs) :
    e.reread cs = cs := by
  have hnil : e.reread [] = [] := by cases e <;> rfl
  have happend := reread_ascii_append he hcs []
  rwa [hnil, List.append_nil] at happend

end Encoding
end PropertyDocs.Xml
