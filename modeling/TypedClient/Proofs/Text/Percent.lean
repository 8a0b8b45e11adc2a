import TypedClient.Proofs.Text.Utf8
import TypedClient.Text.Percent

/-!
# Percent escapes are read back

A byte is read back from its escape (`Text.Percent.decode_escape`), and also from the character of
ASCII that has its number, unless this is the percent sign (`Text.Percent.decode_singleton`).  An
escape has none of the signs that separate the parts of an address
(`Text.Percent.eq_or_isAlphanum_of_mem_escape`).
-/

namespace TypedClient.Text.Percent

/-- The character that a small number stands for. -/
lemma toNat_ofNat {n : Nat} (h : n < 0x80) : (Char.ofNat n).toNat = n := by
  have hvalid : n.isValidChar := Or.inl (by omega)
  rw [Char.ofNat, dif_pos hvalid]
  rfl

/-- A byte that is no percent sign stands for itself. -/
lemma decode_cons_of_ne {b : UInt8} (h : b ≠ 0x25) (rest : List UInt8) :
    decode (b :: rest) = b :: decode rest := by
  match rest with
  | [] => rfl
  | [_] => rfl
  | _ :: _ :: _ => rw [decode, if_neg h]

/-- A character of ASCII that is no percent sign is read as its byte. -/
lemma decode_singleton {b : UInt8} (hlt : b.toNat < 0x80) (hne : b ≠ 0x25) (rest : List UInt8) :
    decode (Utf8.encode [Char.ofNat b.toNat] ++ rest) = b :: decode rest := by
  have hc := toNat_ofNat hlt
  rw [Utf8.encode, List.flatMap_singleton, Utf8.utf8EncodeChar_of_lt (by omega), hc,
    UInt8.ofNat_toNat, List.singleton_append, decode_cons_of_ne hne]

/-- The digit of a value below 16 is a letter or digit of ASCII with this value. -/
lemma hexDigit_spec : ∀ n : Fin 16, (hexDigit n).toNat < 0x80 ∧
    hexValue? (UInt8.ofNat (hexDigit n).toNat) = some n.val ∧ (hexDigit n).isAlphanum = true := by
  decide

/-- The escape of a byte is read as the byte. -/
lemma decode_escape (b : UInt8) (rest : List UInt8) :
    decode (Utf8.encode (escape b) ++ rest) = b :: decode rest := by
  have hb : b.toNat < 256 := b.toNat_lt
  obtain ⟨hhigh, hhighValue, -⟩ := hexDigit_spec ⟨b.toNat / 16, by omega⟩
  obtain ⟨hlow, hlowValue, -⟩ := hexDigit_spec ⟨b.toNat % 16, by omega⟩
  have hbytes : Utf8.encode (escape b) =
      [0x25, UInt8.ofNat (hexDigit (b.toNat / 16)).toNat,
        UInt8.ofNat (hexDigit (b.toNat % 16)).toNat] := by
    rw [escape, Utf8.encode, List.flatMap_cons, List.flatMap_cons, List.flatMap_singleton,
      Utf8.utf8EncodeChar_of_lt hhigh, Utf8.utf8EncodeChar_of_lt hlow]
    rfl
  have hvalue : b.toNat / 16 * 16 + b.toNat % 16 = b.toNat := by omega
  rw [hbytes, List.cons_append, List.cons_append, List.singleton_append, decode, if_pos rfl,
    hhighValue, hlowValue]
  dsimp only
  rw [hvalue, UInt8.ofNat_toNat]

/-- An escape consists of the percent sign and of letters and digits. -/
lemma eq_or_isAlphanum_of_mem_escape {b : UInt8} {c : Char} (h : c ∈ escape b) :
    c = '%' ∨ c.isAlphanum = true := by
  have hb : b.toNat < 256 := b.toNat_lt
  obtain ⟨-, -, hhigh⟩ := hexDigit_spec ⟨b.toNat / 16, by omega⟩
  obtain ⟨-, -, hlow⟩ := hexDigit_spec ⟨b.toNat % 16, by omega⟩
  simp only [escape, List.mem_cons, List.not_mem_nil, or_false] at h
  rcases h with rfl | rfl | rfl
  · exact Or.inl rfl
  · exact Or.inr hhigh
  · exact Or.inr hlow

/-- A sign that is neither the percent sign nor a letter or digit is in no escape. -/
lemma ne_of_mem_escape {b : UInt8} {c sign : Char} (h : c ∈ escape b) (hpercent : sign ≠ '%')
    (hsign : sign.isAlphanum = false) : c ≠ sign := by
  rintro rfl
  rcases eq_or_isAlphanum_of_mem_escape h with rfl | halphanum
  · exact hpercent rfl
  · rw [hsign] at halphanum
    cases halphanum

end TypedClient.Text.Percent
