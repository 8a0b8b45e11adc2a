import Mathlib.Data.List.Basic
import Mathlib.Tactic.Lemma
import TypedClient.Text.Utf8

/-!
# UTF-8 is read back

Reading the bytes of a text gives the text (`Text.Utf8.decode_encode`,
`Text.Utf8.decodeLossy_encode`).  The bytes of each
character are read as this character, whatever follows them: the first byte says how many are
missing, and the ranges for the second byte leave out what no character spells.
-/

namespace TypedClient.Text.Utf8

/-! ## First bytes -/

/-- A small byte is a character of its own. -/
lemma begin_of_lt {n : Nat} (h : n < 0x80) :
    begin (UInt8.ofNat n) = .error (.char (Char.ofNat n)) := by
  have hn : n % 256 = n := Nat.mod_eq_of_lt (by omega)
  simp [begin, hn, h]

/-- A byte that begins a character of two bytes. -/
lemma begin_of_two {n : Nat} (hlow : 0xC2 ≤ n) (hhigh : n < 0xE0) :
    begin (UInt8.ofNat n) = .ok ⟨n - 0xC0, 0x80, 0xBF, 1, 1⟩ := by
  have hn : n % 256 = n := Nat.mod_eq_of_lt (by omega)
  have h₁ : ¬n < 0x80 := by omega
  have h₂ : ¬n < 0xC2 := by omega
  simp [begin, hn, h₁, h₂, hhigh]

/-- A byte that begins a character of three bytes. -/
lemma begin_of_three {n : Nat} (hlow : 0xE0 ≤ n) (hhigh : n < 0xF0) :
    begin (UInt8.ofNat n) =
      .ok ⟨n - 0xE0, if n = 0xE0 then 0xA0 else 0x80, if n = 0xED then 0x9F else 0xBF, 2, 1⟩ := by
  have hn : n % 256 = n := Nat.mod_eq_of_lt (by omega)
  have h₁ : ¬n < 0x80 := by omega
  have h₂ : ¬n < 0xC2 := by omega
  have h₃ : ¬n < 0xE0 := by omega
  simp [begin, hn, h₁, h₂, h₃, hhigh]

/-- A byte that begins a character of four bytes. -/
lemma begin_of_four {n : Nat} (hlow : 0xF0 ≤ n) (hhigh : n < 0xF5) :
    begin (UInt8.ofNat n) =
      .ok ⟨n - 0xF0, if n = 0xF0 then 0x90 else 0x80, if n = 0xF4 then 0x8F else 0xBF, 3, 1⟩ := by
  have hn : n % 256 = n := Nat.mod_eq_of_lt (by omega)
  have h₁ : ¬n < 0x80 := by omega
  have h₂ : ¬n < 0xC2 := by omega
  have h₃ : ¬n < 0xE0 := by omega
  have h₄ : ¬n < 0xF0 := by omega
  simp [begin, hn, h₁, h₂, h₃, h₄, hhigh]

/-! ## The bytes of a character -/

variable {s : Begun} {n : Nat}

/-- A byte that continues a character, of which more are missing. -/
lemma piecesAfter_continued (hlow : s.low ≤ n) (hhigh : n ≤ s.high) (hn : n < 256)
    (hmissing : s.missing ≠ 1) (rest : List UInt8) :
    piecesAfter (some s) (UInt8.ofNat n :: rest) =
      piecesAfter (some ⟨s.value * 64 + (n - 0x80), 0x80, 0xBF, s.missing - 1, s.width + 1⟩)
        rest := by
  have hmod : n % 256 = n := Nat.mod_eq_of_lt hn
  rw [piecesAfter]
  simp [hmod, hlow, hhigh, hmissing]

/-- A byte that completes a character. -/
lemma piecesAfter_completed (hlow : s.low ≤ n) (hhigh : n ≤ s.high) (hn : n < 256)
    (hmissing : s.missing = 1) (rest : List UInt8) :
    piecesAfter (some s) (UInt8.ofNat n :: rest) =
      .char (Char.ofNat (s.value * 64 + (n - 0x80))) :: piecesAfter none rest := by
  have hmod : n % 256 = n := Nat.mod_eq_of_lt hn
  rw [piecesAfter]
  simp [hmod, hlow, hhigh, hmissing]

/-- The bytes of a character are read as the character, whatever follows. -/
lemma piecesAfter_utf8EncodeChar (c : Char) (rest : List UInt8) :
    piecesAfter none (String.utf8EncodeChar c ++ rest) = .char c :: piecesAfter none rest := by
  have hvalid : c.toNat < 0xD800 ∨ 0xDFFF < c.toNat ∧ c.toNat < 0x110000 := c.valid
  have hc : ∀ {n : Nat}, n = c.toNat → Char.ofNat n = c := by
    rintro n rfl
    exact Char.ofNat_toNat c
  have hval : c.val.toNat = c.toNat := rfl
  rw [String.utf8EncodeChar, hval]
  generalize c.toNat = n at hvalid hc
  split
  · next h₁ =>
    rw [List.singleton_append, piecesAfter, begin_of_lt (by omega), hc rfl]
  split
  · next h₁ h₂ =>
    rw [List.cons_append, List.singleton_append, piecesAfter,
      begin_of_two (by omega) (by omega)]
    dsimp only
    rw [piecesAfter_completed (by dsimp only; omega) (by dsimp only; omega) (by omega) rfl,
      hc (by dsimp only; omega)]
  split
  · next h₁ h₂ h₃ =>
    rw [List.cons_append, List.cons_append, List.singleton_append, piecesAfter,
      begin_of_three (by omega) (by omega)]
    dsimp only
    rw [piecesAfter_continued (by dsimp only; split <;> omega) (by dsimp only; split <;> omega)
      (by omega) (by simp)]
    rw [piecesAfter_completed (by dsimp only; omega) (by dsimp only; omega) (by omega) rfl,
      hc (by dsimp only; omega)]
  · next h₁ h₂ h₃ =>
    rw [List.cons_append, List.cons_append, List.cons_append, List.singleton_append, piecesAfter,
      begin_of_four (by omega) (by omega)]
    dsimp only
    rw [piecesAfter_continued (by dsimp only; split <;> omega) (by dsimp only; split <;> omega)
      (by omega) (by simp)]
    rw [piecesAfter_continued (by dsimp only; omega) (by dsimp only; omega) (by omega) (by simp)]
    rw [piecesAfter_completed (by dsimp only; omega) (by dsimp only; omega) (by omega) rfl,
      hc (by dsimp only; omega)]

/-- The bytes of a text are cut into its characters. -/
lemma pieces_encode (text : List Char) : pieces (encode text) = text.map .char := by
  induction text with
  | nil => rfl
  | cons c rest ih =>
    rw [pieces, encode, List.flatMap_cons, piecesAfter_utf8EncodeChar, List.map_cons, ← ih]
    rfl

/-- Reading the bytes of a text gives the text. -/
lemma decodeLossy_encode (text : List Char) : decodeLossy (encode text) = text := by
  rw [decodeLossy, pieces_encode, List.map_map]
  exact List.map_id text

/-- Characters without a flaw among them are a text. -/
lemma decodePieces_map_char (index : Nat) (text : List Char) :
    decodePieces index (text.map .char) = .ok text := by
  induction text generalizing index with
  | nil => rfl
  | cons c rest ih =>
    rw [List.map_cons, decodePieces, ih]
    rfl

/-- The bytes of a text have no flaw. -/
lemma decode_encode (text : List Char) : decode (encode text) = .ok text := by
  rw [decode, pieces_encode, decodePieces_map_char]

/-- The byte of a character of ASCII. -/
lemma utf8EncodeChar_of_lt {c : Char} (h : c.toNat < 0x80) :
    String.utf8EncodeChar c = [UInt8.ofNat c.toNat] := by
  have hval : c.val.toNat = c.toNat := rfl
  rw [String.utf8EncodeChar, hval]
  exact if_pos (by omega)

/-- The bytes of any other character are no characters of ASCII. -/
lemma le_of_mem_utf8EncodeChar {c : Char} (h : 0x80 ≤ c.toNat) {b : UInt8}
    (hb : b ∈ String.utf8EncodeChar c) : 0x80 ≤ b.toNat := by
  have hval : c.val.toNat = c.toNat := rfl
  rw [String.utf8EncodeChar, hval] at hb
  generalize c.toNat = n at h hb
  split_ifs at hb with hone htwo hthree
  · omega
  all_goals
    simp only [List.mem_cons, List.not_mem_nil, or_false, ← UInt8.toNat_inj,
      UInt8.toNat_ofNat'] at hb
    omega

/-- A byte of ASCII is that of one character only. -/
lemma toNat_eq_of_mem_utf8EncodeChar {c : Char} {b : UInt8} (hb : b ∈ String.utf8EncodeChar c)
    (hlt : b.toNat < 0x80) : c.toNat = b.toNat := by
  by_cases hc : c.toNat < 0x80
  · rw [utf8EncodeChar_of_lt hc, List.mem_singleton] at hb
    rw [hb, UInt8.toNat_ofNat']
    omega
  · have hle := le_of_mem_utf8EncodeChar (Nat.le_of_not_lt hc) hb
    omega

end TypedClient.Text.Utf8
