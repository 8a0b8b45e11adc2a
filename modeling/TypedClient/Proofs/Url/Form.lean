import TypedClient.Proofs.Text.Lines
import TypedClient.Proofs.Text.Percent
import TypedClient.Url.Form

/-!
# Forms are read back

How a form is read: it is cut at each `&`, each piece that is not empty is a pair, cut at its first
equals sign, plus signs are spaces, escapes are bytes, and bytes are UTF-8 (`Url.Form.read`).  A
form reads as the list of pairs that it was written for, whatever texts they consist of
(`Url.Form.read_render`), since neither of the separators occurs in a text that has been encoded.
-/

namespace TypedClient

namespace Url.Form

/-! ## Reading -/

/-- Reads a plus sign as a space. -/
def plusToSpace (c : Char) : Char := if c = '+' then ' ' else c

/-- The text that a part of a form stands for. -/
def decodeText (part : List Char) : String :=
  String.ofList
    (Text.Utf8.decodeLossy (Text.Percent.decode (Text.Utf8.encode (part.map plusToSpace))))

/-- The pair that a piece of a form stands for; without an equals sign, the second text is empty. -/
def readPair (piece : List Char) : String × String :=
  (decodeText (piece.takeWhile (· != '=')), decodeText ((piece.dropWhile (· != '=')).drop 1))

/-- The pairs that a form stands for. -/
def read (form : String) : List (String × String) :=
  (Text.wordsBetween (· == '&') form.toList).map readPair

/-! ## Encoded texts -/

/-- A byte that stands for itself is one of ASCII, and none of those with a meaning. -/
lemma isPlain_spec {b : UInt8} (h : isPlain b = true) :
    b.toNat < 0x80 ∧ b.toNat ≠ 0x25 ∧ b.toNat ≠ 0x26 ∧ b.toNat ≠ 0x2B ∧ b.toNat ≠ 0x3D := by
  simp only [isPlain, Bool.or_eq_true, Bool.and_eq_true, decide_eq_true_eq, beq_iff_eq] at h
  omega

/-- A byte is read back from what is written for it. -/
lemma decode_encodeByte (b : UInt8) (rest : List UInt8) :
    Text.Percent.decode (Text.Utf8.encode ((encodeByte b).map plusToSpace) ++ rest) =
      b :: Text.Percent.decode rest := by
  unfold encodeByte
  split
  · next hplain =>
    obtain ⟨hlt, hpercent, -, hplus, -⟩ := isPlain_spec hplain
    have hspace : plusToSpace (Char.ofNat b.toNat) = Char.ofNat b.toNat := by
      refine if_neg fun h => hplus ?_
      rw [← Text.Percent.toNat_ofNat hlt, h]
      rfl
    have hne : b ≠ 0x25 := by
      rintro rfl
      exact hpercent rfl
    rw [List.map_singleton, hspace, Text.Percent.decode_singleton hlt hne]
  split
  · next hspace =>
    subst hspace
    exact Text.Percent.decode_cons_of_ne (by decide) rest
  · have hkeep : ∀ c ∈ Text.Percent.escape b, plusToSpace c = c := by
      intro c hc
      have hplus : c ≠ '+' := Text.Percent.ne_of_mem_escape hc (by decide) (by decide)
      exact if_neg hplus
    rw [List.map_congr_left hkeep, List.map_id', Text.Percent.decode_escape]

/-- A text is read back from what is written for it. -/
lemma decodeText_encode (text : List Char) : decodeText (encode text) = String.ofList text := by
  have key : ∀ bytes : List UInt8,
      Text.Percent.decode (Text.Utf8.encode ((bytes.flatMap encodeByte).map plusToSpace)) =
        bytes := by
    intro bytes
    induction bytes with
    | nil => rfl
    | cons b rest ih =>
      rw [List.flatMap_cons, List.map_append, Text.Utf8.encode, List.flatMap_append]
      exact (decode_encodeByte b _).trans (congrArg (b :: ·) ih)
  rw [decodeText, encode, key, Text.Utf8.decodeLossy_encode]

/-- Neither of the separators is written for a byte. -/
lemma ne_of_mem_encodeByte {b : UInt8} {c : Char} (h : c ∈ encodeByte b) : c ≠ '&' ∧ c ≠ '=' := by
  unfold encodeByte at h
  split at h
  · next hplain =>
    obtain ⟨hlt, -, hand, -, heq⟩ := isPlain_spec hplain
    have hc := Text.Percent.toNat_ofNat hlt
    obtain rfl := List.mem_singleton.1 h
    constructor
    · intro hchar
      rw [hchar] at hc
      exact hand hc.symm
    · intro hchar
      rw [hchar] at hc
      exact heq hc.symm
  split at h
  · obtain rfl := List.mem_singleton.1 h
    decide
  · exact ⟨Text.Percent.ne_of_mem_escape h (by decide) (by decide),
      Text.Percent.ne_of_mem_escape h (by decide) (by decide)⟩

/-- Neither of the separators occurs in a text that has been encoded. -/
lemma ne_of_mem_encode {text : List Char} {c : Char} (h : c ∈ encode text) :
    c ≠ '&' ∧ c ≠ '=' := by
  obtain ⟨b, -, hb⟩ := List.mem_flatMap.1 h
  exact ne_of_mem_encodeByte hb

/-! ## Pairs -/

/-- The separator of pairs does not occur in a pair that has been written. -/
lemma ne_of_mem_encodePair {pair : String × String} {c : Char} (h : c ∈ encodePair pair) :
    c ≠ '&' := by
  rcases List.mem_append.1 h with h | h
  · exact (ne_of_mem_encode h).1
  · rcases List.mem_cons.1 h with rfl | h
    · decide
    · exact (ne_of_mem_encode h).1

/-- A pair is read back from what is written for it. -/
lemma readPair_encodePair (pair : String × String) : readPair (encodePair pair) = pair := by
  have hkey : ∀ c ∈ encode pair.1.toList, (c != '=') = true := by
    intro c hc
    simpa using (ne_of_mem_encode hc).2
  have htake : (encodePair pair).takeWhile (· != '=') = encode pair.1.toList := by
    rw [encodePair, List.takeWhile_append_of_pos hkey, List.takeWhile_cons]
    simp
  have hdrop : (encodePair pair).dropWhile (· != '=') = '=' :: encode pair.2.toList := by
    rw [encodePair, List.dropWhile_append_of_pos hkey, List.dropWhile_cons]
    simp
  rw [readPair, htake, hdrop, List.drop_one, List.tail_cons, decodeText_encode, decodeText_encode,
    String.ofList_toList, String.ofList_toList]

/-- A form reads as the pairs that it was written for. -/
theorem read_render (pairs : List (String × String)) : read (render pairs) = pairs := by
  cases pairs with
  | nil => rfl
  | cons first rest =>
    have hpieces : Text.splitAtEach (· == '&')
        (Text.join ['&'] ((first :: rest).map encodePair)) = (first :: rest).map encodePair := by
      refine Text.splitAtEach_join (by decide) (by simp) fun piece hpiece c hc => ?_
      obtain ⟨pair, -, rfl⟩ := List.mem_map.1 hpiece
      simpa using ne_of_mem_encodePair hc
    have hfilter : ((first :: rest).map encodePair).filter (fun piece => !piece.isEmpty) =
        (first :: rest).map encodePair := by
      refine List.filter_eq_self.2 fun piece hpiece => ?_
      obtain ⟨pair, -, rfl⟩ := List.mem_map.1 hpiece
      simp [encodePair]
    have hread : ∀ pair, (readPair ∘ encodePair) pair = pair := readPair_encodePair
    rw [read, render, String.toList_ofList, Text.wordsBetween, hpieces, hfilter, List.map_map,
      List.map_congr_left fun pair _ => hread pair, List.map_id']

end Url.Form

end TypedClient
