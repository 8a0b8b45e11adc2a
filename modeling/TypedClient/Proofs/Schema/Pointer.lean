import TypedClient.Document
import TypedClient.Proofs.Text.Lines
import TypedClient.Proofs.Text.Percent
import TypedClient.Schema.Order

/-!
# Every component has a pointer

A name is written as a segment of a pointer in three steps: tildes become `~0`, then slashes become
`~1`, and then every byte of UTF-8 that is no unreserved character of addresses becomes an escape
(`Pointer.encodeName`).  The pointer that ends with this segment leads back to the name, whatever
characters it consists of (`Pointer.name_of_encodeName`), so there is a pointer to each component
that has a name (`Pointer.target?_encodeName`, `Pointer.resolve?_encodeName`).

The segment is read in three steps as well, but the escapes are read last and not first.  This does
no harm because a percent escape has no tilde, and because none of the characters that take part in
the other escapes is escaped itself.
-/

namespace TypedClient.Pointer

/-! ## Names as segments -/

/-- Writes a text in place of each occurrence of a character. -/
def replace (c : Char) (written text : List Char) : List Char :=
  text.flatMap fun d => if d = c then written else [d]

/-- Whether a byte is an unreserved character of addresses: a letter or digit of ASCII, or one of
`-`, `.`, `_` and `~`. -/
def isUnreserved (b : UInt8) : Bool :=
  let n := b.toNat
  (0x30 ≤ n && n ≤ 0x39) || (0x41 ≤ n && n ≤ 0x5A) || (0x61 ≤ n && n ≤ 0x7A) ||
    n == 0x2D || n == 0x2E || n == 0x5F || n == 0x7E

/-- A byte in a segment. -/
def encodeByte (b : UInt8) : List Char :=
  if isUnreserved b then [Char.ofNat b.toNat] else Text.Percent.escape b

/-- The segment that spells a name. -/
def encodeName (name : String) : String :=
  String.ofList
    ((Text.Utf8.encode (replace '/' ['~', '1'] (replace '~' ['~', '0'] name.toList))).flatMap
      encodeByte)

/-! ## Bytes -/

/-- An unreserved character is one of ASCII, and neither the percent sign nor the slash. -/
lemma isUnreserved_spec {b : UInt8} (h : isUnreserved b = true) :
    b.toNat < 0x80 ∧ b.toNat ≠ 0x25 ∧ b.toNat ≠ 0x2F := by
  simp only [isUnreserved, Bool.or_eq_true, Bool.and_eq_true, decide_eq_true_eq, beq_iff_eq] at h
  omega

/-- A byte is read back from what is written for it. -/
lemma decode_encodeByte (b : UInt8) (rest : List UInt8) :
    Text.Percent.decode (Text.Utf8.encode (encodeByte b) ++ rest) =
      b :: Text.Percent.decode rest := by
  unfold encodeByte
  split
  · next hunreserved =>
    obtain ⟨hlt, hpercent, -⟩ := isUnreserved_spec hunreserved
    refine Text.Percent.decode_singleton hlt ?_ rest
    rintro rfl
    exact hpercent rfl
  · exact Text.Percent.decode_escape b rest

/-- A slash is written for no byte. -/
lemma slash_not_mem_encodeByte (b : UInt8) : '/' ∉ encodeByte b := by
  intro h
  unfold encodeByte at h
  split at h
  · next hunreserved =>
    obtain ⟨hlt, -, hslash⟩ := isUnreserved_spec hunreserved
    refine hslash ?_
    rw [← Text.Percent.toNat_ofNat hlt, ← List.mem_singleton.1 h]
    rfl
  · exact absurd rfl (Text.Percent.ne_of_mem_escape h (by decide) (by decide))

/-- The only byte for which a tilde is written is that of the tilde. -/
lemma toNat_eq_of_tilde_mem_encodeByte {b : UInt8} (h : '~' ∈ encodeByte b) : b.toNat = 0x7E := by
  unfold encodeByte at h
  split at h
  · next hunreserved =>
    obtain ⟨hlt, -⟩ := isUnreserved_spec hunreserved
    rw [← Text.Percent.toNat_ofNat hlt, ← List.mem_singleton.1 h]
    rfl
  · exact absurd rfl (Text.Percent.ne_of_mem_escape h (by decide) (by decide))

/-- Bytes are read back from what is written for them. -/
lemma decode_encodeBytes (bytes rest : List UInt8) :
    Text.Percent.decode (Text.Utf8.encode (bytes.flatMap encodeByte) ++ rest) =
      bytes ++ Text.Percent.decode rest := by
  induction bytes with
  | nil => rfl
  | cons b more ih =>
    rw [List.flatMap_cons, Text.Utf8.encode, List.flatMap_append, List.append_assoc]
    exact (decode_encodeByte b _).trans (congrArg (b :: ·) ih)

/-! ## Characters -/

/-- What stands for a character of a name, where the tilde and the slash have texts of their own. -/
def spell (tilde slash : List Char) (c : Char) : List Char :=
  if c = '~' then tilde else if c = '/' then slash
  else (String.utf8EncodeChar c).flatMap encodeByte

/-- The segment of a name consists of what is written for its characters. -/
lemma toList_encodeName (name : String) :
    (encodeName name).toList = name.toList.flatMap (spell ['~', '0'] ['~', '1']) := by
  rw [encodeName, String.toList_ofList, replace, replace, Text.Utf8.encode, List.flatMap_assoc,
    List.flatMap_assoc, List.flatMap_assoc]
  refine List.flatMap_congr fun c _ => ?_
  unfold spell
  by_cases htilde : c = '~'
  · subst htilde
    rfl
  by_cases hslash : c = '/'
  · subst hslash
    rfl
  · rw [if_neg htilde, if_neg htilde, if_neg hslash, List.flatMap_singleton, if_neg hslash,
      List.flatMap_singleton]

/-- What is written for a character has a tilde only if a tilde or a slash is written. -/
lemma tilde_not_mem_spell {tilde slash : List Char} {c : Char} (htilde : c ≠ '~') (hslash : c ≠ '/') :
    '~' ∉ spell tilde slash c := by
  rw [spell, if_neg htilde, if_neg hslash]
  intro hmem
  obtain ⟨b, hb, hmem⟩ := List.mem_flatMap.1 hmem
  have hbyte := toNat_eq_of_tilde_mem_encodeByte hmem
  have hc : c.toNat = 0x7E := by
    rw [Text.Utf8.toNat_eq_of_mem_utf8EncodeChar hb (by omega), hbyte]
  refine htilde ?_
  rw [← Char.ofNat_toNat c, hc]

/-- A text without a tilde has no escape. -/
lemma unescape_append {digit replacement : Char} {text : List Char} (h : '~' ∉ text)
    (rest : List Char) :
    unescape digit replacement (text ++ rest) = text ++ unescape digit replacement rest := by
  induction text with
  | nil => rfl
  | cons c more ih =>
    rw [List.mem_cons, not_or] at h
    obtain ⟨hc, hmore⟩ := h
    rw [List.cons_append, unescape, ih hmore, List.cons_append]
    rintro d rest rfl
    exact absurd rfl hc

/-- An escape is replaced wherever it is written, if it is replaced in front of every text. -/
lemma unescape_flatMap_spell {digit replacement : Char} {tilde slash tilde' slash' : List Char}
    (htilde : ∀ rest, unescape digit replacement (tilde ++ rest) =
      tilde' ++ unescape digit replacement rest)
    (hslash : ∀ rest, unescape digit replacement (slash ++ rest) =
      slash' ++ unescape digit replacement rest) (text : List Char) :
    unescape digit replacement (text.flatMap (spell tilde slash)) =
      text.flatMap (spell tilde' slash') := by
  induction text with
  | nil => rfl
  | cons c more ih =>
    rw [List.flatMap_cons, List.flatMap_cons, ← ih]
    by_cases hctilde : c = '~'
    · subst hctilde
      exact htilde _
    by_cases hcslash : c = '/'
    · subst hcslash
      exact hslash _
    · rw [unescape_append (tilde_not_mem_spell hctilde hcslash)]
      simp only [spell, if_neg hctilde, if_neg hcslash]

/-- The bytes of a name are read back from what is written for its characters, once the tilde and
the slash stand for themselves. -/
lemma decode_flatMap_spell (text : List Char) :
    Text.Percent.decode (Text.Utf8.encode (text.flatMap (spell ['~'] ['/']))) =
      Text.Utf8.encode text := by
  induction text with
  | nil => rfl
  | cons c more ih =>
    rw [Text.Utf8.encode, Text.Utf8.encode, List.flatMap_cons, List.flatMap_cons,
      List.flatMap_append, ← Text.Utf8.encode, ← Text.Utf8.encode, ← Text.Utf8.encode, ← ih]
    by_cases htilde : c = '~'
    · subst htilde
      exact Text.Percent.decode_cons_of_ne (by decide) _
    by_cases hslash : c = '/'
    · subst hslash
      exact Text.Percent.decode_cons_of_ne (by decide) _
    · rw [spell, if_neg htilde, if_neg hslash, decode_encodeBytes]

/-! ## Names -/

/-- A name is read back from its segment. -/
lemma decodeSegment_encodeName (name : String) :
    decodeSegment (encodeName name).toList = name.toList := by
  have hslash : unescape '1' '/' (encodeName name).toList =
      name.toList.flatMap (spell ['~', '0'] ['/']) := by
    rw [toList_encodeName]
    refine unescape_flatMap_spell (fun rest => ?_) (fun rest => rfl) _
    -- The tilde is followed by another digit, so it stays, and so does the digit.
    have hdigit : '~' ∉ ['0'] := by decide
    exact congrArg ('~' :: ·) (unescape_append hdigit rest)
  have htilde : unescape '0' '~' (name.toList.flatMap (spell ['~', '0'] ['/'])) =
      name.toList.flatMap (spell ['~'] ['/']) := by
    have hslash : '~' ∉ ['/'] := by decide
    exact unescape_flatMap_spell (fun rest => rfl) (unescape_append hslash) _
  rw [decodeSegment, hslash, htilde, decode_flatMap_spell, Text.Utf8.decodeLossy_encode]

/-- The segment of a name that is not empty is not empty, and has no slash. -/
lemma encodeName_spec {name : String} (h : name ≠ "") :
    (encodeName name).toList.isEmpty = false ∧ (encodeName name).toList.contains '/' = false := by
  have hslash : '/' ∉ (encodeName name).toList := by
    rw [encodeName, String.toList_ofList]
    intro hmem
    obtain ⟨b, -, hb⟩ := List.mem_flatMap.1 hmem
    exact slash_not_mem_encodeByte b hb
  refine ⟨?_, by simpa using hslash⟩
  -- An empty segment is read as the empty name.
  rw [List.isEmpty_eq_false_iff]
  intro hnil
  have hname := decodeSegment_encodeName name
  rw [hnil] at hname
  exact h (String.toList_inj.1 hname.symm)

/-- The pointer to a name under a root leads to the name. -/
lemma nameUnder_encodeName (root : String) {name : String} (h : name ≠ "") :
    nameUnder root (root ++ encodeName name) = some name := by
  obtain ⟨hne, hslash⟩ := encodeName_spec h
  rw [nameUnder, String.toList_append, Text.dropLeading?_append]
  dsimp only
  rw [hne, hslash, decodeSegment_encodeName, String.ofList_toList]
  rfl

/-- For every name but the empty one, whatever characters it consists of, there is a pointer that
leads to the schema of this name, and one that leads to the parameter of this name: the one that
ends with the segment of the name. -/
theorem name_of_encodeName (name : String) (h : name ≠ "") :
    schemaName? (schemaRoot ++ encodeName name) = some name ∧
      parameterName? (parameterRoot ++ encodeName name) = some name :=
  ⟨nameUnder_encodeName schemaRoot h, nameUnder_encodeName parameterRoot h⟩

/-- A name with tildes, a slash, a percent sign and a letter outside ASCII, and with texts that look
like escapes, is the one to which the pointer to its segment leads. -/
theorem name_of_escapes :
    encodeName "~1/%41~01é" = "~01~1%2541~001%C3%A9" ∧
      "~1/%41~01é" ≠ "" ∧
      schemaName? "#/components/schemas/~01~1%2541~001%C3%A9" = some "~1/%41~01é" ∧
      parameterName? "#/components/parameters/~01~1%2541~001%C3%A9" = some "~1/%41~01é" := by
  have hsegment : encodeName "~1/%41~01é" = "~01~1%2541~001%C3%A9" := by decide
  have hne : "~1/%41~01é" ≠ "" := by decide
  have hname := name_of_encodeName "~1/%41~01é" hne
  rw [hsegment] at hname
  exact ⟨hsegment, hne, hname⟩

/-! ## Components -/

/-- There is a pointer to each named schema of an order. -/
theorem target?_encodeName {order : SchemaOrder} {name : String} (h : name ≠ "")
    (hname : name ∈ order.names) : order.target? (schemaRoot ++ encodeName name) = some name := by
  have hcontains : order.contains name = true := List.contains_iff_mem.2 hname
  rw [SchemaOrder.target?, schemaName?, nameUnder_encodeName schemaRoot h, Option.filter_some,
    if_pos hcontains]

/-- There is a pointer to each named parameter of a description. -/
theorem resolve?_encodeName {document : Document} {components : Components} {name : String}
    {p q : Parameter} (h : name ≠ "") (hcomponents : document.components = some components)
    (hname : components.parameters.get? name = some q)
    (hp : p.reference = some (parameterRoot ++ encodeName name)) :
    document.resolve? p = some q := by
  rw [Document.resolve?, hp]
  dsimp only
  rw [parameterName?, nameUnder_encodeName parameterRoot h, Option.bind_some, hcomponents,
    Option.bind_some, hname]

end TypedClient.Pointer
