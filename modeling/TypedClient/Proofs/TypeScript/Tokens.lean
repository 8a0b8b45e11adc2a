import TypedClient.Proofs.Json.Quote
import TypedClient.Proofs.TypeScript.Declared

/-!
# The parts of an expression can be told apart

Each part of an expression can be read off the text that begins with it, if what stands behind it is
what can stand there: a key in front of a colon (`eq_of_objectKey_append`), a comment in front of a
line end (`eq_of_fieldComment_append`), suffixes in front of what closes an expression
(`eq_of_suffixes_append`), the mode of an object (`eq_of_modeSuffix_append`), and the name of a
validator (`Identifiers.Separates.eq_of_schemaName_append`).  Of a description, only the words can
be told.
-/

namespace TypedClient.TypeScript

/-! ## Keys -/

/-- A key without quotes is not empty, begins with no quote, and has no colon. -/
lemma exists_cons_of_isPlainKey {key : String} (h : Naming.isPlainKey key = true) :
    (∃ first rest, key.toList = first :: rest ∧ first ≠ '"') ∧ ':' ∉ key.toList := by
  unfold Naming.isPlainKey at h
  split at h
  · cases h
  · next first rest hkey =>
    rw [Bool.and_eq_true, Bool.and_eq_true, List.all_eq_true] at h
    obtain ⟨⟨hfirst, -⟩, hrest⟩ := h
    refine ⟨⟨first, rest, hkey, ?_⟩, ?_⟩
    · rintro rfl
      exact absurd hfirst (by decide)
    · intro hmem
      rw [hkey] at hmem
      rcases List.mem_cons.1 hmem with rfl | hmem
      · exact absurd hfirst (by decide)
      · exact absurd (hrest _ hmem) (by decide)

/-- Keys in front of colons are written alike only if they are the same. -/
lemma eq_of_objectKey_append {key key' : String} {rest rest' : List Char}
    (h : objectKey key ++ ':' :: rest = objectKey key' ++ ':' :: rest') :
    key = key' ∧ rest = rest' := by
  -- A plain key does not begin like a literal.
  have hapart : ∀ {plain other : String} {r r' : List Char}, Naming.isPlainKey plain = true →
      plain.toList ++ r ≠ Json.quote other.toList ++ r' := by
    intro plain other r r' hplain heq
    obtain ⟨⟨first, more, hcons, hfirst⟩, -⟩ := exists_cons_of_isPlainKey hplain
    rw [hcons] at heq
    exact hfirst (List.cons.inj heq).1
  unfold objectKey at h
  split at h
  · next hplain =>
    split at h
    · next hplain' =>
      obtain ⟨-, hcolon⟩ := exists_cons_of_isPlainKey hplain
      obtain ⟨-, hcolon'⟩ := exists_cons_of_isPlainKey hplain'
      obtain ⟨hkey, hrest⟩ := Text.eq_and_eq_of_append_cons hcolon hcolon' h
      exact ⟨String.toList_inj.1 hkey, hrest⟩
    · exact absurd h (hapart hplain)
  · split at h
    · next hplain' => exact absurd h.symm (hapart hplain')
    · obtain ⟨hkey, hrest⟩ := Json.eq_of_quote_append h
      exact ⟨String.toList_inj.1 hkey, (List.cons.inj hrest).2⟩

/-! ## Comments -/

/-- A description with single spaces between its words and nothing around them. -/
def oneLine (description : String) : String := String.ofList (singleLine description)

/-- Comments in front of line ends are written alike only if the descriptions consist of the same
words. -/
lemma eq_of_fieldComment_append {description description' : Option String} {rest rest' : List Char}
    (h : fieldComment description ++ '\n' :: rest = fieldComment description' ++ '\n' :: rest') :
    description.map oneLine = description'.map oneLine ∧ rest = rest' := by
  have hline := newline_not_mem_fieldComment description
  have hline' := newline_not_mem_fieldComment description'
  obtain ⟨hcomment, hrest⟩ := Text.eq_and_eq_of_append_cons hline hline' h
  refine ⟨?_, hrest⟩
  cases description with
  | none =>
    cases description' with
    | none => rfl
    | some text' => cases hcomment
  | some text =>
    cases description' with
    | none => cases hcomment
    | some text' =>
      have hwords : singleLine text = singleLine text' := List.append_cancel_left hcomment
      rw [Option.map_some, Option.map_some, oneLine, hwords, oneLine]

/-! ## Suffixes -/

/-- What may be written behind an expression to accept more. -/
inductive Suffix where
  | nullable
  | optional
deriving DecidableEq

namespace Suffix

/-- The text of a suffix. -/
def text : Suffix → List Char
  | .nullable => ".nullable()".toList
  | .optional => ".optional()".toList

/-- The validator whose expression has one suffix more. -/
def apply : Suffix → Validator → Validator
  | .nullable, v => .nullable v
  | .optional, v => .optional v

/-- The validator whose expression has several suffixes more, the first one innermost. -/
def applyAll (suffixes : List Suffix) (v : Validator) : Validator :=
  suffixes.foldl (fun inner suffix => suffix.apply inner) v

end Suffix

/-- A text that can follow an expression with its suffixes: the end, a comma, or what closes a list
or a call. -/
def Closed (text : List Char) : Prop := ∀ c ∈ text.head?, c = ',' ∨ c = ')' ∨ c = ']'

/-- A text that can follow an expression: it is closed, or begins with a suffix. -/
def Follows (text : List Char) : Prop :=
  Closed text ∨ ∃ (suffix : Suffix) (rest : List Char), text = suffix.text ++ rest

/-- The first letter of a suffix. -/
def Suffix.letter : Suffix → Char
  | .nullable => 'n'
  | .optional => 'o'

/-- A suffix begins with a point and a letter of its own. -/
lemma Suffix.exists_text_append (suffix : Suffix) (rest : List Char) :
    ∃ more, suffix.text ++ rest = '.' :: suffix.letter :: more := by
  cases suffix with
  | nullable => exact ⟨_, rfl⟩
  | optional => exact ⟨_, rfl⟩

/-- A text that begins with a suffix is not closed. -/
lemma Suffix.not_closed (suffix : Suffix) (rest : List Char) : ¬Closed (suffix.text ++ rest) := by
  intro h
  obtain ⟨more, heq⟩ := suffix.exists_text_append rest
  rw [heq] at h
  exact absurd (h '.' rfl) (by decide)

/-- Suffixes in front of closed texts are written alike only if they are the same. -/
lemma eq_of_suffixes_append {suffixes suffixes' : List Suffix} {rest rest' : List Char}
    (hrest : Closed rest) (hrest' : Closed rest')
    (h : suffixes.flatMap Suffix.text ++ rest = suffixes'.flatMap Suffix.text ++ rest') :
    suffixes = suffixes' ∧ rest = rest' := by
  have hcode : ∀ a b : Suffix, ∀ r r' : List Char, a.text ++ r = b.text ++ r' →
      a = b ∧ r = r' := by
    intro a b r r' heq
    obtain ⟨more, ha⟩ := a.exists_text_append r
    obtain ⟨more', hb⟩ := b.exists_text_append r'
    have hletter : a.letter = b.letter := by
      have htext := ha.symm.trans (heq.trans hb)
      exact (List.cons.inj (List.cons.inj htext).2).1
    have hsame : a = b := by
      revert hletter
      cases a <;> cases b <;> decide
    subst hsame
    exact ⟨rfl, List.append_cancel_left heq⟩
  obtain ⟨hmap, hsame⟩ := Text.map_eq_of_flatMap_append id Closed (fun _ => True)
    (fun a _ b _ r r' _ _ => hcode a b r r') (fun _ _ => trivial) (fun _ _ => trivial)
    Suffix.not_closed hrest hrest' h
  rw [List.map_id, List.map_id] at hmap
  exact ⟨hmap, hsame⟩

/-- Suffixes and a closed text can follow an expression. -/
lemma follows_suffixes_append (suffixes : List Suffix) {rest : List Char} (hrest : Closed rest) :
    Follows (suffixes.flatMap Suffix.text ++ rest) := by
  cases suffixes with
  | nil => exact Or.inl hrest
  | cons suffix more =>
    rw [List.flatMap_cons, List.append_assoc]
    exact Or.inr ⟨suffix, _, rfl⟩

/-! ## Modes -/

/-- Reads the mode of an object off the text behind its closing brace. -/
def readMode : List Char → Mode
  | '.' :: 's' :: _ => .strict
  | '.' :: 'p' :: _ => .passthrough
  | _ => .strip

/-- The mode is read back. -/
lemma readMode_append (mode : Mode) {rest : List Char} (hrest : Follows rest) :
    readMode ((modeSuffix mode).toList ++ rest) = mode := by
  cases mode with
  | strict => rfl
  | passthrough => rfl
  | strip =>
    change readMode rest = .strip
    rcases hrest with hclosed | ⟨suffix, more, rfl⟩
    · cases rest with
      | nil => rfl
      | cons c rest =>
        rcases hclosed c rfl with rfl | rfl | rfl
        · rfl
        · rfl
        · rfl
    · obtain ⟨tail, heq⟩ := suffix.exists_text_append more
      rw [heq]
      cases suffix with
      | nullable => rfl
      | optional => rfl

/-- Modes are written alike only if they are the same. -/
lemma eq_of_modeSuffix_append {mode mode' : Mode} {rest rest' : List Char} (hrest : Follows rest)
    (hrest' : Follows rest')
    (h : (modeSuffix mode).toList ++ rest = (modeSuffix mode').toList ++ rest') :
    mode = mode' ∧ rest = rest' := by
  have hread := congrArg readMode h
  rw [readMode_append mode hrest, readMode_append mode' hrest'] at hread
  subst hread
  exact ⟨rfl, List.append_cancel_left h⟩

/-! ## Names -/

/-- Certain names are told apart by the names of their validators, which are identifiers. -/
structure Identifiers.Separates (ids : Identifiers) (names : List String) : Prop where
  /-- The validators are named by letters, digits and low lines. -/
  chars : ∀ name, Naming.OnlyIdentifierChars (ids.schemaName name)
  /-- Different names have validators with different names. -/
  injective : ∀ name ∈ names, ∀ name' ∈ names, ids.schemaName name = ids.schemaName name' →
    name = name'

/-- Names that are told apart have no line feed. -/
lemma Identifiers.Separates.noLineEnds {ids : Identifiers} {names : List String}
    (h : ids.Separates names) : NoLineEnds ids := by
  intro name hmem
  have hchar := h.chars name _ hmem
  revert hchar
  decide

/-- What can follow an expression begins with no character of a name. -/
lemma Follows.isIdentifierChar_eq_false {rest : List Char} (h : Follows rest) :
    ∀ c ∈ rest.head?, Naming.isIdentifierChar c = false := by
  intro c hc
  rcases h with hclosed | ⟨suffix, more, rfl⟩
  · rcases hclosed c hc with rfl | rfl | rfl <;> decide
  · obtain ⟨tail, heq⟩ := suffix.exists_text_append more
    rw [heq] at hc
    obtain rfl := Option.some_inj.1 hc
    decide

/-- Names of validators are written alike only if they are those of the same name. -/
lemma Identifiers.Separates.eq_of_schemaName_append {ids : Identifiers} {names : List String}
    (h : ids.Separates names) {name name' : String} (hname : name ∈ names) (hname' : name' ∈ names)
    {rest rest' : List Char} (hrest : Follows rest) (hrest' : Follows rest')
    (heq : (ids.schemaName name).toList ++ rest = (ids.schemaName name').toList ++ rest') :
    name = name' ∧ rest = rest' := by
  obtain ⟨hsame, htail⟩ := Text.eq_and_eq_of_append_eq (h.chars name) (h.chars name')
    hrest.isIdentifierChar_eq_false hrest'.isIdentifierChar_eq_false heq
  exact ⟨h.injective name hname name' hname' (String.toList_inj.1 hsame), htail⟩

end TypedClient.TypeScript
