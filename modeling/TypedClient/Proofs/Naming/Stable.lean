import Mathlib
import TypedClient.Proofs.Text.Lines
import TypedClient.Proofs.TypeScript.Distinct

/-!
# Names that stay as they are

A name in which words have been joined is a word itself, so to join its words once more changes at
most its first letter: the upper case of the first letter is the same whichever case it had before,
and so is the lower case.  Hence capitalised and uncapitalised names can be converted into each
other without loss.

An identifier is kept as it is, and only an identifier is (`Naming.identifier_eq_self_iff`).  The
keys of parameters and the names of schemas of single operations are identifiers
(`Naming.names_stable`).
-/

namespace TypedClient.Naming

/-- A text has only letters and digits, those of ASCII. -/
def OnlyWordChars (text : List Char) : Prop := ∀ c ∈ text, isWordChar c = true

variable {text : List Char}

/-! ## Words and their capitals -/

/-- The letters and digits stay letters and digits in upper case. -/
lemma isWordChar_toUpper {c : Char} (h : isWordChar c = true) : isWordChar c.toUpper = true := by
  by_cases hlower : c.isLower = true
  · have halpha : c.isAlpha = true := by simp [Char.isAlpha, hlower]
    rw [isWordChar, Char.isAlphanum, Char.isAlpha_toUpper_eq_isAlpha, halpha, Bool.true_or]
  · rwa [Char.toUpper_eq_of_not_isLower hlower]

/-- The letters and digits stay letters and digits in lower case. -/
lemma isWordChar_toLower {c : Char} (h : isWordChar c = true) : isWordChar c.toLower = true := by
  by_cases hupper : c.isUpper = true
  · have halpha : c.isAlpha = true := by simp [Char.isAlpha, hupper]
    rw [isWordChar, Char.isAlphanum, Char.isAlpha_toLower_eq_isAlpha, halpha, Bool.true_or]
  · rwa [Char.toLower_eq_of_not_isUpper hupper]

/-- A word with a capital is a word. -/
lemma OnlyWordChars.capitalize (h : OnlyWordChars text) : OnlyWordChars (capitalize text) := by
  cases text with
  | nil => exact h
  | cons c rest =>
    obtain ⟨hc, hrest⟩ := List.forall_mem_cons.1 h
    exact List.forall_mem_cons.2 ⟨isWordChar_toUpper hc, hrest⟩

/-- A word without its capital is a word. -/
lemma OnlyWordChars.uncapitalize (h : OnlyWordChars text) : OnlyWordChars (uncapitalize text) := by
  cases text with
  | nil => exact h
  | cons c rest =>
    obtain ⟨hc, hrest⟩ := List.forall_mem_cons.1 h
    exact List.forall_mem_cons.2 ⟨isWordChar_toLower hc, hrest⟩

/-- The capital of a word does not depend on the case of its first letter before. -/
lemma capitalize_uncapitalize (text : List Char) :
    capitalize (uncapitalize text) = capitalize text := by
  cases text with
  | nil => rfl
  | cons c rest => exact congrArg (· :: rest) (Char.toUpper_toLower_eq_toUpper c)

/-! ## Joined words -/

/-- Joined words are a word. -/
lemma onlyWordChars_pascalChars (text : List Char) : OnlyWordChars (pascalChars text) := by
  intro c hc
  obtain ⟨word, hword, hc⟩ := List.mem_flatMap.1 hc
  have hchars : OnlyWordChars word := by
    intro d hd
    have hcut := Text.eq_false_of_mem_splitAtEach (List.mem_filter.1 hword).1 hd
    simpa using hcut
  exact hchars.capitalize c hc

/-- The first of joined words has a capital, and to give it one does nothing. -/
lemma capitalize_pascalChars (text : List Char) :
    capitalize (pascalChars text) = pascalChars text := by
  rw [pascalChars]
  cases hwords : Text.wordsBetween (!isWordChar ·) text with
  | nil => rfl
  | cons word rest =>
    have hword : word ∈ Text.wordsBetween (!isWordChar ·) text := by simp [hwords]
    cases word with
    | nil => simpa using (List.mem_filter.1 hword).2
    | cons c word =>
      rw [List.flatMap_cons, capitalize, List.cons_append, capitalize,
        Char.toUpper_toUpper_eq_toUpper]

/-- A single word is joined to nothing, so it only gets a capital. -/
lemma pascalChars_eq_capitalize (h : OnlyWordChars text) : pascalChars text = capitalize text := by
  cases text with
  | nil => rfl
  | cons c rest =>
    have hword : ∀ word ∈ [c :: rest], word ≠ [] ∧ ∀ d ∈ word, (!isWordChar d) = false := by
      refine List.forall_mem_singleton.2 ⟨List.cons_ne_nil _ _, fun d hd => ?_⟩
      rw [h d hd]
      rfl
    have hseparator : (!isWordChar '_') = true := rfl
    have hwords : Text.wordsBetween (!isWordChar ·) (c :: rest) = [c :: rest] :=
      Text.wordsBetween_join hseparator hword
    rw [pascalChars, hwords, List.flatMap_singleton]

/-- What a text has in common with its conversions, and its conversions with theirs. -/
structure StableCases (text : String) : Prop where
  /-- Joined words with capitals stay as they are. -/
  pascal_pascal : pascal (pascal text) = pascal text
  /-- The capital of the first word is found again. -/
  pascal_camel : pascal (camel text) = pascal text
  /-- The capital of the first word is taken away again. -/
  camel_pascal : camel (pascal text) = camel text
  /-- Joined words, the first without a capital, stay as they are. -/
  camel_camel : camel (camel text) = camel text
  /-- Joined words have only letters and digits. -/
  word_pascal : OnlyWordChars (pascal text).toList
  /-- Joined words, the first without a capital, have only letters and digits. -/
  word_camel : OnlyWordChars (camel text).toList

/-- Whatever a text is, its conversions are stable. -/
lemma stableCases (text : String) : StableCases text := by
  have hpascal : ∀ chars, pascalChars (pascalChars chars) = pascalChars chars := by
    intro chars
    rw [pascalChars_eq_capitalize (onlyWordChars_pascalChars chars), capitalize_pascalChars]
  have hcamel : ∀ chars, pascalChars (uncapitalize (pascalChars chars)) = pascalChars chars := by
    intro chars
    rw [pascalChars_eq_capitalize (onlyWordChars_pascalChars chars).uncapitalize,
      capitalize_uncapitalize, capitalize_pascalChars]
  constructor
  case pascal_pascal => rw [pascal, pascal, String.toList_ofList, hpascal]
  case pascal_camel => rw [pascal, camel, String.toList_ofList, hcamel, pascal]
  case camel_pascal => rw [camel, pascal, String.toList_ofList, hpascal, camel]
  case camel_camel => rw [camel, camel, String.toList_ofList, hcamel]
  case word_pascal =>
    rw [pascal, String.toList_ofList]
    exact onlyWordChars_pascalChars _
  case word_camel =>
    rw [camel, String.toList_ofList]
    exact (onlyWordChars_pascalChars _).uncapitalize

/-! ## Identifiers -/

/-- A text is its own identifier if and only if it is an identifier. -/
lemma identifier_eq_self_iff {text : String} : identifier text = text ↔ IsIdentifier text := by
  constructor
  · intro h
    rw [← h]
    exact isIdentifier_identifier text
  · rintro ⟨hchars, first, rest, htext, hfirst⟩
    have hmap : (text.toList.map fun c => if isIdentifierChar c then c else '_') = text.toList := by
      refine (List.map_congr_left fun c hc => ?_).trans (List.map_id' _)
      rw [if_pos (hchars c hc)]
    rw [identifier, identifierChars, hmap, htext]
    dsimp only
    rw [hfirst, if_neg Bool.false_ne_true, ← htext, String.ofList_toList]

/-- An identifier can stand as the key of an object without quotes. -/
lemma isPlainKey_of_isIdentifier {text : String} (h : IsIdentifier text) :
    isPlainKey text = true := by
  obtain ⟨hchars, first, rest, htext, hfirst⟩ := h
  rw [OnlyIdentifierChars, htext, List.forall_mem_cons] at hchars
  obtain ⟨hhead, htail⟩ := hchars
  rw [isPlainKey, htext]
  simp only [hhead, hfirst, Bool.true_or, Bool.not_false, Bool.and_self, Bool.true_and,
    List.all_eq_true, Bool.or_eq_true]
  exact fun c hc => Or.inl (htail c hc)

/-- An identifier is not empty. -/
lemma IsIdentifier.ne_empty {text : String} (h : IsIdentifier text) : text ≠ "" := by
  obtain ⟨-, first, rest, htext, -⟩ := h
  rintro rfl
  cases htext

/-- A word that does not begin with a digit is an identifier. -/
lemma isIdentifier_of_onlyWordChars {text : String} (h : OnlyWordChars text.toList) {first : Char}
    {rest : List Char} (htext : text.toList = first :: rest) (hfirst : first.isDigit = false) :
    IsIdentifier text := by
  refine ⟨fun c hc => ?_, first, rest, htext, hfirst⟩
  rw [isIdentifierChar, ← isWordChar, h c hc, Bool.true_or]

/-! ## The names of parameters and of schemas of single operations -/

/-- The key of the segment of a path that has a name between braces. -/
def parameterKey (name : String) : String :=
  String.ofList (segmentKey ('\x7b' :: name.toList ++ ['\x7d']))

/-- A segment with braces stands for a parameter. -/
lemma toList_parameterKey (name : String) :
    (parameterKey name).toList = 'b' :: 'y' :: pascalChars name.toList := by
  have hname : parameterOf? ('\x7b' :: name.toList ++ ['\x7d']) = some name.toList := by
    rw [List.cons_append, parameterOf?, Text.dropTrailing?, List.reverse_append,
      Text.dropLeading?_append, Option.map_some, List.reverse_reverse]
  rw [parameterKey, String.toList_ofList, segmentKey, hname]

/-- The key of a parameter has only letters and digits. -/
lemma onlyWordChars_parameterKey (name : String) : OnlyWordChars (parameterKey name).toList := by
  rw [toList_parameterKey]
  have hjoined := onlyWordChars_pascalChars name.toList
  exact List.forall_mem_cons.2 ⟨by decide, List.forall_mem_cons.2 ⟨by decide, hjoined⟩⟩

/-- The name of a schema of a single operation is the identifier of a text. -/
lemma exists_inputName_eq (operationId : Option String) (method path suffix : String) :
    ∃ text, inputName operationId method path suffix = identifier text := by
  unfold inputName
  exact ⟨String.ofList _, by rw [identifier, String.toList_ofList]⟩

/-- The conversions of every text are stable.  The key of a segment in braces is an identifier
without braces, whatever stands between them.  The name of the schema of a single operation is an
identifier, which is kept as it is. -/
theorem names_stable :
    (∀ text, StableCases text) ∧
      (∀ name, IsIdentifier (parameterKey name) ∧ isPlainKey (parameterKey name) = true ∧
        '\x7b' ∉ (parameterKey name).toList ∧ '\x7d' ∉ (parameterKey name).toList) ∧
      ∀ operationId method path suffix,
        inputName operationId method path suffix ≠ "" ∧
          IsIdentifier (inputName operationId method path suffix) ∧
          isPlainKey (inputName operationId method path suffix) = true ∧
          identifier (inputName operationId method path suffix) =
            inputName operationId method path suffix := by
  refine ⟨stableCases, fun name => ?_, fun operationId method path suffix => ?_⟩
  · have hword := onlyWordChars_parameterKey name
    have hkey : IsIdentifier (parameterKey name) :=
      isIdentifier_of_onlyWordChars hword (toList_parameterKey name) rfl
    have hopening : ¬isWordChar '\x7b' = true := by decide
    have hclosing : ¬isWordChar '\x7d' = true := by decide
    exact ⟨hkey, isPlainKey_of_isIdentifier hkey, fun hmem => hopening (hword _ hmem),
      fun hmem => hclosing (hword _ hmem)⟩
  · obtain ⟨text, htext⟩ := exists_inputName_eq operationId method path suffix
    have hname := isIdentifier_identifier text
    rw [htext]
    exact ⟨hname.ne_empty, hname, isPlainKey_of_isIdentifier hname, identifier_eq_self_iff.2 hname⟩

end TypedClient.Naming
