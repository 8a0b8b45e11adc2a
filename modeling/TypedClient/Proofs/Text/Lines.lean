import Mathlib.Data.List.Basic
import TypedClient.Text.Blank

/-!
# Texts cut into pieces

The cutting of a text at each character of a class is the one of lists, so the lemmas about lists
apply to it (`splitAtEach_eq_splitOnP`).  A text is on one line if it has none of the four line
terminators of the language that client modules are written in; of the words between blanks, joined
by spaces, this is always true (`onOneLine_join_wordsBetween`), since a line terminator is a blank.
-/

namespace TypedClient.Text

variable {cut : Char → Bool} {text : List Char} {c : Char}

/-- A text is cut like any list. -/
lemma splitAtEach_eq_splitOnP (cut : Char → Bool) (text : List Char) :
    splitAtEach cut text = text.splitOnP cut := by
  induction text with
  | nil => rfl
  | cons c rest ih =>
    rw [splitAtEach, List.splitOnP_cons_eq_if_modifyHead, ← ih]
    cases hrest : splitAtEach cut rest with
    | nil => exact absurd hrest (splitAtEach_ne_nil cut rest)
    | cons piece pieces => rfl

/-- Before the first piece there may stand a text without a character of the class. -/
lemma splitAtEach_append (h : ∀ c ∈ text, cut c = false) {rest piece : List Char}
    {pieces : List (List Char)} (hrest : splitAtEach cut rest = piece :: pieces) :
    splitAtEach cut (text ++ rest) = (text ++ piece) :: pieces := by
  induction text with
  | nil => exact hrest
  | cons c before ih =>
    obtain ⟨hc, hbefore⟩ := List.forall_mem_cons.1 h
    rw [List.cons_append, splitAtEach, ih hbefore]
    simp [hc]

/-- No piece has a character of the class. -/
lemma eq_false_of_mem_splitAtEach {piece : List Char} (h : piece ∈ splitAtEach cut text)
    (hc : c ∈ piece) : cut c = false := by
  induction text generalizing piece with
  | nil =>
    obtain rfl := List.mem_singleton.1 h
    cases hc
  | cons first rest ih =>
    rw [splitAtEach] at h
    cases hrest : splitAtEach cut rest with
    | nil => exact absurd hrest (splitAtEach_ne_nil cut rest)
    | cons head tail =>
      rw [hrest] at h ih
      dsimp only at h
      split at h
      · rcases List.mem_cons.1 h with rfl | h
        · cases hc
        · exact ih h hc
      · next hfirst =>
        rcases List.mem_cons.1 h with rfl | h
        · rcases List.mem_cons.1 hc with rfl | hc
          · exact Bool.eq_false_iff.2 hfirst
          · exact ih List.mem_cons_self hc
        · exact ih (List.mem_cons_of_mem _ h) hc

/-- A leading text that is there is cut off. -/
lemma dropLeading?_append (lead text : List Char) : dropLeading? lead (lead ++ text) = some text := by
  induction lead with
  | nil => rfl
  | cons c lead ih => rw [List.cons_append, dropLeading?, if_pos rfl, ih]

/-- What a joined text consists of. -/
lemma mem_join {separator : List Char} {pieces : List (List Char)}
    (h : c ∈ join separator pieces) : c ∈ separator ∨ ∃ piece ∈ pieces, c ∈ piece := by
  induction pieces with
  | nil => cases h
  | cons piece rest ih =>
    cases rest with
    | nil => exact Or.inr ⟨piece, List.mem_cons_self, h⟩
    | cons next rest =>
      rw [join, List.append_assoc, List.mem_append, List.mem_append] at h
      · rcases h with h | h | h
        · exact Or.inr ⟨piece, List.mem_cons_self, h⟩
        · exact Or.inl h
        · obtain h | ⟨other, hother, hc⟩ := ih h
          · exact Or.inl h
          · exact Or.inr ⟨other, List.mem_cons_of_mem _ hother, hc⟩
      · simp

/-- Pieces without a character of the class, joined by one of the class, are cut out again. -/
lemma splitAtEach_join {separator : Char} (hseparator : cut separator = true)
    {pieces : List (List Char)} (hne : pieces ≠ [])
    (h : ∀ piece ∈ pieces, ∀ c ∈ piece, cut c = false) :
    splitAtEach cut (join [separator] pieces) = pieces := by
  induction pieces with
  | nil => exact absurd rfl hne
  | cons piece rest ih =>
    rw [List.forall_mem_cons] at h
    obtain ⟨hpiece, hrest⟩ := h
    cases rest with
    | nil =>
      have hnil : splitAtEach cut [] = [] :: [] := rfl
      have hlast := splitAtEach_append hpiece hnil
      rwa [List.append_nil] at hlast
    | cons next rest =>
      have hnext := ih (List.cons_ne_nil _ _) hrest
      have hcut : splitAtEach cut (separator :: join [separator] (next :: rest)) =
          [] :: next :: rest := by
        rw [splitAtEach, hnext]
        simp [hseparator]
      have hall := splitAtEach_append hpiece hcut
      rw [List.append_nil] at hall
      rwa [join, List.append_assoc, List.singleton_append]
      simp

/-- Words joined by a character of the class are found between the characters of the class. -/
lemma wordsBetween_join {separator : Char} (hseparator : cut separator = true)
    {words : List (List Char)} (h : ∀ word ∈ words, word ≠ [] ∧ ∀ c ∈ word, cut c = false) :
    wordsBetween cut (join [separator] words) = words := by
  cases words with
  | nil => rfl
  | cons word rest =>
    rw [wordsBetween, splitAtEach_join hseparator (List.cons_ne_nil _ _) fun w hw => (h w hw).2,
      List.filter_eq_self]
    intro w hw
    simpa using (h w hw).1

/-! ## Line terminators -/

/-- Whether a character ends a line of code: line feed, carriage return, and the line and paragraph
separators. -/
def isLineEnd (c : Char) : Bool := c == '\n' || c == '\r' || c == '\u2028' || c == '\u2029'

/-- A text without a character that ends a line. -/
def OnOneLine (text : List Char) : Prop := ∀ c ∈ text, isLineEnd c = false

instance (text : List Char) : Decidable (OnOneLine text) :=
  List.decidableBAll (fun c => isLineEnd c = false) text

/-- A text is on one line if and only if its parts are. -/
lemma onOneLine_append {a b : List Char} : OnOneLine (a ++ b) ↔ OnOneLine a ∧ OnOneLine b :=
  List.forall_mem_append

/-- A character that ends a line is a blank. -/
lemma isBlank_of_isLineEnd (h : isLineEnd c = true) : isBlank c = true := by
  simp only [isLineEnd, Bool.or_eq_true, beq_iff_eq] at h
  rcases h with ((rfl | rfl) | rfl) | rfl <;> decide

/-- The words between blanks, joined by spaces, are on one line. -/
lemma onOneLine_join_wordsBetween (text : List Char) :
    OnOneLine (join [' '] (wordsBetween isBlank text)) := by
  intro c hc
  rcases mem_join hc with hc | ⟨word, hword, hc⟩
  · obtain rfl := List.mem_singleton.1 hc
    decide
  · have hpiece := (List.mem_filter.1 hword).1
    have hblank : isBlank c = false := eq_false_of_mem_splitAtEach hpiece hc
    rw [Bool.eq_false_iff] at hblank ⊢
    exact fun hend => hblank (isBlank_of_isLineEnd hend)

end TypedClient.Text
