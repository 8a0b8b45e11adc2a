import TypedClient.Proofs.Layout.Tidy

/-!
# Tidy texts in two passes

The tidy form of a text can be found without a look at the lines that are still to come.  A first pass
takes line by line, cuts the blanks off, and leaves out an empty line if the one before it was empty,
too.  What is left over is an empty line at the end, and a second pass takes it away
(`Layout.tidy_eq_inPasses`).
-/

namespace TypedClient.Layout

/-- What the first pass has written so far. -/
structure Written where
  /-- The text. -/
  text : List Char := []
  /-- Whether an empty line is left out next. -/
  skip : Bool := true

/-- Goes on with one line. -/
def Written.add (w : Written) (line : List Char) : Written :=
  let bare := Text.trimEnd line
  if bare.isEmpty && w.skip then w else ⟨w.text ++ bare ++ ['\n'], bare.isEmpty⟩

/-- A text that is read backwards, with one of the line feeds that it begins with. -/
def oneFeed : List Char → List Char
  | [] => []
  | c :: rest => if c = '\n' ∧ rest.head? = some '\n' then oneFeed rest else c :: rest

/-- What the two passes make of a text. -/
def inPasses (source : String) : String :=
  String.ofList (oneFeed ((Text.lines source.toList).foldl Written.add {}).text.reverse).reverse

/-- Leaves out the empty lines that have no line before them, or another empty one. -/
def squeeze (skip : Bool) : List (List Char) → List (List Char)
  | [] => []
  | line :: rest =>
    if line.isEmpty && skip then squeeze skip rest else line :: squeeze line.isEmpty rest

/-- The text of lines with their ends, read backwards. -/
def backwards (lines : List (List Char)) : List Char :=
  (lines.flatMap fun line => line ++ ['\n']).reverse

variable {lines : List (List Char)} {line : List Char}

/-! ## The first pass -/

/-- The first pass writes the lines that are not left out. -/
lemma text_foldl_add (lines : List (List Char)) (w : Written) :
    (lines.foldl Written.add w).text =
      w.text ++ (squeeze w.skip (lines.map Text.trimEnd)).flatMap fun line => line ++ ['\n'] := by
  induction lines generalizing w with
  | nil => exact (List.append_nil _).symm
  | cons line rest ih =>
    rw [List.foldl_cons, ih, List.map_cons, squeeze, Written.add]
    split
    · rfl
    · rw [List.flatMap_cons, ← List.append_assoc, ← List.append_assoc]

/-- The end of a list is the end of what stands behind its first element; where nothing is left of
that, the first element may be cut off, too. -/
lemma rdropWhile_cons {α : Type} (p : α → Bool) (x : α) (xs : List α) :
    (x :: xs).rdropWhile p =
      if (xs.rdropWhile p).isEmpty && p x then [] else x :: xs.rdropWhile p := by
  rw [List.rdropWhile, List.reverse_cons, List.dropWhile_append, List.rdropWhile,
    List.isEmpty_reverse]
  cases hrest : (xs.reverse.dropWhile p).isEmpty with
  | true =>
    rw [List.isEmpty_iff.1 hrest, List.dropWhile_cons]
    cases p x <;> rfl
  | false => simp

/-- The tidy form has the lines that the first pass writes, without an empty one at the end. -/
lemma collapse_eq_rdropWhile (skip : Bool) (lines : List (List Char)) :
    collapse skip lines = (squeeze skip lines).rdropWhile List.isEmpty := by
  induction lines generalizing skip with
  | nil => rfl
  | cons line rest ih =>
    rw [collapse, squeeze]
    cases hline : line.isEmpty with
    | false =>
      rw [if_neg Bool.false_ne_true, Bool.false_and, if_neg Bool.false_ne_true, rdropWhile_cons,
        ← ih, hline, Bool.and_false, if_neg Bool.false_ne_true]
    | true =>
      rw [if_pos rfl, Bool.true_and]
      cases skip with
      | true => rw [Bool.true_or, if_pos rfl, if_pos rfl, ih]
      | false =>
        rw [Bool.false_or, if_neg Bool.false_ne_true, rdropWhile_cons, ← ih, isEmpty_collapse,
          hline, Bool.and_true, List.isEmpty_iff.1 hline]
        split
        · next hall => rw [← List.isEmpty_iff, isEmpty_collapse, hall]
        · rfl

/-- The first pass begins with no empty line. -/
lemma head?_squeeze_true (lines : List (List Char)) : (squeeze true lines).head? ≠ some [] := by
  induction lines with
  | nil => exact (Option.some_ne_none _).symm
  | cons line rest ih =>
    rw [squeeze, Bool.and_true]
    split
    · exact ih
    · next hline =>
      intro hhead
      exact hline (List.isEmpty_iff.2 (Option.some_inj.1 hhead))

/-- The first pass only leaves lines out. -/
lemma squeeze_sublist (skip : Bool) (lines : List (List Char)) :
    (squeeze skip lines).Sublist lines := by
  fun_induction squeeze skip lines with
  | case1 skip => exact List.Sublist.refl _
  | case2 skip line rest hskip ih => exact ih.cons line
  | case3 skip line rest hskip ih => exact ih.cons_cons line

/-! ## The second pass -/

/-- The last line comes first backwards. -/
lemma backwards_concat (lines : List (List Char)) (line : List Char) :
    backwards (lines ++ [line]) = '\n' :: (line.reverse ++ backwards lines) := by
  rw [backwards, List.flatMap_append, List.flatMap_singleton, List.reverse_append,
    List.reverse_append, List.reverse_singleton, ← backwards]
  rfl

/-- Of the line feeds at the end one is left, which is that of the last line that is not empty. -/
lemma oneFeed_backwards (hhead : lines.head? ≠ some [])
    (hlines : ∀ line ∈ lines, line.getLast? ≠ some '\n') :
    oneFeed (backwards lines) = backwards (lines.rdropWhile List.isEmpty) := by
  induction lines using List.reverseRecOn with
  | nil => rfl
  | append_singleton lines line ih =>
    by_cases hline : line = []
    · subst hline
      -- An empty line is not the first one, so the line feed of another one stands before it.
      obtain rfl | ⟨before, last, hlast⟩ := List.eq_nil_or_concat' lines
      · exact absurd rfl hhead
      · have hne : lines ≠ [] := by simp [hlast]
        have hfeed : (backwards lines).head? = some '\n' := by
          rw [hlast, backwards_concat, List.head?_cons]
        rw [List.head?_append_of_ne_nil _ hne] at hhead
        rw [backwards_concat, List.reverse_nil, List.nil_append, oneFeed, if_pos ⟨rfl, hfeed⟩,
          List.rdropWhile_concat_pos _ _ _ rfl]
        exact ih hhead fun line hline => hlines line (List.mem_append_left _ hline)
    · have hfeed : (line.reverse ++ backwards lines).head? ≠ some '\n' := by
        rw [List.head?_append_of_ne_nil _ (by simpa using hline), List.head?_reverse]
        exact hlines line (List.mem_append_right _ List.mem_cons_self)
      have hkept : ¬line.isEmpty = true := by simpa using hline
      rw [List.rdropWhile_concat_neg _ _ _ hkept, backwards_concat, oneFeed,
        if_neg fun h => hfeed h.2]

/-- The two passes find the tidy form of every text. -/
theorem tidy_eq_inPasses (source : String) : tidy source = inPasses source := by
  have hpass : ((Text.lines source.toList).foldl Written.add {}).text.reverse =
      backwards (squeeze true (bareLines source)) := by
    rw [text_foldl_add]
    rfl
  have hlines : ∀ line ∈ squeeze true (bareLines source), line.getLast? ≠ some '\n' := by
    intro line hline hfeed
    obtain ⟨piece, -, rfl⟩ := List.mem_map.1 ((squeeze_sublist _ _).subset hline)
    exact absurd (Text.isBlank_getLast?_trimEnd hfeed) (by decide)
  have hcollapse : collapse true (trimmedLines source.toList) =
      (squeeze true (bareLines source)).rdropWhile List.isEmpty := by
    rw [← collapse_eq_rdropWhile, collapse_trimmedLines, collapse_true_eq]
  rw [inPasses, hpass, oneFeed_backwards (head?_squeeze_true _) hlines, ← hcollapse, backwards,
    List.reverse_reverse, tidy]

end TypedClient.Layout
