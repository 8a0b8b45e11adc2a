import Mathlib.Data.List.Chain
import Mathlib.Data.List.DropRight
import TypedClient.Layout.Tidy
import TypedClient.Proofs.Layout

/-!
# Tidy texts

The lines of a text that are not empty, once the blanks at their ends are cut off, stand together in
paragraphs.  The tidy form of a text consists of the same paragraphs, with one empty line between
neighbours and none at the beginning and the end (`Layout.collapse_true_eq`).  So it keeps every line
that is not empty, and a text that is tidy is its own tidy form (`Layout.tidies_tidy`).
-/

namespace TypedClient

namespace Text

/-- A line without the carriage return that belongs to its end. -/
def dropReturn (line : List Char) : List Char := (dropTrailing? ['\r'] line).getD line

/-- The lines that the pieces between line feeds make: all pieces but the last are ended, and the
last one is a line if anything stands there. -/
def linesOfPieces : List (List Char) → List (List Char)
  | [] => []
  | [last] => if last.isEmpty then [] else [last]
  | piece :: rest => dropReturn piece :: linesOfPieces rest

/-- The lines of a text.  A line ends at a line feed, or at a carriage return and a line feed, and
the end of the last line may be missing. -/
def lines (text : List Char) : List (List Char) := linesOfPieces (splitAtEach (· == '\n') text)

variable {line : List Char}

/-! ## The ends of lines -/

/-- The ends of lines are cut like those of lists. -/
lemma trimEnd_eq_rdropWhile (line : List Char) : trimEnd line = line.rdropWhile isBlank := rfl

/-- What is left of a line without its blanks does not end in a blank. -/
lemma isBlank_getLast?_trimEnd {c : Char} (h : (trimEnd line).getLast? = some c) :
    isBlank c = false := by
  rw [trimEnd_eq_rdropWhile] at h
  have hne : line.rdropWhile isBlank ≠ [] := by
    intro hnil
    rw [hnil] at h
    cases h
  have hlast := List.rdropWhile_last_not isBlank line hne
  rw [List.getLast?_eq_some_getLast hne, Option.some_inj] at h
  rwa [h, Bool.not_eq_true] at hlast

/-- A line that does not end in a blank is left as it is. -/
lemma trimEnd_eq_self (h : ∀ c, line.getLast? = some c → isBlank c = false) :
    trimEnd line = line := by
  rw [trimEnd_eq_rdropWhile, List.rdropWhile_eq_self_iff]
  intro hne
  rw [Bool.not_eq_true]
  exact h _ (List.getLast?_eq_some_getLast hne)

/-- A line that ends in no carriage return is all of the line. -/
lemma dropReturn_of_getLast?_ne (h : line.getLast? ≠ some '\r') : dropReturn line = line := by
  rcases List.eq_nil_or_concat' line with rfl | ⟨before, c, rfl⟩
  · rfl
  · rw [List.getLast?_concat, ne_eq, Option.some_inj] at h
    rw [dropReturn, dropTrailing?, List.reverse_concat]
    simp [dropLeading?, Ne.symm h]

/-- The carriage return of a line is one of the blanks at its end. -/
lemma trimEnd_dropReturn (line : List Char) : trimEnd (dropReturn line) = trimEnd line := by
  by_cases h : line.getLast? = some '\r'
  · obtain ⟨before, rfl⟩ := List.getLast?_eq_some_iff.1 h
    have hdrop : dropReturn (before ++ ['\r']) = before := by
      rw [dropReturn, dropTrailing?, List.reverse_concat]
      simp [dropLeading?]
    have hblank : isBlank '\r' = true := by decide
    rw [hdrop, trimEnd_eq_rdropWhile, trimEnd_eq_rdropWhile,
      List.rdropWhile_concat_pos _ _ _ hblank]
  · rw [dropReturn_of_getLast?_ne h]

/-- Up to an empty piece at the end, the pieces between line feeds are the lines, once the blanks are
cut off. -/
lemma map_trimEnd_eq (pieces : List (List Char)) :
    pieces.map trimEnd = (linesOfPieces pieces).map trimEnd ∨
      pieces.map trimEnd = (linesOfPieces pieces).map trimEnd ++ [[]] := by
  induction pieces with
  | nil => exact Or.inl rfl
  | cons piece rest ih =>
    cases rest with
    | nil =>
      rw [linesOfPieces]
      split
      · next hempty =>
        obtain rfl := List.isEmpty_iff.1 hempty
        exact Or.inr rfl
      · exact Or.inl rfl
    | cons next rest =>
      have hlines : linesOfPieces (piece :: next :: rest) =
          dropReturn piece :: linesOfPieces (next :: rest) := by
        rw [linesOfPieces]
        simp
      rw [hlines, List.map_cons, @List.map_cons _ _ trimEnd (dropReturn piece),
        trimEnd_dropReturn]
      exact ih.imp (congrArg (trimEnd piece :: ·)) (congrArg (trimEnd piece :: ·))

/-- Lines with their ends are the lines of their text. -/
lemma linesOfPieces_append_nil {lines : List (List Char)}
    (h : ∀ line ∈ lines, line.getLast? ≠ some '\r') : linesOfPieces (lines ++ [[]]) = lines := by
  induction lines with
  | nil => rfl
  | cons line rest ih =>
    obtain ⟨hline, hrest⟩ := List.forall_mem_cons.1 h
    rw [List.cons_append, linesOfPieces, ih hrest, dropReturn_of_getLast?_ne hline]
    simp

end Text

namespace Layout

/-- The paragraphs that lines form: the longest runs of lines that are not empty. -/
def paragraphs (lines : List (List Char)) : List (List (List Char)) :=
  (lines.splitOn []).filter fun run => !run.isEmpty

/-- The lines of a text, without the blanks at their ends. -/
def bareLines (text : String) : List (List Char) := (Text.lines text.toList).map Text.trimEnd

/-- No line ends in a blank, and an empty line stands only between two that are not empty. -/
structure IsTidy (lines : List (List Char)) : Prop where
  /-- No line ends in a blank. -/
  trimmed : ∀ line ∈ lines, ∀ c, line.getLast? = some c → Text.isBlank c = false
  /-- No two neighbours are empty. -/
  apart : lines.IsChain fun line next => line ≠ [] ∨ next ≠ []
  /-- The first line is not empty. -/
  head?_ne : lines.head? ≠ some []
  /-- The last line is not empty. -/
  getLast?_ne : lines.getLast? ≠ some []

/-- A text is the tidy form of a source. -/
structure Tidies (source tidied : String) : Prop where
  /-- Its lines are the paragraphs of the source, with one empty line between neighbours. -/
  lines_eq : Text.lines tidied.toList = [[]].intercalate (paragraphs (bareLines source))
  /-- Of the lines that are not empty, without the blanks at their ends, none is lost or added. -/
  content_eq : (bareLines tidied).filter (fun line => !line.isEmpty) =
    (bareLines source).filter fun line => !line.isEmpty
  /-- Its lines are tidy. -/
  isTidy : IsTidy (Text.lines tidied.toList)
  /-- It is empty, or it ends with exactly one line feed. -/
  ending : tidied = "" ∨ ∃ body, tidied.toList = body ++ ['\n'] ∧ body.getLast? ≠ some '\n'
  /-- It is its own tidy form. -/
  tidy_eq : tidy tidied = tidied

variable {lines : List (List Char)} {skip : Bool}

/-! ## Paragraphs -/

/-- At an empty line the paragraphs before it and those behind it are apart. -/
lemma paragraphs_append_nil_cons (before after : List (List Char)) :
    paragraphs (before ++ [] :: after) = paragraphs before ++ paragraphs after := by
  rw [paragraphs, List.splitOn_append_cons_self, List.filter_append]
  rfl

/-- An empty line at the beginning belongs to no paragraph. -/
lemma paragraphs_nil_cons (rest : List (List Char)) : paragraphs ([] :: rest) = paragraphs rest :=
  paragraphs_append_nil_cons [] rest

/-- Lines of which none is empty are one paragraph. -/
lemma paragraphs_of_not_mem (hne : lines ≠ []) (h : [] ∉ lines) : paragraphs lines = [lines] := by
  rw [paragraphs, List.splitOn_eq_singleton h]
  simpa using hne

/-- An empty line comes behind an empty run. -/
lemma splitOn_nil_cons (rest : List (List Char)) :
    ([] :: rest).splitOn [] = [] :: rest.splitOn [] :=
  List.splitOn_append_cons_self [] rest

/-- A line that is not empty begins a run, or it goes on with the one behind it. -/
lemma splitOn_cons_of_ne {line : List Char} (hline : line ≠ []) {rest run : List (List Char)}
    {runs : List (List (List Char))} (h : rest.splitOn [] = run :: runs) :
    (line :: rest).splitOn [] = (line :: run) :: runs := by
  have hfalse : ¬(line == []) = true := by simpa using hline
  rw [List.splitOn_cons_eq_if_modifyHead, if_neg hfalse, h, List.modifyHead_cons]

/-- No line between empty lines is empty. -/
lemma nil_not_mem_of_mem_splitOn : ∀ run ∈ lines.splitOn [], [] ∉ run := by
  induction lines with
  | nil => simp
  | cons line rest ih =>
    obtain ⟨run, runs, hruns⟩ := List.exists_cons_of_ne_nil (List.splitOn_ne_nil [] rest)
    by_cases hline : line = []
    · subst hline
      rw [splitOn_nil_cons]
      exact List.forall_mem_cons.2 ⟨List.not_mem_nil, ih⟩
    · rw [hruns, List.forall_mem_cons] at ih
      rw [splitOn_cons_of_ne hline hruns, List.forall_mem_cons, List.mem_cons, not_or]
      exact ⟨⟨Ne.symm hline, ih.1⟩, ih.2⟩

/-- A paragraph is not empty, and neither is any of its lines. -/
lemma nil_not_mem_of_mem_paragraphs {paragraph : List (List Char)}
    (h : paragraph ∈ paragraphs lines) : paragraph ≠ [] ∧ [] ∉ paragraph := by
  obtain ⟨hmem, hne⟩ := List.mem_filter.1 h
  exact ⟨by simpa using hne, nil_not_mem_of_mem_splitOn paragraph hmem⟩

/-- Paragraphs with one empty line between neighbours are found again. -/
lemma paragraphs_intercalate {ps : List (List (List Char))}
    (h : ∀ paragraph ∈ ps, paragraph ≠ [] ∧ [] ∉ paragraph) :
    paragraphs ([[]].intercalate ps) = ps := by
  induction ps with
  | nil => rfl
  | cons paragraph rest ih =>
    obtain ⟨⟨hne, hmem⟩, hrest⟩ := List.forall_mem_cons.1 h
    cases rest with
    | nil => rw [List.intercalate_singleton, paragraphs_of_not_mem hne hmem]
    | cons next rest =>
      rw [List.intercalate_cons_cons, List.append_assoc, List.singleton_append,
        paragraphs_append_nil_cons, paragraphs_of_not_mem hne hmem, ih hrest]
      rfl

/-- Behind the first of several paragraphs, each further one has an empty line before it. -/
lemma intercalate_cons_eq (paragraph : List (List Char)) (ps : List (List (List Char))) :
    [[]].intercalate (paragraph :: ps) = paragraph ++ ps.flatMap ([] :: ·) := by
  induction ps generalizing paragraph with
  | nil => rw [List.intercalate_singleton, List.flatMap_nil, List.append_nil]
  | cons next ps ih =>
    rw [List.intercalate_cons_cons, ih, List.flatMap_cons, List.append_assoc]
    rfl

/-- There are no paragraphs if and only if all lines are empty. -/
lemma paragraphs_eq_nil_iff : paragraphs lines = [] ↔ lines.all List.isEmpty = true := by
  induction lines with
  | nil => exact iff_of_true rfl rfl
  | cons line rest ih =>
    by_cases hline : line = []
    · subst hline
      rw [paragraphs_nil_cons, ih]
      rfl
    · obtain ⟨run, runs, hruns⟩ := List.exists_cons_of_ne_nil (List.splitOn_ne_nil [] rest)
      rw [paragraphs, splitOn_cons_of_ne hline hruns]
      simp [hline]

/-! ## Collapsing -/

/-- What collapsing leaves of lines, by the runs between the empty lines: behind a line, the first run
goes on without an empty line, and each further one that is not empty has one before it. -/
lemma collapse_eq_of_splitOn {run : List (List Char)} {runs : List (List (List Char))}
    (h : lines.splitOn [] = run :: runs) :
    collapse false lines = run ++ (runs.filter fun run => !run.isEmpty).flatMap ([] :: ·) ∧
      collapse true lines = [[]].intercalate (paragraphs lines) := by
  induction lines generalizing run runs with
  | nil =>
    obtain ⟨rfl, rfl⟩ := List.cons.inj h
    exact ⟨rfl, rfl⟩
  | cons line rest ih =>
    obtain ⟨run', runs', hruns⟩ := List.exists_cons_of_ne_nil (List.splitOn_ne_nil [] rest)
    obtain ⟨hfalse, htrue⟩ := ih hruns
    by_cases hline : line = []
    · subst hline
      obtain ⟨rfl, rfl⟩ := List.cons.inj ((splitOn_nil_cons rest).symm.trans h)
      refine ⟨?_, by rw [paragraphs_nil_cons, ← htrue]; rfl⟩
      rw [List.nil_append, ← paragraphs]
      cases hps : paragraphs rest with
      | nil =>
        -- Only empty lines follow, so this one is left out, too.
        have hcollapse : collapse false ([] :: rest) = collapse false rest := by
          rw [collapse]
          simp [paragraphs_eq_nil_iff.1 hps]
        rw [paragraphs, hruns, List.filter_cons] at hps
        split at hps
        · cases hps
        · next hrun =>
          have hrun' : run' = [] := by simpa using hrun
          rw [hcollapse, hfalse, hps, hrun']
          rfl
      | cons paragraph ps =>
        have hall : rest.all List.isEmpty = false := by
          refine Bool.eq_false_iff.2 fun hall => List.cons_ne_nil paragraph ps ?_
          rw [← hps, paragraphs_eq_nil_iff, hall]
        have hcollapse : collapse false ([] :: rest) = [] :: collapse true rest := by
          rw [collapse]
          simp [hall]
        rw [hcollapse, htrue, hps, intercalate_cons_eq]
        rfl
    · have hcollapse : ∀ skip, collapse skip (line :: rest) = line :: collapse false rest := by
        intro skip
        rw [collapse]
        simp [hline]
      rw [splitOn_cons_of_ne hline hruns] at h
      obtain ⟨rfl, rfl⟩ := List.cons.inj h
      rw [hcollapse, hcollapse, hfalse, paragraphs, splitOn_cons_of_ne hline hruns,
        List.filter_cons_of_pos rfl, intercalate_cons_eq]
      exact ⟨rfl, rfl⟩

/-- To collapse lines leaves their paragraphs, with one empty line between neighbours. -/
theorem collapse_true_eq (lines : List (List Char)) :
    collapse true lines = [[]].intercalate (paragraphs lines) := by
  obtain ⟨run, runs, hruns⟩ := List.exists_cons_of_ne_nil (List.splitOn_ne_nil [] lines)
  exact (collapse_eq_of_splitOn hruns).2

/-- To collapse lines only leaves lines out. -/
lemma sublist_collapse (skip : Bool) (lines : List (List Char)) :
    (collapse skip lines).Sublist lines := by
  fun_induction collapse skip lines with
  | case1 skip => exact List.Sublist.refl _
  | case2 skip line rest hline hskip ih => exact ih.cons line
  | case3 skip line rest hline hskip ih =>
    rw [List.isEmpty_iff.1 hline]
    exact ih.cons_cons []
  | case4 skip line rest hline ih => exact ih.cons_cons line

/-- To collapse lines leaves all lines that are not empty. -/
lemma filter_collapse (skip : Bool) (lines : List (List Char)) :
    (collapse skip lines).filter (fun line => !line.isEmpty) =
      lines.filter fun line => !line.isEmpty := by
  fun_induction collapse skip lines with
  | case1 skip => rfl
  | case2 skip line rest hline hskip ih => rw [ih, List.filter_cons_of_neg (by simp [hline])]
  | case3 skip line rest hline hskip ih =>
    rw [List.filter_cons_of_neg (by simp), ih, List.filter_cons_of_neg (by simp [hline])]
  | case4 skip line rest hline ih =>
    rw [List.filter_cons_of_pos (by simpa using hline), ih,
      List.filter_cons_of_pos (by simpa using hline)]

/-- Nothing is left if and only if all lines are empty. -/
lemma isEmpty_collapse (skip : Bool) (lines : List (List Char)) :
    (collapse skip lines).isEmpty = lines.all List.isEmpty := by
  fun_induction collapse skip lines with
  | case1 skip => rfl
  | case2 skip line rest hline hskip ih => rw [ih, List.all_cons, hline, Bool.true_and]
  | case3 skip line rest hline hskip ih =>
    have hrest : rest.all List.isEmpty = false := by
      rw [Bool.or_eq_true, not_or, Bool.not_eq_true, Bool.not_eq_true] at hskip
      exact hskip.2
    rw [List.all_cons, hrest, Bool.and_false, List.isEmpty_cons]
  | case4 skip line rest hline ih =>
    rw [List.all_cons, Bool.eq_false_iff.2 hline, Bool.false_and, List.isEmpty_cons]

/-- If empty lines are left out at the beginning, the first line is not empty. -/
lemma head?_collapse_true (lines : List (List Char)) : (collapse true lines).head? ≠ some [] := by
  induction lines with
  | nil => exact (Option.some_ne_none _).symm
  | cons line rest ih =>
    rw [collapse]
    split
    · simpa using ih
    · next hline =>
      intro hhead
      exact hline (List.isEmpty_iff.2 (Option.some_inj.1 hhead))

/-- No two neighbours are empty. -/
lemma isChain_collapse (skip : Bool) (lines : List (List Char)) :
    (collapse skip lines).IsChain fun line next => line ≠ [] ∨ next ≠ [] := by
  fun_induction collapse skip lines with
  | case1 skip => exact List.IsChain.nil
  | case2 skip line rest hline hskip ih => exact ih
  | case3 skip line rest hline hskip ih =>
    refine List.isChain_cons.2 ⟨fun next hnext => Or.inr ?_, ih⟩
    rintro rfl
    exact head?_collapse_true rest hnext
  | case4 skip line rest hline ih =>
    refine List.isChain_cons.2 ⟨fun next hnext => Or.inl ?_, ih⟩
    rintro rfl
    exact hline rfl

/-- The last line is not empty. -/
lemma getLast?_collapse (skip : Bool) (lines : List (List Char)) :
    (collapse skip lines).getLast? ≠ some [] := by
  fun_induction collapse skip lines with
  | case1 skip => exact (Option.some_ne_none _).symm
  | case2 skip line rest hline hskip ih => exact ih
  | case3 skip line rest hline hskip ih =>
    -- Not all of the lines that follow are empty, so one of them is left.
    have hne : collapse true rest ≠ [] := by
      intro hnil
      have hall := isEmpty_collapse true rest
      rw [hnil, List.isEmpty_nil] at hall
      exact hskip (Bool.or_eq_true_iff.2 (Or.inr hall.symm))
    rwa [List.getLast?_cons_of_ne_nil hne]
  | case4 skip line rest hline ih =>
    cases hrest : collapse false rest with
    | nil =>
      intro hlast
      exact hline (List.isEmpty_iff.2 (Option.some_inj.1 hlast))
    | cons next more =>
      rw [← hrest, List.getLast?_cons_of_ne_nil (by simp [hrest])]
      exact ih

/-! ## Texts -/

/-- The lines of a text with the blanks cut off, up to an empty one at the end. -/
lemma trimmedLines_eq (text : String) :
    trimmedLines text.toList = bareLines text ∨
      trimmedLines text.toList = bareLines text ++ [[]] :=
  Text.map_trimEnd_eq _

/-- A line that collapsing leaves of a text has no line feed, and does not end in a blank. -/
lemma bare_of_mem_collapse {source : String} {line : List Char}
    (h : line ∈ collapse true (trimmedLines source.toList)) :
    (∀ c ∈ line, (c == '\n') = false) ∧ ∀ c, line.getLast? = some c → Text.isBlank c = false := by
  obtain ⟨piece, hpiece, rfl⟩ := List.mem_map.1 ((sublist_collapse _ _).subset h)
  refine ⟨fun c hc => ?_, fun c => Text.isBlank_getLast?_trimEnd⟩
  have hmem : c ∈ piece := (List.rdropWhile_prefix Text.isBlank piece).subset hc
  have hcut := Text.eq_false_of_mem_splitAtEach hpiece hmem
  exact hcut

/-- The lines of the tidy form of a text. -/
lemma lines_tidy (source : String) :
    Text.lines (tidy source).toList = collapse true (trimmedLines source.toList) := by
  have hpieces : Text.splitAtEach (· == '\n') (tidy source).toList =
      collapse true (trimmedLines source.toList) ++ [[]] := by
    rw [tidy, String.toList_ofList]
    exact linesOf_flatMap fun _ hline => (bare_of_mem_collapse hline).1
  rw [Text.lines, hpieces]
  refine Text.linesOfPieces_append_nil fun line hline hreturn => ?_
  have hblank := (bare_of_mem_collapse hline).2 '\r' hreturn
  exact absurd hblank (by decide)

/-- No blank is cut off the lines of the tidy form of a text. -/
lemma bareLines_tidy (source : String) :
    bareLines (tidy source) = collapse true (trimmedLines source.toList) := by
  rw [bareLines, lines_tidy]
  have htrim : ∀ line ∈ collapse true (trimmedLines source.toList), Text.trimEnd line = line :=
    fun line hline => Text.trimEnd_eq_self (bare_of_mem_collapse hline).2
  rw [List.map_congr_left htrim, List.map_id']

/-- An empty piece at the end of a text makes no difference to what collapsing leaves. -/
lemma collapse_trimmedLines (source : String) :
    collapse true (trimmedLines source.toList) =
      [[]].intercalate (paragraphs (bareLines source)) := by
  rw [collapse_true_eq]
  rcases trimmedLines_eq source with h | h
  · rw [h]
  · rw [h, paragraphs_append_nil_cons]
    exact congrArg _ (List.append_nil _)

/-- The tidy form of a text is empty or ends with exactly one line feed. -/
lemma tidy_ending (source : String) :
    tidy source = "" ∨
      ∃ body, (tidy source).toList = body ++ ['\n'] ∧ body.getLast? ≠ some '\n' := by
  rcases List.eq_nil_or_concat' (collapse true (trimmedLines source.toList)) with
    hnil | ⟨before, last, hlast⟩
  · left
    rw [tidy, hnil]
    rfl
  · right
    have htext : (tidy source).toList =
        (before.flatMap fun line => line ++ ['\n']) ++ last ++ ['\n'] := by
      rw [tidy, String.toList_ofList, hlast, List.flatMap_append, List.flatMap_singleton,
        List.append_assoc]
    have hmem : last ∈ collapse true (trimmedLines source.toList) := by simp [hlast]
    have hne : last ≠ [] := by
      rintro rfl
      exact getLast?_collapse true (trimmedLines source.toList) (by rw [hlast, List.getLast?_concat])
    refine ⟨_, htext, ?_⟩
    rw [List.getLast?_append_of_ne_nil _ hne]
    intro hfeed
    exact absurd ((bare_of_mem_collapse hmem).2 '\n' hfeed) (by decide)

/-- The tidy form of a text is its own tidy form: its paragraphs are found again. -/
lemma tidy_tidy (source : String) : tidy (tidy source) = tidy source := by
  have hagain : collapse true (trimmedLines (tidy source).toList) =
      collapse true (trimmedLines source.toList) := by
    rw [collapse_trimmedLines, bareLines_tidy, collapse_trimmedLines,
      paragraphs_intercalate fun _ => nil_not_mem_of_mem_paragraphs]
  rw [tidy, hagain]
  rfl

/-- The tidy form of every text has the lines of the text that are not empty, without the blanks at
their ends, in paragraphs with one empty line between neighbours; it is empty or ends with exactly one
line feed; and it is its own tidy form. -/
theorem tidies_tidy (source : String) : Tidies source (tidy source) := by
  constructor
  case lines_eq => rw [lines_tidy, collapse_trimmedLines]
  case content_eq =>
    rw [bareLines_tidy, filter_collapse]
    rcases trimmedLines_eq source with h | h
    · rw [h]
    · rw [h, List.filter_append]
      exact List.append_nil _
  case isTidy =>
    rw [lines_tidy]
    exact ⟨fun line hline => (bare_of_mem_collapse hline).2, isChain_collapse _ _,
      head?_collapse_true _, getLast?_collapse _ _⟩
  case ending => exact tidy_ending source
  case tidy_eq => exact tidy_tidy source

/-- Blanks of several kinds, a carriage return in a line and empty lines everywhere. -/
example : tidy "\n \u2003\n a\rb \t\r\n\r\n\n\u3000\nc\n\n " = " a\rb\n\nc\n" := by decide

end Layout

end TypedClient
