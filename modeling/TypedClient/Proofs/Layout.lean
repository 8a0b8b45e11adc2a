import TypedClient.Layout
import TypedClient.Proofs.Text.Lines

/-!
# The lines of laid out code

The text of steps consists of the lines that the steps write, each at the level at which it is
written (`lines_render`).  Balanced steps come back to the level at which they begin, and never go
below it.  So in code that begins at level `0`, all lines of balanced steps that stand inside a block
are empty or begin with a space (`Balanced.inset`).
-/

namespace TypedClient.Layout

/-- The indentation of a level. -/
def indentation (level : Nat) : List Char := (List.replicate level "  ".toList).flatten

/-- A line at a level.  An empty one is not indented. -/
def lineAt (level : Nat) (text : List Char) : List Char :=
  if text.isEmpty then [] else indentation level ++ text

/-- The lines of a text. -/
def linesOf (text : List Char) : List (List Char) := Text.splitAtEach (· == '\n') text

/-- The level after steps. -/
def levelAfter (level : Nat) : List Step → Nat
  | [] => level
  | .indent :: rest => levelAfter (level + 1) rest
  | .dedent :: rest => levelAfter (level - 1) rest
  | _ :: rest => levelAfter level rest

/-- The lines that steps write from a level on. -/
def written (level : Nat) : List Step → List (List Char)
  | [] => []
  | .line text :: rest => (linesOf text.toList).map (lineAt level) ++ written level rest
  | .blank :: rest => [] :: written level rest
  | .indent :: rest => written (level + 1) rest
  | .dedent :: rest => written (level - 1) rest

variable {a b steps : List Step} {level : Nat}

/-- The level after some steps and others. -/
lemma levelAfter_append : levelAfter level (a ++ b) = levelAfter (levelAfter level a) b := by
  induction a generalizing level with
  | nil => rfl
  | cons s rest ih => cases s <;> exact ih

/-- Some steps and others write their lines one after the other. -/
lemma written_append : written level (a ++ b) = written level a ++ written (levelAfter level a) b := by
  induction a generalizing level with
  | nil => rfl
  | cons s rest ih =>
    cases s with
    | line text => exact (congrArg (_ ++ ·) ih).trans (List.append_assoc _ _ _).symm
    | blank => exact congrArg ([] :: ·) ih
    | indent => exact ih
    | dedent => exact ih

/-- Steps add the lines that they write to the text of a page. -/
lemma toList_text_writeAll (text : String) :
    (Page.writeAll { level, text } steps).text.toList =
      text.toList ++ (written level steps).flatMap fun line => line ++ ['\n'] := by
  induction steps generalizing level text with
  | nil => exact (List.append_nil _).symm
  | cons s rest ih =>
    rw [Page.writeAll, List.foldl_cons, ← Page.writeAll]
    cases s with
    | line added =>
      have hline : Page.lineText "  " level = fun text => lineAt level text ++ ['\n'] := rfl
      rw [Page.write, ih, written, List.flatMap_append, List.flatMap_map, hline,
        String.toList_append, String.toList_ofList, List.append_assoc]
      rfl
    | blank =>
      rw [Page.write, ih, String.toList_append, List.append_assoc]
      rfl
    | indent => exact ih text
    | dedent => exact ih text

/-- A line that is written has no line feed. -/
lemma newline_not_mem_of_mem_written {line : List Char} (h : line ∈ written level steps) :
    ∀ c ∈ line, (c == '\n') = false := by
  induction steps generalizing level with
  | nil => cases h
  | cons s rest ih =>
    cases s with
    | line text =>
      rcases List.mem_append.1 h with h | h
      · obtain ⟨piece, hpiece, rfl⟩ := List.mem_map.1 h
        intro c hc
        unfold lineAt at hc
        split at hc
        · cases hc
        · rcases List.mem_append.1 hc with hc | hc
          · obtain ⟨unit, hunit, hc⟩ := List.mem_flatten.1 hc
            have hspaces : "  ".toList = List.replicate 2 ' ' := rfl
            rw [List.eq_of_mem_replicate hunit, hspaces] at hc
            rw [List.eq_of_mem_replicate hc]
            rfl
          · have hcut := Text.eq_false_of_mem_splitAtEach hpiece hc
            exact hcut
      · exact ih h
    | blank =>
      rcases List.mem_cons.1 h with rfl | h
      · exact List.forall_mem_nil _
      · exact ih h
    | indent => exact ih h
    | dedent => exact ih h

/-- Lines without a line feed, each with its end, are found between the line feeds, and nothing stands
behind the last one. -/
lemma linesOf_flatMap {lines : List (List Char)}
    (h : ∀ line ∈ lines, ∀ c ∈ line, (c == '\n') = false) :
    linesOf (lines.flatMap fun line => line ++ ['\n']) = lines ++ [[]] := by
  induction lines with
  | nil => rfl
  | cons line rest ih =>
    obtain ⟨hline, hrest⟩ := List.forall_mem_cons.1 h
    rw [linesOf, Text.splitAtEach_eq_splitOnP] at ih ⊢
    rw [List.flatMap_cons, List.append_assoc, List.singleton_append,
      List.splitOnP_append_cons_of_forall_mem hline '\n' rfl, ih hrest, List.cons_append]

/-- The lines of the text of steps are those that they write, and an empty one behind the last line
end. -/
theorem lines_render (steps : List Step) :
    linesOf (render steps).toList = written 0 steps ++ [[]] := by
  have htext : (render steps).toList = (written 0 steps).flatMap fun line => line ++ ['\n'] :=
    toList_text_writeAll ""
  rw [htext]
  exact linesOf_flatMap fun _ => newline_not_mem_of_mem_written

/-! ## Balanced steps -/

/-- Steps that come back to the level at which they begin and never go below it. -/
inductive Balanced : List Step → Prop where
  | nil : Balanced []
  | line (text : String) : Balanced [.line text]
  | blank : Balanced [.blank]
  | append {a b : List Step} : Balanced a → Balanced b → Balanced (a ++ b)
  | block {inner : List Step} (first last : String) :
    Balanced inner → Balanced (block first inner last)

namespace Balanced

/-- Each of several lists of steps is balanced, and so are all of them together. -/
lemma flatMap {α : Type} {f : α → List Step} {xs : List α} (h : ∀ x ∈ xs, Balanced (f x)) :
    Balanced (xs.flatMap f) := by
  induction xs with
  | nil => exact nil
  | cons x rest ih =>
    obtain ⟨hx, hrest⟩ := List.forall_mem_cons.1 h
    exact hx.append (ih hrest)

/-- Lines are balanced. -/
lemma lines {α : Type} (text : α → String) (xs : List α) :
    Balanced (xs.map fun x => .line (text x)) := by
  rw [← List.flatMap_singleton' (xs.map _), List.flatMap_map]
  exact flatMap fun x _ => line (text x)

/-- Balanced steps come back to their level. -/
lemma levelAfter_eq (h : Balanced steps) (level : Nat) : levelAfter level steps = level := by
  induction h generalizing level with
  | nil => rfl
  | line text => rfl
  | blank => rfl
  | append _ _ iha ihb => rw [levelAfter_append, iha, ihb]
  | block first last _ ih =>
    rw [Layout.block, levelAfter_append, levelAfter_append]
    change levelAfter (levelAfter (level + 1) _) (closing last) = level
    rw [ih]
    rfl

/-- The lines of a block. -/
lemma written_block (h : Balanced steps) (first last : String) :
    written level (Layout.block first steps last) =
      (linesOf first.toList).map (lineAt level) ++ (written (level + 1) steps ++
        (linesOf last.toList).map (lineAt level)) := by
  have hopen : written level (opening first) = (linesOf first.toList).map (lineAt level) :=
    List.append_nil _
  have hclose : written (level + 1) (closing last) = (linesOf last.toList).map (lineAt level) :=
    List.append_nil _
  rw [Layout.block, written_append, written_append, levelAfter_append, hopen, List.append_assoc]
  change _ ++ (written (level + 1) steps ++
    written (levelAfter (level + 1) steps) (closing last)) = _
  rw [h.levelAfter_eq, hclose]

/-- Inside a block, every line is empty or begins with a space. -/
lemma inset (h : Balanced steps) {line : List Char} (hline : line ∈ written (level + 1) steps) :
    line = [] ∨ ∃ rest, line = ' ' :: rest := by
  have hat : ∀ (level : Nat) (text : List Char),
      lineAt (level + 1) text = [] ∨ ∃ rest, lineAt (level + 1) text = ' ' :: rest := by
    intro level text
    unfold lineAt
    split
    · exact Or.inl rfl
    · exact Or.inr ⟨_, rfl⟩
  have hof : ∀ (level : Nat) (text : String),
      ∀ line ∈ (linesOf text.toList).map (lineAt (level + 1)),
        line = [] ∨ ∃ rest, line = ' ' :: rest := by
    intro level text line hline
    obtain ⟨piece, -, rfl⟩ := List.mem_map.1 hline
    exact hat level piece
  induction h generalizing level with
  | nil => cases hline
  | line text =>
    rw [written, written, List.append_nil] at hline
    exact hof level text line hline
  | blank => exact Or.inl (List.mem_singleton.1 hline)
  | append ha _ iha ihb =>
    rw [written_append, ha.levelAfter_eq, List.mem_append] at hline
    exact hline.elim iha ihb
  | block first last hinner ih =>
    rw [written_block hinner, List.mem_append, List.mem_append] at hline
    obtain hline | hline | hline := hline
    · exact hof level first line hline
    · exact ih hline
    · exact hof level last line hline

end Balanced

end TypedClient.Layout
