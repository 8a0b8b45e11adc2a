import TypedClient.Proofs.Layout

/-!
# The levels of laid out code

`Page.run` tells for each step the page that it finds, and so the level at which it is done.  A step
of balanced code finds the level at which the code began, or a deeper one, and a step that goes back
finds a deeper one (`Balanced.level_le`): balanced code never goes back from level `0`, where a step
back would have no effect.

A step adds whole lines to a page, and each of them is empty or begins with the indentation of the
level that the step finds (`writesFrom_of_le`).
-/

namespace TypedClient.Layout

/-- What steps are done for, one after the other, each with the page that its step finds. -/
def Page.run {α : Type} (step : α → Step) (page : Page) : List α → List (Page × α)
  | [] => []
  | x :: rest => (page, x) :: Page.run step (page.write (step x)) rest

/-- A step adds whole lines to a page, and each of them is empty or begins with the indentation of a
level. -/
def WritesFrom (level : Nat) (page : Page) (step : Step) : Prop :=
  ∃ lines : List (List Char),
    (page.write step).text.toList = page.text.toList ++ lines.flatMap (fun line => line ++ ['\n']) ∧
    ∀ line ∈ lines, '\n' ∉ line ∧ (line = [] ∨ indentation level <+: line)

namespace Page

variable {α β : Type} (page : Page)

/-- Some steps and others are done one after the other. -/
lemma writeAll_append (a b : List Step) : page.writeAll (a ++ b) = (page.writeAll a).writeAll b :=
  List.foldl_append

/-- The first steps find the same pages as without the others, and the others find those that the
first leave. -/
lemma run_append (step : α → Step) (a b : List α) :
    page.run step (a ++ b) = page.run step a ++ (page.writeAll (a.map step)).run step b := by
  induction a generalizing page with
  | nil => rfl
  | cons x rest ih => exact congrArg (_ :: ·) (ih (page.write (step x)))

/-- The pages that steps find do not depend on what the steps are done for. -/
lemma run_map (step : β → Step) (f : α → β) (xs : List α) :
    page.run step (xs.map f) = (page.run (step ∘ f) xs).map (Prod.map id f) := by
  induction xs generalizing page with
  | nil => rfl
  | cons x rest ih => exact congrArg (_ :: ·) (ih (page.write (step (f x))))

/-- The level of a page after steps. -/
lemma level_writeAll (steps : List Step) :
    (page.writeAll steps).level = levelAfter page.level steps := by
  induction steps generalizing page with
  | nil => rfl
  | cons s rest ih => cases s <;> exact ih _

/-- No step changes the indentation of one level. -/
lemma unit_writeAll (steps : List Step) : (page.writeAll steps).unit = page.unit := by
  induction steps generalizing page with
  | nil => rfl
  | cons s rest ih =>
    rw [writeAll, List.foldl_cons, ← writeAll, ih]
    cases s <;> rfl

/-- All pages that steps find have the same indentation of one level. -/
lemma unit_eq_of_mem_run {step : α → Step} {xs : List α} {found : Page × α}
    (h : found ∈ page.run step xs) : found.1.unit = page.unit := by
  induction xs generalizing page with
  | nil => cases h
  | cons x rest ih =>
    rcases List.mem_cons.1 h with rfl | h
    · rfl
    · rw [ih _ h]
      cases step x <;> rfl

end Page

variable {steps : List Step}

/-- Balanced steps come back to the level that they find. -/
lemma Balanced.level_writeAll (h : Balanced steps) (page : Page) :
    (page.writeAll steps).level = page.level := by
  rw [Page.level_writeAll, h.levelAfter_eq]

/-- Each of balanced steps finds the level of the first, or a deeper one, and a step back a deeper
one. -/
lemma Balanced.level_le (h : Balanced steps) (page : Page) :
    ∀ found ∈ page.run id steps, page.level ≤ found.1.level ∧
      (found.2 = .dedent → page.level < found.1.level) := by
  induction h generalizing page with
  | nil => exact List.forall_mem_nil _
  | line text => exact List.forall_mem_singleton.2 ⟨Nat.le_refl _, by simp⟩
  | blank => exact List.forall_mem_singleton.2 ⟨Nat.le_refl _, by simp⟩
  | append ha hb iha ihb =>
    rw [Page.run_append, List.map_id]
    refine List.forall_mem_append.2 ⟨iha page, fun found hfound => ?_⟩
    have hlater := ihb _ found hfound
    rwa [ha.level_writeAll] at hlater
  | block first last hinner ih =>
    rw [Layout.block, Page.run_append, Page.run_append, List.map_id, List.map_id,
      Page.writeAll_append]
    have hopen : (page.writeAll (opening first)).level = page.level + 1 := rfl
    have hclose : ((page.writeAll (opening first)).writeAll _).level = page.level + 1 :=
      hinner.level_writeAll _
    refine List.forall_mem_append.2 ⟨List.forall_mem_append.2 ⟨?_, fun found hfound => ?_⟩, ?_⟩
    · exact List.forall_mem_cons.2
        ⟨⟨Nat.le_refl _, by simp⟩, List.forall_mem_singleton.2 ⟨Nat.le_refl _, by simp⟩⟩
    · obtain ⟨hle, hlt⟩ := ih _ found hfound
      rw [hopen] at hle hlt
      exact ⟨by omega, fun hback => by have := hlt hback; omega⟩
    · generalize (page.writeAll (opening first)).writeAll _ = inside at hclose
      refine List.forall_mem_cons.2 ⟨⟨?_, fun _ => ?_⟩, List.forall_mem_singleton.2 ⟨?_, by simp⟩⟩
      · change page.level ≤ inside.level
        omega
      · change page.level < inside.level
        omega
      · change page.level ≤ inside.level - 1
        omega

/-- The indentation of a level begins with that of a level that is not as deep. -/
lemma indentation_prefix_of_le {k level : Nat} (h : k ≤ level) :
    indentation k <+: indentation level := by
  obtain ⟨more, rfl⟩ := Nat.exists_eq_add_of_le h
  rw [indentation, indentation, List.replicate_add, List.flatten_append]
  exact List.prefix_append _ _

/-- A step writes from the level that it finds on. -/
lemma writesFrom_of_le {page : Page} (hunit : page.unit = "  ") {k : Nat} (h : k ≤ page.level)
    (step : Step) : WritesFrom k page step := by
  obtain ⟨unit, level, text⟩ := page
  obtain rfl : unit = "  " := hunit
  have htext : ((Page.mk "  " level text).writeAll [step]).text.toList = text.toList ++
      (written level [step]).flatMap (fun line => line ++ ['\n']) := toList_text_writeAll text
  refine ⟨written level [step], htext, fun line hline => ⟨fun hmem => ?_, ?_⟩⟩
  · simpa using newline_not_mem_of_mem_written hline '\n' hmem
  · cases step with
    | line text =>
      rw [written, written, List.append_nil] at hline
      obtain ⟨piece, -, rfl⟩ := List.mem_map.1 hline
      rw [lineAt]
      split
      · exact Or.inl rfl
      · exact Or.inr ((indentation_prefix_of_le h).trans (List.prefix_append _ _))
    | blank => exact Or.inl (List.mem_singleton.1 hline)
    | indent => cases hline
    | dedent => cases hline

end TypedClient.Layout
