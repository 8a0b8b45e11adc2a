import Mathlib.Data.List.Basic
import Mathlib.Tactic.Lemma
import TypedClient.Files
import TypedClient.Proofs.Outcome

/-!
# What changes on the disk

A path leads through places to a last one, its target (`Files.target`, `Files.Passes`).  To follow
it succeeds if all places on the way are directories (`Files.walk_eq_ok_iff`).  To make the
directory that holds the target changes nothing but places on the way where nothing was
(`Files.adds_of_makeDirs`), and to write the file changes nothing but the target
(`Files.write_eq_ok`).  Together they store a file (`Files.Stored`).
-/

namespace TypedClient.Files

variable {files files' files'' : Files} {path : Path} {place start : Place}
  {steps : List Path.Step}

/-! ## Where a path leads -/

/-- The place that a path leads to, if it leads anywhere. -/
def target (files : Files) (path : Path) : Place := path.steps.foldl follow (files.start path)

/-- A path leads through a place on its way: some of its steps lead there, and more follow. -/
def Passes (files : Files) (path : Path) (place : Place) : Prop :=
  ∃ before after, path.steps = before ++ after ∧ after ≠ [] ∧
    before.foldl follow (files.start path) = place

/-- Where a path starts depends on the working directory alone. -/
lemma start_eq (h : files'.workingDirectory = files.workingDirectory) (path : Path) :
    files'.start path = files.start path := by
  rw [Files.start, Files.start, h]

/-- So does where it leads, ... -/
lemma target_eq (h : files'.workingDirectory = files.workingDirectory) (path : Path) :
    files'.target path = files.target path := by
  rw [target, target, start_eq h]

/-- ... and what it passes. -/
lemma passes_iff (h : files'.workingDirectory = files.workingDirectory) :
    files'.Passes path place ↔ files.Passes path place := by
  rw [Passes, Passes, start_eq h]

/-- Steps lead somewhere if and only if all places on the way are directories and all names are
short enough. -/
lemma walk_eq_ok_iff : files.walk start steps = .ok place ↔
    steps.foldl follow start = place ∧ (∀ step ∈ steps, isTooLong step = false) ∧
      ∀ before after, steps = before ++ after → after ≠ [] →
        files.node? (before.foldl follow start) = some .directory := by
  induction steps generalizing start with
  | nil =>
    rw [walk, List.foldl_nil, Except.ok.injEq]
    refine ⟨fun h => ⟨h, by simp, fun before after hsplit hafter => ?_⟩, fun h => h.1⟩
    exact absurd (List.append_eq_nil_iff.1 hsplit.symm).2 hafter
  | cons step rest ih =>
    rw [walk, List.foldl_cons, List.forall_mem_cons]
    constructor
    · intro h
      split at h
      · cases h
      · cases h
      · next hhere =>
        split at h
        · cases h
        · next hshort =>
          obtain ⟨hplace, hrest, hpasses⟩ := ih.1 h
          refine ⟨hplace, ⟨by simpa using hshort, hrest⟩, fun before after hsplit hafter => ?_⟩
          cases before with
          | nil => exact hhere
          | cons first before =>
            obtain ⟨rfl, hmore⟩ := List.cons.inj hsplit
            exact hpasses before after hmore hafter
    · rintro ⟨hplace, ⟨hshort, hrest⟩, hpasses⟩
      have hhere : files.node? start = some .directory := hpasses [] _ rfl (List.cons_ne_nil _ _)
      rw [hhere, hshort]
      refine ih.2 ⟨hplace, hrest, fun before after hsplit hafter => ?_⟩
      exact hpasses (step :: before) after (by rw [hsplit, List.cons_append]) hafter

/-- A path leads to its target, if it is not empty and leads through directories. -/
lemma locate_eq_ok_iff : files.locate path = .ok place ↔
    files.target path = place ∧ path.isEmpty = false ∧
      (∀ step ∈ path.steps, isTooLong step = false) ∧
      ∀ passed, files.Passes path passed → files.node? passed = some .directory := by
  have hpasses : (∀ passed, files.Passes path passed → files.node? passed = some .directory) ↔
      ∀ before after, path.steps = before ++ after → after ≠ [] →
        files.node? (before.foldl follow (files.start path)) = some .directory := by
    constructor
    · exact fun h before after hsplit hafter => h _ ⟨before, after, hsplit, hafter, rfl⟩
    · rintro h _ ⟨before, after, hsplit, hafter, rfl⟩
      exact h before after hsplit hafter
  rw [hpasses, target]
  unfold locate
  split
  · next hempty => simp [hempty]
  · next hempty =>
    rw [walk_eq_ok_iff]
    simp [hempty]

/-! ## Directories that are added -/

/-- Only directories are added, at places where nothing was and that have a property. -/
structure Adds (P : Place → Prop) (files files' : Files) : Prop where
  workingDirectory_eq : files'.workingDirectory = files.workingDirectory
  /-- What is different is a directory where nothing was. -/
  changed : ∀ place, files'.node? place ≠ files.node? place →
    P place ∧ files.node? place = none ∧ files'.node? place = some .directory

variable {P Q : Place → Prop}

/-- To change nothing adds nothing. -/
lemma adds_refl : Adds P files files := ⟨rfl, fun _ h => absurd rfl h⟩

/-- What is added to what has been added is added. -/
lemma Adds.trans (h : Adds P files files') (h' : Adds P files' files'') : Adds P files files'' := by
  refine ⟨h'.workingDirectory_eq.trans h.workingDirectory_eq, fun place hplace => ?_⟩
  by_cases hlater : files''.node? place = files'.node? place
  · rw [hlater] at hplace ⊢
    exact h.changed place hplace
  · obtain ⟨hP, hnone, hdirectory⟩ := h'.changed place hlater
    refine ⟨hP, ?_, hdirectory⟩
    by_contra hsome
    obtain ⟨-, hbefore, -⟩ := h.changed place fun heq => hsome (heq ▸ hnone)
    exact hsome hbefore

/-- What is added at places of one kind is added at places of every wider kind. -/
lemma Adds.mono (h : Adds P files files') (himp : ∀ place, P place → Q place) :
    Adds Q files files' :=
  ⟨h.workingDirectory_eq, fun place hplace => (h.changed place hplace).imp_left (himp place)⟩

/-- A place that is no directory afterwards is as it was before. -/
lemma Adds.node?_eq (h : Adds P files files') (hplace : files'.node? place ≠ some .directory) :
    files'.node? place = files.node? place := by
  by_contra hne
  exact hplace (h.changed place hne).2.2

/-- To make a directory adds it at the target. -/
lemma adds_of_makeDir (h : files.makeDir path = .ok files') :
    Adds (· = files.target path) files files' := by
  unfold makeDir at h
  obtain ⟨place, hlocate, h⟩ := Except.bind_eq_ok_iff.1 h
  obtain ⟨htarget, -⟩ := locate_eq_ok_iff.1 hlocate
  split at h
  · next hnone =>
    cases h
    refine ⟨rfl, fun other hother => ?_⟩
    by_cases heq : other = place
    · subst heq
      exact ⟨htarget.symm, hnone, if_pos rfl⟩
    · exact absurd (if_neg heq) hother
  · cases h

/-- To make a directory that may be there adds it at the target, if anything. -/
lemma adds_of_ensureDir (h : files.ensureDir path = .ok files') :
    Adds (· = files.target path) files files' := by
  unfold ensureDir at h
  split at h
  · next hmade =>
    cases h
    exact adds_of_makeDir hmade
  · split at h
    · cases h
      exact adds_refl
    · cases h

/-- To make the directories along steps adds them where the steps lead, one after the other. -/
lemma adds_of_makeDirsAlong {absolute : Bool} {steps : List Path.Step}
    (h : files.makeDirsAlong absolute steps = (files', .ok ())) :
    Adds (fun place => ∃ first rest, steps.reverse = first ++ rest ∧
      files.target ⟨absolute, first, false⟩ = place) files files' := by
  induction steps generalizing files' with
  | nil =>
    cases h
    exact adds_refl
  | cons step before ih =>
    have hself : ∀ place, place = files.target ⟨absolute, (step :: before).reverse, false⟩ →
        ∃ first rest, (step :: before).reverse = first ++ rest ∧
          files.target ⟨absolute, first, false⟩ = place :=
      fun place hplace => ⟨_, [], (List.append_nil _).symm, hplace.symm⟩
    rw [makeDirsAlong] at h
    split at h
    · next hmade =>
      cases h
      exact (adds_of_ensureDir hmade).mono hself
    · split at h
      · cases h
      · next mid hmid =>
        have hbefore := ih hmid
        split at h
        · next hmade =>
          cases h
          rw [List.reverse_cons]
          refine (hbefore.mono ?_).trans ((adds_of_ensureDir hmade).mono fun place hplace => ?_)
          · rintro place ⟨first, rest, hsplit, hplace⟩
            exact ⟨first, rest ++ [step], by rw [hsplit, List.append_assoc], hplace⟩
          · rw [target_eq hbefore.workingDirectory_eq] at hplace
            rw [← List.reverse_cons]
            exact hself place hplace
        · cases h
    · cases h

/-! ## The directory around -/

/-- Idle steps lead nowhere else. -/
lemma foldl_follow_filter (steps : List Path.Step) (start : Place) :
    (steps.filter (· != .stay)).foldl follow start = steps.foldl follow start := by
  induction steps generalizing start with
  | nil => rfl
  | cons step rest ih =>
    rw [List.filter_cons]
    split
    · rw [List.foldl_cons, List.foldl_cons, ih]
    · next hstay =>
      obtain rfl : step = .stay := by simpa using hstay
      rw [ih, List.foldl_cons, follow]

/-- What is cut off from the steps that are not idle is cut off from the steps. -/
lemma exists_split_of_filter {counted more : List Path.Step} (hmore : more ≠ [])
    (h : steps.filter (· != .stay) = counted ++ more) (start : Place) :
    ∃ before after, steps = before ++ after ∧ after ≠ [] ∧
      before.foldl follow start = counted.foldl follow start := by
  obtain ⟨before, after, rfl, rfl, rfl⟩ := List.filter_eq_append_iff.1 h
  refine ⟨before, after, rfl, ?_, (foldl_follow_filter before start).symm⟩
  rintro rfl
  exact hmore rfl

/-- What is cut off from the steps that count is cut off from the steps. -/
lemma exists_split_of_countedSteps {counted more : List Path.Step} (hmore : more ≠ [])
    (h : path.countedSteps = counted ++ more) (start : Place) :
    ∃ before after, path.steps = before ++ after ∧ after ≠ [] ∧
      before.foldl follow start = counted.foldl follow start := by
  unfold Path.countedSteps at h
  split at h
  · next rest hsteps =>
    have hrest : ∀ {others}, rest.filter (· != .stay) = others ++ more →
        ∃ before after, path.steps = before ++ after ∧ after ≠ [] ∧
          before.foldl follow start = others.foldl follow start := by
      intro others hothers
      obtain ⟨before, after, hsplit, hafter, hfold⟩ := exists_split_of_filter hmore hothers start
      refine ⟨.stay :: before, after, ?_, hafter, hfold⟩
      rw [hsteps, hsplit, List.cons_append]
    dsimp only at h
    split at h
    · exact hrest h
    · cases counted with
      | nil => exact ⟨[], path.steps, rfl, by rw [hsteps]; exact List.cons_ne_nil _ _, rfl⟩
      | cons first others =>
        obtain ⟨rfl, hothers⟩ := List.cons.inj h
        have hsplit := hrest hothers
        exact hsplit
  · exact exists_split_of_filter hmore h start

/-- A path passes the directory that is cut off from it, and the places on the way there. -/
lemma passes_of_parent {parent : Path} {first rest : List Path.Step}
    (hparent : path.parent? = some parent) (hsplit : parent.steps = first ++ rest) :
    files.Passes path (files.target ⟨parent.absolute, first, false⟩) := by
  unfold Path.parent? at hparent
  dsimp only at hparent
  split at hparent
  · cases hparent
  · next hsome =>
    cases hparent
    have hcounted : path.countedSteps ≠ [] := by
      intro hnil
      simp [hnil] at hsome
    have hlast := List.dropLast_append_getLast hcounted
    change path.countedSteps.dropLast = first ++ rest at hsplit
    rw [hsplit, List.append_assoc] at hlast
    exact exists_split_of_countedSteps (by simp) hlast.symm (files.start path)

/-- To make the directory around the target of a path adds it and those on the way to it. -/
lemma adds_of_makeDirs {parent : Path} (hparent : path.parent? = some parent)
    (h : files.makeDirs parent = (files', .ok ())) : Adds (files.Passes path) files files' := by
  refine (adds_of_makeDirsAlong h).mono ?_
  rintro _ ⟨first, rest, hsplit, rfl⟩
  rw [List.reverse_reverse] at hsplit
  exact passes_of_parent hparent hsplit

/-! ## The file -/

/-- To write a file puts it at the target of the path. -/
lemma write_eq_ok {content : List UInt8} (h : files.write path content = .ok files') :
    files.locate path = .ok (files.target path) ∧ path.slash = false ∧
      files.node? (files.target path) ≠ some .directory ∧
      files' = files.put (files.target path) (.file content) := by
  unfold write at h
  obtain ⟨place, hlocate, h⟩ := Except.bind_eq_ok_iff.1 h
  obtain ⟨rfl, -⟩ := locate_eq_ok_iff.1 hlocate
  split at h
  · cases h
  · next hslash =>
    split at h
    · cases h
    · next hnode =>
      cases h
      exact ⟨hlocate, by simpa using hslash, hnode, rfl⟩

/-- What has been written is read. -/
lemma read_eq_of_write {content : List UInt8} (h : files.write path content = .ok files') :
    files'.read path = .ok content := by
  obtain ⟨hlocate, hslash, hnode, rfl⟩ := write_eq_ok h
  have htarget : (files.put (files.target path) (.file content)).node? (files.target path) =
      some (.file content) := if_pos rfl
  obtain ⟨-, hempty, hshort, hpasses⟩ := locate_eq_ok_iff.1 hlocate
  have hlocate' : (files.put (files.target path) (.file content)).locate path =
      .ok (files.target path) := by
    refine locate_eq_ok_iff.2 ⟨target_eq rfl path, hempty, hshort, fun passed hpassed => ?_⟩
    have hdirectory := hpasses passed ((passes_iff rfl).1 hpassed)
    have hne : passed ≠ files.target path := by
      rintro rfl
      exact hnode hdirectory
    exact (if_neg hne).trans hdirectory
  rw [read, hlocate', Except.bind, htarget, hslash]
  rfl

/-- A file is stored under a path: it can be read there, and nothing else is different but that the
directories on the way to it are there. -/
structure Stored (files files' : Files) (path : Path) (content : List UInt8) : Prop where
  workingDirectory_eq : files'.workingDirectory = files.workingDirectory
  /-- The path leads to the content. -/
  read_eq : files'.read path = .ok content
  /-- The content lies at the target. -/
  node?_target : files'.node? (files.target path) = some (.file content)
  /-- No directory was there. -/
  target_ne : files.node? (files.target path) ≠ some .directory
  /-- Whatever else is different is a directory on the way where nothing was. -/
  elsewhere : ∀ place, place ≠ files.target path → files'.node? place ≠ files.node? place →
    files.Passes path place ∧ files.node? place = none ∧ files'.node? place = some .directory

/-- To write a file where directories may have been added stores it. -/
lemma Adds.stored {content : List UInt8} (h : Adds (files.Passes path) files files')
    (hwrite : files'.write path content = .ok files'') : Stored files files'' path content := by
  have hread := read_eq_of_write hwrite
  obtain ⟨-, -, hnode, rfl⟩ := write_eq_ok hwrite
  rw [target_eq h.workingDirectory_eq path] at hnode hread ⊢
  have hput : ∀ place, place ≠ files.target path →
      (files'.put (files.target path) (.file content)).node? place = files'.node? place :=
    fun place hplace => if_neg hplace
  constructor
  case workingDirectory_eq => exact h.workingDirectory_eq
  case read_eq => exact hread
  case node?_target => exact if_pos rfl
  case target_ne => rwa [← h.node?_eq hnode]
  case elsewhere =>
    intro place hplace hchanged
    rw [hput place hplace] at hchanged ⊢
    exact h.changed place hchanged

end TypedClient.Files
