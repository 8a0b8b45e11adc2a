import Mathlib.Data.List.Perm.Subperm
import Mathlib.Data.List.Nodup
import Mathlib.Data.Nat.Init
import Mathlib.Logic.Function.Basic
import TypedClient.Naming

/-!
# The first free name

`Naming.firstFree` yields the first of the wanted name and its numbered forms that is not taken.
Among the first of pairwise different texts, as many as there are taken names and one more, one is
free (`exists_not_mem_of_injective`), and the forms are pairwise different (`numbered_injective`).

So one can also try the forms one after the other, without a bound on how many: the search ends, and
it ends with the same name (`finds_iff`).
-/

namespace TypedClient.Naming

/-- The forms of a wanted name are pairwise different. -/
lemma numbered_injective (wanted : String) : Function.Injective (numbered wanted) := by
  have hlong : ∀ k : Nat, wanted ≠ wanted ++ toString k := by
    intro k h
    have hlen := congrArg String.length h
    have hpos : 0 < (toString k).length := Nat.length_repr_pos
    rw [String.length_append] at hlen
    omega
  intro m n h
  cases m with
  | zero =>
    cases n with
    | zero => rfl
    | succ n => exact absurd h (hlong _)
  | succ m =>
    cases n with
    | zero => exact absurd h.symm (hlong _)
    | succ n =>
      -- Reading the digits gives the numbers back.
      have hrepr : Nat.repr (m + 2) = Nat.repr (n + 2) := (String.append_right_inj wanted).1 h
      have hdigits : Nat.toDigits 10 (m + 2) = Nat.toDigits 10 (n + 2) := by
        rw [← Nat.toList_repr, ← Nat.toList_repr, hrepr]
      have hvalue := congrArg (Nat.ofDigitChars 10 · 0) hdigits
      simpa using hvalue

/-- Among the first of pairwise different texts, one more than there are taken ones, one is free. -/
lemma exists_not_mem_of_injective {form : Nat → String} (hform : Function.Injective form)
    (taken : List String) : ∃ n < taken.length + 1, form n ∉ taken := by
  by_contra hall
  have hsub : (List.range (taken.length + 1)).map form ⊆ taken := by
    intro name hname
    obtain ⟨n, hn, rfl⟩ := List.mem_map.1 hname
    by_contra hfree
    exact hall ⟨n, List.mem_range.1 hn, hfree⟩
  have hnodup : ((List.range (taken.length + 1)).map form).Nodup := List.nodup_range.map hform
  have hlen := (List.subperm_of_subset hnodup hsub).length_le
  rw [List.length_map, List.length_range] at hlen
  omega

/-- The search among the first of pairwise different texts finds the first one that is free. -/
lemma exists_find?_eq_of_injective {form : Nat → String} (hform : Function.Injective form)
    (taken : List String) :
    ∃ n, ((List.range (taken.length + 1)).map form).find? (fun name => !taken.contains name) =
        some (form n) ∧
      form n ∉ taken ∧ ∀ m < n, form m ∈ taken := by
  let free : Nat → Bool := fun n => !taken.contains (form n)
  have hfind : ((List.range (taken.length + 1)).map form).find?
      (fun name => !taken.contains name) =
        ((List.range (taken.length + 1)).find? free).map form := by
    rw [List.find?_map]
    rfl
  cases hn : (List.range (taken.length + 1)).find? free with
  | none =>
    obtain ⟨n, hlt, hfree⟩ := exists_not_mem_of_injective hform taken
    have := List.find?_eq_none.1 hn n (List.mem_range.2 hlt)
    simp [free, hfree] at this
  | some n =>
    obtain ⟨hfree, -, hbefore⟩ := List.find?_range_eq_some.1 hn
    refine ⟨n, by rw [hfind, hn]; rfl, by simpa [free] using hfree, fun m hm => ?_⟩
    simpa [free] using hbefore m hm

/-- The first free name is the first form of the wanted name that is not taken. -/
lemma firstFree_spec (taken : List String) (wanted : String) :
    ∃ n, firstFree taken wanted = numbered wanted n ∧ numbered wanted n ∉ taken ∧
      ∀ m < n, numbered wanted m ∈ taken := by
  obtain ⟨n, hfind, hfree⟩ := exists_find?_eq_of_injective (numbered_injective wanted) taken
  exact ⟨n, by rw [firstFree, hfind]; rfl, hfree⟩

/-- The first free name is not taken. -/
lemma firstFree_not_mem (taken : List String) (wanted : String) :
    firstFree taken wanted ∉ taken := by
  obtain ⟨n, heq, hfree, -⟩ := firstFree_spec taken wanted
  rwa [heq]

/-! ## One name after the other -/

/-- The search for a free name that stands at `name`, and puts the number `next` behind the wanted
name if `name` is not free, ends with `found`. -/
inductive Finds (free : String → Prop) (wanted : String) :
    (next : Nat) → (name found : String) → Prop
  /-- A free name is the one that is looked for. -/
  | stop {next name} : free name → Finds free wanted next name name
  /-- After a name that is taken, the search goes on with the next number. -/
  | step {next name found} : ¬free name →
    Finds free wanted (next + 1) (wanted ++ toString next) found → Finds free wanted next name found

variable {free : String → Prop} {wanted name found found' : String}

/-- The search does not end with two names. -/
lemma Finds.unique {next : Nat} (h : Finds free wanted next name found)
    (h' : Finds free wanted next name found') : found' = found := by
  induction h with
  | stop hfree =>
    cases h' with
    | stop => rfl
    | step htaken => exact absurd hfree htaken
  | step htaken hrest ih =>
    cases h' with
    | stop hfree => exact absurd hfree htaken
    | step htaken hrest' => exact ih hrest'

/-- The search gets from a form of the wanted name to the first later one that is free. -/
lemma finds_numbered {n : Nat} (hn : free (numbered wanted n))
    (hbefore : ∀ m < n, ¬free (numbered wanted m)) {m : Nat} (hm : m ≤ n) :
    Finds free wanted (m + 2) (numbered wanted m) (numbered wanted n) := by
  induction hm using Nat.decreasingInduction with
  | self => exact .stop hn
  | of_succ m hlt ih => exact .step (hbefore m hlt) ih

/-- The search among all names that are not taken ends, and it ends with the first free name. -/
lemma finds_iff {taken : List String} :
    Finds (· ∉ taken) wanted 2 wanted found ↔ found = firstFree taken wanted := by
  obtain ⟨n, heq, hfree, hbefore⟩ := firstFree_spec taken wanted
  have hends : Finds (· ∉ taken) wanted 2 wanted (firstFree taken wanted) := by
    rw [heq]
    exact finds_numbered hfree (fun m hm => not_not_intro (hbefore m hm)) (Nat.zero_le n)
  constructor
  · exact hends.unique
  · rintro rfl
    exact hends

end TypedClient.Naming
