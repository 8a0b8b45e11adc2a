import Mathlib.Data.List.TakeWhile
import Mathlib.Tactic.Lemma

/-!
# Codes

Things that are written one behind the other can be told apart if each of them can, and if none of
them begins like what stands behind the last one (`map_eq_of_flatMap_append`).  How much of a thing
its code preserves is left open: the things are compared by what a function makes of them.
-/

namespace TypedClient.Text

variable {α β γ : Type}

/-- A list that is not too short has a first and a second element. -/
lemma exists_cons_cons {xs : List α} (h : 2 ≤ xs.length) :
    ∃ first second rest, xs = first :: second :: rest := by
  obtain _ | ⟨first, _ | ⟨second, rest⟩⟩ := xs
  · simp at h
  · simp at h
  · exact ⟨first, second, rest, rfl⟩

/-- Two lists of things that are written alike, up to a place where the writing stops, are alike,
and so is what stands behind them.  The codes need to be told apart only in front of texts that can
follow a code. -/
lemma map_eq_of_flatMap_append {code : α → List β} (normal : α → γ) (Stop Follow : List β → Prop)
    {as bs : List α} {rest rest' : List β}
    (hcode : ∀ a ∈ as, ∀ b ∈ bs, ∀ r r', Follow r → Follow r' → code a ++ r = code b ++ r' →
      normal a = normal b ∧ r = r')
    (hcontinue : ∀ a r, Follow (code a ++ r)) (hend : ∀ r, Stop r → Follow r)
    (hapart : ∀ a r, ¬Stop (code a ++ r)) (hrest : Stop rest) (hrest' : Stop rest')
    (h : as.flatMap code ++ rest = bs.flatMap code ++ rest') :
    as.map normal = bs.map normal ∧ rest = rest' := by
  have hfollow : ∀ (xs : List α) {r : List β}, Stop r → Follow (xs.flatMap code ++ r) := by
    intro xs r hr
    cases xs with
    | nil => exact hend r hr
    | cons x xs =>
      rw [List.flatMap_cons, List.append_assoc]
      exact hcontinue x _
  induction as generalizing bs with
  | nil =>
    cases bs with
    | nil => exact ⟨rfl, h⟩
    | cons b bs =>
      rw [List.flatMap_nil, List.nil_append, List.flatMap_cons, List.append_assoc] at h
      exact absurd (h ▸ hrest) (hapart b _)
  | cons a as ih =>
    cases bs with
    | nil =>
      rw [List.flatMap_nil, List.nil_append, List.flatMap_cons, List.append_assoc] at h
      exact absurd (h.symm ▸ hrest') (hapart a _)
    | cons b bs =>
      rw [List.flatMap_cons, List.append_assoc, List.flatMap_cons, List.append_assoc] at h
      obtain ⟨hfirst, hmore⟩ := hcode a List.mem_cons_self b List.mem_cons_self _ _
        (hfollow as hrest) (hfollow bs hrest') h
      have hcode' : ∀ a ∈ as, ∀ b ∈ bs, ∀ r r', Follow r → Follow r' →
          code a ++ r = code b ++ r' → normal a = normal b ∧ r = r' := fun a ha b hb =>
        hcode a (List.mem_cons_of_mem _ ha) b (List.mem_cons_of_mem _ hb)
      obtain ⟨hlist, hsame⟩ := ih hcode' hmore
      exact ⟨by rw [List.map_cons, List.map_cons, hfirst, hlist], hsame⟩

/-- Two stretches of elements of a class are the same, if what follows them is the end or begins
with an element outside the class. -/
lemma eq_and_eq_of_append_eq {p : α → Bool} {a b rest rest' : List α} (ha : ∀ c ∈ a, p c = true)
    (hb : ∀ c ∈ b, p c = true) (hrest : ∀ c ∈ rest.head?, p c = false)
    (hrest' : ∀ c ∈ rest'.head?, p c = false) (h : a ++ rest = b ++ rest') :
    a = b ∧ rest = rest' := by
  have hstretch : ∀ {xs r : List α}, (∀ c ∈ xs, p c = true) → (∀ c ∈ r.head?, p c = false) →
      (xs ++ r).takeWhile p = xs := by
    intro xs r hxs hr
    rw [List.takeWhile_append_of_pos hxs]
    cases r with
    | nil => rw [List.takeWhile_nil, List.append_nil]
    | cons c r => rw [List.takeWhile_cons, hr c rfl, if_neg Bool.false_ne_true, List.append_nil]
  have hsame : a = b := by
    rw [← hstretch ha hrest, h, hstretch hb hrest']
  subst hsame
  exact ⟨rfl, List.append_cancel_left h⟩

/-- Two stretches without an element are the same, if the element follows them. -/
lemma eq_and_eq_of_append_cons [DecidableEq α] {a b rest rest' : List α} {c : α} (ha : c ∉ a)
    (hb : c ∉ b) (h : a ++ c :: rest = b ++ c :: rest') : a = b ∧ rest = rest' := by
  have hother : ∀ {xs : List α}, c ∉ xs → ∀ x ∈ xs, (x != c) = true := by
    intro xs hxs x hx
    rw [bne_iff_ne]
    rintro rfl
    exact hxs hx
  have hhead : ∀ r : List α, ∀ x ∈ (c :: r).head?, (x != c) = false := by
    intro r x hx
    obtain rfl := Option.some_inj.1 hx
    rw [bne_self_eq_false]
  obtain ⟨hsame, hrest⟩ :=
    eq_and_eq_of_append_eq (hother ha) (hother hb) (hhead rest) (hhead rest') h
  exact ⟨hsame, (List.cons.inj hrest).2⟩

end TypedClient.Text
