import Mathlib
import TypedClient.Proofs.Url.Parts

/-!
# Addresses that spell out their slashes

An address of the web need not have two slashes behind its scheme.  If a text has them
(`Url.OpensWith`), its scheme is the one that it begins with, and it is an address unless there is
something wrong with its host or its port (`Url.scheme_of_opensWith`).
-/

namespace TypedClient.Url

/-- A text begins with a scheme, in any letter case, a colon and two slashes. -/
def OpensWith (scheme : String) (text : List Char) : Prop :=
  ∃ name rest, text = name ++ "://".toList ++ rest ∧ String.ofList (name.map Char.toLower) = scheme

variable {scheme : String} {text : List Char}

/-- Only a letter becomes another character in lower case. -/
lemma eq_of_toLower_eq {c d : Char} (h : c.toLower = d) (hd : d.isAlpha = false) : c = d := by
  have hc : c.isAlpha = false := by rw [← Char.isAlpha_toLower_eq_isAlpha, h, hd]
  have hupper : ¬c.isUpper = true := by
    intro hupper
    rw [Char.isAlpha, hupper] at hc
    cases hc
  rw [← h, Char.toLower_eq_of_not_isUpper hupper]

/-- A text begins with a scheme, a colon and two slashes if and only if it does in lower case. -/
lemma prefix_map_toLower_iff :
    scheme.toList ++ "://".toList <+: text.map Char.toLower ↔ OpensWith scheme text := by
  constructor
  · rintro ⟨low, hlow⟩
    obtain ⟨start, rest, rfl, hstart, -⟩ := List.map_eq_append_iff.1 hlow.symm
    obtain ⟨name, marks, rfl, hname, hmarks⟩ := List.map_eq_append_iff.1 hstart
    have hself : marks = "://".toList := by
      obtain ⟨colon, marks, rfl, hcolon, hmarks⟩ := List.map_eq_cons_iff.1 hmarks
      obtain ⟨first, marks, rfl, hfirst, hmarks⟩ := List.map_eq_cons_iff.1 hmarks
      obtain ⟨second, marks, rfl, hsecond, hmarks⟩ := List.map_eq_cons_iff.1 hmarks
      rw [List.map_eq_nil_iff.1 hmarks, eq_of_toLower_eq hcolon (by decide),
        eq_of_toLower_eq hfirst (by decide), eq_of_toLower_eq hsecond (by decide)]
      rfl
    exact ⟨name, rest, by rw [hself], by rw [hname, String.ofList_toList]⟩
  · rintro ⟨name, rest, rfl, rfl⟩
    refine ⟨rest.map Char.toLower, ?_⟩
    rw [List.map_append, List.map_append, String.toList_ofList]
    rfl

/-- A letter counts. -/
lemma isOuter_eq_false_of_isAlpha {c : Char} (h : c.isAlpha = true) : isOuter c = false := by
  simp only [Char.isAlpha, Char.isUpper, Char.isLower, Bool.or_eq_true, Bool.and_eq_true,
    decide_eq_true_eq, UInt32.le_iff_toNat_le, ge_iff_le] at h
  change (65 ≤ c.toNat ∧ c.toNat ≤ 90) ∨ (97 ≤ c.toNat ∧ c.toNat ≤ 122) at h
  simp only [isOuter, decide_eq_false_iff_not]
  omega

/-- The characters that spell a scheme of the web are letters. -/
lemma isAlpha_of_web (hweb : scheme = "http" ∨ scheme = "https") {name : List Char}
    (hname : String.ofList (name.map Char.toLower) = scheme) :
    name ≠ [] ∧ ∀ c ∈ name, c.isAlpha = true := by
  have hletters : scheme.toList ≠ [] ∧ scheme.toList.all Char.isAlpha = true := by
    rcases hweb with rfl | rfl <;> decide
  rw [← hname, String.toList_ofList, List.all_eq_true] at hletters
  obtain ⟨hne, hletters⟩ := hletters
  refine ⟨fun hnil => hne (by rw [hnil]; rfl), fun c hc => ?_⟩
  rw [← Char.isAlpha_toLower_eq_isAlpha]
  exact hletters _ (List.mem_map_of_mem hc)

/-- The scheme of a text that begins with one of the web and two slashes. -/
lemma OpensWith.cutScheme? (h : OpensWith scheme text) (hweb : scheme = "http" ∨ scheme = "https") :
    ∃ rest, Url.cutScheme? text = some (scheme, '/' :: '/' :: rest) := by
  obtain ⟨name, rest, rfl, hname⟩ := h
  obtain ⟨hne, hletters⟩ := isAlpha_of_web hweb hname
  have hchars : ∀ c ∈ name, isSchemeChar c = true := by
    intro c hc
    rw [isSchemeChar, Char.isAlphanum, hletters c hc]
    rfl
  obtain ⟨c, more, rfl⟩ := List.exists_cons_of_ne_nil hne
  refine ⟨rest, ?_⟩
  rw [List.append_assoc, ← hname]
  exact cutScheme?_append hchars (hletters c List.mem_cons_self)

/-- The beginning with a scheme of the web and two slashes counts. -/
lemma OpensWith.clean (h : OpensWith scheme text) (hweb : scheme = "http" ∨ scheme = "https") :
    OpensWith scheme (Url.clean text) := by
  obtain ⟨name, rest, rfl, hname⟩ := h
  obtain ⟨-, hletters⟩ := isAlpha_of_web hweb hname
  have hmarks : ∀ c ∈ "://".toList, isOuter c = false := by simp [isOuter]
  have hcount : ∀ c ∈ name ++ "://".toList, isOuter c = false := by
    intro c hc
    rcases List.mem_append.1 hc with hc | hc
    · exact isOuter_eq_false_of_isAlpha (hletters c hc)
    · exact hmarks c hc
  obtain ⟨more, hmore⟩ := exists_clean_append (b := rest) (by simp) hcount
  exact ⟨name, more, hmore, hname⟩

/-! ## Checks of the host -/

/-- A host is not what a missing scheme is reported for. -/
lemma checkHost_ne_noScheme (host : List Char) : checkHost host ≠ .error .noScheme := by
  unfold checkHost checkBrackets
  repeat' split
  all_goals simp

/-- Nor is a port. -/
lemma checkPort_ne_noScheme (rest : List Char) : checkPort rest ≠ .error .noScheme := by
  unfold checkPort
  repeat' split
  all_goals simp

/-- Nor is a host with a port. -/
lemma checkHostAndPort_ne_noScheme (user : Bool) (text : List Char) :
    checkHostAndPort true user text ≠ .error .noScheme := by
  unfold checkHostAndPort
  dsimp only
  split
  · simp
  · intro h
    rcases Except.bind_eq_error_iff.1 h with h | ⟨_, -, h⟩
    · exact checkHost_ne_noScheme _ h
    · exact checkPort_ne_noScheme _ h

/-- What follows the slashes of an address is not what a missing scheme is reported for. -/
lemma checkAuthority_ne_noScheme (text : List Char) :
    checkAuthority true text ≠ .error .noScheme := by
  unfold checkAuthority
  split
  · exact checkHostAndPort_ne_noScheme _ _
  · dsimp only
    split
    · simp
    · exact checkHostAndPort_ne_noScheme _ _

/-- A text that begins with a scheme of the web and two slashes has this scheme, unless its host or
its port is wrong. -/
lemma scheme_of_opensWith (h : OpensWith scheme text) (hweb : scheme = "http" ∨ scheme = "https") :
    Url.scheme text = .ok scheme ∨ ∃ flaw, flaw ≠ .noScheme ∧ Url.scheme text = .error flaw := by
  obtain ⟨rest, hcut⟩ := (h.clean hweb).cutScheme? hweb
  rw [scheme_of_cutScheme? hweb hcut]
  cases hcheck : checkAuthority true (('/' :: '/' :: rest).dropWhile isSlash) with
  | ok _ => exact Or.inl rfl
  | error flaw =>
    refine Or.inr ⟨flaw, ?_, rfl⟩
    rintro rfl
    exact checkAuthority_ne_noScheme _ hcheck

end TypedClient.Url
