import Mathlib.Data.List.TakeWhile
import Mathlib.Tactic.Lemma
import TypedClient.Proofs.Outcome
import TypedClient.Url.Absolute

/-!
# The parts of an address

An address whose scheme is special consists of the scheme, the text that names the user, the host
and the port, the path, and what follows the path: the query and the fragment (`Url.parts?`).

A text is the beginning of many addresses.  If it goes as far as the host (`Url.NamesHost`), the
scheme and the host are settled unless the text behind it goes on with them.  A text that begins
with a slash does not: it becomes path, up to its own first mark of a query or a fragment, provided
that the beginning has no such mark (`Url.NamesHost.parts?_append`).
-/

namespace TypedClient.Url

/-! ## Characters that do not count -/

/-- Whether a character does not count at the ends of an address. -/
def isOuter (c : Char) : Bool := decide (c.toNat ≤ 0x20)

/-- Whether a character does not count anywhere in an address. -/
def isIgnored (c : Char) : Bool := c == '\t' || c == '\n' || c == '\r'

/-- A text without the characters that do not count if an address begins with it and goes on. -/
def cleanStart (text : List Char) : List Char := (text.dropWhile isOuter).filter (!isIgnored ·)

/-- A text without the characters that do not count if an address ends with it. -/
def cleanEnd (text : List Char) : List Char :=
  (text.reverse.dropWhile isOuter).reverse.filter (!isIgnored ·)

/-- What counts of a text by itself is the beginning of what counts of it as a beginning. -/
lemma exists_cleanStart_eq (text : List Char) : ∃ rest, cleanStart text = clean text ++ rest := by
  have hsplit : text.dropWhile isOuter =
      ((text.dropWhile isOuter).reverse.dropWhile isOuter).reverse ++
        ((text.dropWhile isOuter).reverse.takeWhile isOuter).reverse := by
    rw [← List.reverse_append, List.takeWhile_append_dropWhile, List.reverse_reverse]
  refine ⟨((text.dropWhile isOuter).reverse.takeWhile isOuter).reverse.filter (!isIgnored ·), ?_⟩
  calc cleanStart text
      = (((text.dropWhile isOuter).reverse.dropWhile isOuter).reverse ++
          ((text.dropWhile isOuter).reverse.takeWhile isOuter).reverse).filter
            (!isIgnored ·) := by rw [← hsplit, cleanStart]
    _ = clean text ++ _ := List.filter_append _ _

variable {a b text : List Char}

/-- What does not count anywhere does not count at the ends. -/
lemma isOuter_of_isIgnored {c : Char} (h : isIgnored c = true) : isOuter c = true := by
  simp only [isIgnored, Bool.or_eq_true, beq_iff_eq] at h
  rcases h with (rfl | rfl) | rfl <;> decide

/-- If some first characters of a text all count, then they are the beginning of what counts of it.
-/
lemma exists_clean_append (hne : a ≠ []) (ha : ∀ c ∈ a, isOuter c = false) :
    ∃ rest, clean (a ++ b) = a ++ rest := by
  have hfilter : a.filter (!isIgnored ·) = a := by
    refine List.filter_eq_self.2 fun c hc => ?_
    cases hignored : isIgnored c with
    | false => rfl
    | true =>
      have hout := ha c hc
      rw [isOuter_of_isIgnored hignored] at hout
      cases hout
  have hstart : (a ++ b).dropWhile isOuter = a ++ b := by
    obtain ⟨c, more, rfl⟩ := List.exists_cons_of_ne_nil hne
    rw [List.cons_append, List.dropWhile_cons_of_neg (by simp [ha c List.mem_cons_self])]
  have hend : a.reverse.dropWhile isOuter = a.reverse := by
    rw [List.dropWhile_eq_self_iff]
    intro hlength hout
    rw [ha _ (List.mem_reverse.1 (List.getElem_mem hlength))] at hout
    cases hout
  have hclean : clean (a ++ b) =
      (((a ++ b).dropWhile isOuter).reverse.dropWhile isOuter).reverse.filter (!isIgnored ·) := rfl
  rw [hclean, hstart, List.reverse_append, List.dropWhile_append]
  split
  · refine ⟨[], ?_⟩
    rw [hend, List.reverse_reverse, hfilter, List.append_nil]
  · refine ⟨(b.reverse.dropWhile isOuter).reverse.filter (!isIgnored ·), ?_⟩
    rw [List.reverse_append, List.reverse_reverse, List.filter_append, hfilter]

/-- If some character of a text counts even at its ends, then all that follows it is kept. -/
lemma cleanStart_append (ha : a.dropWhile isOuter ≠ []) :
    cleanStart (a ++ b) = cleanStart a ++ b.filter (!isIgnored ·) := by
  have hempty : (a.dropWhile isOuter).isEmpty = false := List.isEmpty_eq_false_iff.2 ha
  rw [cleanStart, List.dropWhile_append, hempty, if_neg Bool.false_ne_true, List.filter_append]
  rfl

/-- What counts of two texts that make an address together, if some character of each counts. -/
lemma clean_append (ha : a.dropWhile isOuter ≠ []) (hb : b.reverse.dropWhile isOuter ≠ []) :
    clean (a ++ b) = cleanStart a ++ cleanEnd b := by
  have hstart : (a.dropWhile isOuter).isEmpty = false := List.isEmpty_eq_false_iff.2 ha
  have hend : (b.reverse.dropWhile isOuter).isEmpty = false := List.isEmpty_eq_false_iff.2 hb
  have hclean : clean (a ++ b) =
      (((a ++ b).dropWhile isOuter).reverse.dropWhile isOuter).reverse.filter (!isIgnored ·) := rfl
  rw [hclean, List.dropWhile_append, hstart, if_neg Bool.false_ne_true, List.reverse_append,
    List.dropWhile_append, hend, if_neg Bool.false_ne_true, List.reverse_append,
    List.reverse_reverse, List.filter_append]
  rfl

/-- A text that begins with a slash still does without the characters that do not count. -/
lemma head?_cleanEnd_of_slash (h : b.head? = some '/') :
    b.reverse.dropWhile isOuter ≠ [] ∧ (cleanEnd b).head? = some '/' := by
  obtain ⟨rest, rfl⟩ := List.head?_eq_some_iff.1 h
  have hslash : isOuter '/' = false := by decide
  have hdrop : ('/' :: rest).reverse.dropWhile isOuter =
      rest.reverse.dropWhile isOuter ++ ['/'] := by
    rw [List.reverse_cons, List.dropWhile_append]
    split
    · next hempty =>
      rw [List.isEmpty_iff.1 hempty, List.dropWhile_cons_of_neg (by simp [hslash])]
      rfl
    · rfl
  constructor
  · rw [hdrop]
    exact List.append_ne_nil_of_right_ne_nil _ (List.cons_ne_nil _ _)
  · rw [cleanEnd, hdrop, List.reverse_append, List.reverse_singleton, List.singleton_append,
      List.filter_cons_of_pos (by decide)]
    rfl

/-! ## Parts -/

/-- The parts of an address with a special scheme. -/
structure Parts where
  /-- The scheme, in lower case. -/
  scheme : String
  /-- The user, the host and the port. -/
  authority : List Char
  /-- The path. -/
  path : List Char
  /-- The query and the fragment, with the marks that they begin with. -/
  further : List Char

/-- Whether a character is a slash in an address with a special scheme. -/
def isSlash (c : Char) : Bool := c == '/' || c == '\\'

/-- Whether a character is the mark of a query or a fragment. -/
def endsPath (c : Char) : Bool := c == '?' || c == '#'

/-- The parts of what follows the slashes of an address. -/
def Parts.ofBody (scheme : String) (body : List Char) : Parts where
  scheme := scheme
  authority := body.takeWhile (!endsAuthority true ·)
  path := (body.dropWhile (!endsAuthority true ·)).takeWhile (!endsPath ·)
  further := (body.dropWhile (!endsAuthority true ·)).dropWhile (!endsPath ·)

/-- The parts of an address with a special scheme, of which all characters count. -/
def parts? (text : List Char) : Option Parts :=
  (cutScheme? text).map fun (scheme, rest) => .ofBody scheme (rest.dropWhile isSlash)

/-- Whether a character may stand in a scheme. -/
def isSchemeChar (c : Char) : Bool := c.isAlphanum || c == '+' || c == '-' || c == '.'

/-- A scheme ends at the first colon behind its characters. -/
lemma cutScheme?_append {name rest : List Char} (hname : ∀ c ∈ name, isSchemeChar c = true)
    (halpha : name.head?.any Char.isAlpha = true) :
    cutScheme? (name ++ ':' :: rest) = some (String.ofList (name.map Char.toLower), rest) := by
  have htake : (name ++ ':' :: rest).takeWhile isSchemeChar = name := by
    rw [List.takeWhile_append_of_pos hname, List.takeWhile_cons_of_neg (by decide),
      List.append_nil]
  have hdrop : (name ++ ':' :: rest).dropWhile isSchemeChar = ':' :: rest := by
    rw [List.dropWhile_append_of_pos hname, List.dropWhile_cons_of_neg (by decide)]
  unfold isSchemeChar at htake hdrop
  unfold cutScheme?
  dsimp only
  rw [hdrop, htake]
  exact if_pos halpha

/-- What has a scheme consists of it, a colon and the rest. -/
lemma exists_of_cutScheme? {scheme : String} {rest : List Char}
    (h : cutScheme? text = some (scheme, rest)) :
    ∃ name, text = name ++ ':' :: rest ∧ (∀ c ∈ name, isSchemeChar c = true) ∧
      name.head?.any Char.isAlpha = true ∧ String.ofList (name.map Char.toLower) = scheme := by
  have hsplit := List.takeWhile_append_dropWhile (p := isSchemeChar) (l := text)
  unfold cutScheme? at h
  dsimp only at h
  split at h
  · next rest' hdrop =>
    split at h
    · next halpha =>
      obtain ⟨hscheme, hrest⟩ := Prod.mk.inj (Option.some_inj.1 h)
      subst hrest
      refine ⟨text.takeWhile isSchemeChar, ?_, fun c hc => List.mem_takeWhile_imp hc, halpha,
        hscheme⟩
      exact hsplit.symm.trans (congrArg (_ ++ ·) hdrop)
    · cases h
  · cases h

/-! ## Beginnings -/

/-- A text goes as far as the host of an address with a scheme: the scheme, a colon, slashes, and a
character of the host or the user at least. -/
inductive NamesHost (scheme : String) : List Char → Prop where
  | intro {name slashes : List Char} {c : Char} {more : List Char}
    (hname : ∀ c ∈ name, isSchemeChar c = true) (halpha : name.head?.any Char.isAlpha = true)
    (hscheme : String.ofList (name.map Char.toLower) = scheme)
    (hslashes : ∀ c ∈ slashes, isSlash c = true) (hc : endsAuthority true c = false) :
    NamesHost scheme (name ++ ':' :: (slashes ++ c :: more))

/-- A slash is no part of an authority. -/
lemma endsAuthority_of_isSlash {c : Char} (h : isSlash c = true) : endsAuthority true c = true := by
  rcases Bool.or_eq_true_iff.1 h with h | h <;> simp [endsAuthority, h]

namespace NamesHost

variable {scheme : String}

/-- A text that goes as far as the host still does if it goes on. -/
lemma append (h : NamesHost scheme a) (b : List Char) : NamesHost scheme (a ++ b) := by
  cases h with
  | intro hname halpha hscheme hslashes hc =>
    rw [List.append_assoc, List.cons_append, List.append_assoc, List.cons_append]
    exact .intro hname halpha hscheme hslashes hc

/-- A text that goes as far as the host still does without slashes at its end. -/
lemma of_append_slashes (h : NamesHost scheme (a ++ b)) (hb : ∀ c ∈ b, c = '/') :
    NamesHost scheme a := by
  generalize htext : a ++ b = text at h
  cases h with
  | @intro name slashes c more hname halpha hscheme hslashes hc =>
    have hend : name ++ ':' :: (slashes ++ c :: more) =
        (name ++ ':' :: (slashes ++ [c])) ++ more := by simp
    have hself : NamesHost scheme (name ++ ':' :: (slashes ++ [c])) :=
      .intro hname halpha hscheme hslashes hc
    rw [hend] at htext
    rcases List.append_eq_append_iff.1 htext with ⟨mid, hmid, hrest⟩ | ⟨mid, hmid, -⟩
    · -- The character of the host would be one of the slashes.
      rcases List.eq_nil_or_concat mid with rfl | ⟨mid, d, rfl⟩
      · rw [List.append_nil] at hmid
        rw [← hmid]
        exact hself
      · have hlast : some c = some d := by
          simpa [List.getLast?_cons] using congrArg List.getLast? hmid
        obtain rfl := Option.some_inj.1 hlast
        have hslash : c = '/' := hb c (by rw [hrest]; simp)
        rw [hslash] at hc
        cases hc
    · rw [hmid]
      exact hself.append mid

/-- The parts of a text that goes as far as the host. -/
lemma exists_body (h : NamesHost scheme text) :
    ∃ lead body, text = lead ++ body ∧
      (∃ c rest, body = c :: rest ∧ endsAuthority true c = false) ∧
      ∀ b, parts? (text ++ b) = some (.ofBody scheme (body ++ b)) := by
  cases h with
  | @intro name slashes c more hname halpha hscheme hslashes hc =>
    refine ⟨name ++ ':' :: slashes, c :: more, by simp, ⟨c, more, rfl, hc⟩, fun b => ?_⟩
    have hslash : isSlash c = false := by
      cases hc' : isSlash c with
      | false => rfl
      | true =>
        rw [endsAuthority_of_isSlash hc'] at hc
        cases hc
    have hbody : (slashes ++ c :: (more ++ b)).dropWhile isSlash = c :: (more ++ b) := by
      rw [List.dropWhile_append_of_pos hslashes, List.dropWhile_cons_of_neg (by simp [hslash])]
    rw [List.append_assoc, List.cons_append, List.append_assoc, List.cons_append, parts?,
      cutScheme?_append hname halpha, Option.map_some, hscheme]
    exact congrArg (fun body => some (Parts.ofBody scheme body)) hbody

/-- If a text that goes as far as the host has no mark of a query or a fragment, then a text behind
it that begins with a slash leaves scheme and host as they are, and goes on with the path up to its
own first mark. -/
lemma parts?_append (h : NamesHost scheme a) (ha : ∀ c ∈ a, endsPath c = false)
    (hb : b.head? = some '/') :
    ∃ p, parts? a = some p ∧ p.scheme = scheme ∧ p.authority ≠ [] ∧ p.further = [] ∧
      parts? (a ++ b) = some { p with
        path := p.path ++ b.takeWhile (!endsPath ·)
        further := b.dropWhile (!endsPath ·) } := by
  obtain ⟨lead, body, rfl, ⟨c, rest, hbody, hc⟩, hparts⟩ := h.exists_body
  obtain ⟨b', rfl⟩ := List.head?_eq_some_iff.1 hb
  have hself : parts? (lead ++ body) = some (.ofBody scheme body) := by
    have hnil := hparts []
    rwa [List.append_nil, List.append_nil] at hnil
  -- The slash ends what was left of the authority.
  have htake : (body ++ '/' :: b').takeWhile (!endsAuthority true ·) =
      body.takeWhile (!endsAuthority true ·) := by
    rw [List.takeWhile_append]
    split
    · next hall =>
      rw [List.takeWhile_cons_of_neg (by decide), List.append_nil]
      exact ((List.takeWhile_prefix _).eq_of_length hall).symm
    · rfl
  have hdrop : (body ++ '/' :: b').dropWhile (!endsAuthority true ·) =
      body.dropWhile (!endsAuthority true ·) ++ '/' :: b' := by
    rw [List.dropWhile_append]
    split
    · next hempty =>
      rw [List.isEmpty_iff.1 hempty, List.dropWhile_cons_of_neg (by decide), List.nil_append]
    · rfl
  have hpath : ∀ c ∈ body.dropWhile (!endsAuthority true ·), (!endsPath c) = true := by
    intro c hmem
    have hin : c ∈ lead ++ body :=
      List.mem_append_right _ ((List.dropWhile_suffix _).subset hmem)
    rw [ha c hin]
    rfl
  refine ⟨.ofBody scheme body, hself, rfl, ?_, List.dropWhile_eq_nil_iff.2 hpath, ?_⟩
  · rw [Parts.ofBody, hbody, List.takeWhile_cons_of_pos (by simp [hc])]
    exact List.cons_ne_nil _ _
  · have htakeAll : (body.dropWhile (!endsAuthority true ·)).takeWhile (!endsPath ·) =
        body.dropWhile (!endsAuthority true ·) := List.takeWhile_eq_self_iff.2 hpath
    rw [hparts]
    simp only [Parts.ofBody, htake, hdrop, List.takeWhile_append_of_pos hpath,
      List.dropWhile_append_of_pos hpath, htakeAll]

end NamesHost

/-! ## What is an address -/

variable {scheme : String}

/-- The scheme of an address is what stands before its first colon. -/
lemma exists_cutScheme?_of_scheme (h : Url.scheme text = .ok scheme) :
    ∃ rest, cutScheme? (clean text) = some (scheme, rest) := by
  unfold Url.scheme at h
  cases hcut : cutScheme? (clean text) with
  | none =>
    rw [hcut] at h
    cases h
  | some found =>
    obtain ⟨name, rest⟩ := found
    rw [hcut] at h
    obtain ⟨-, -, rfl⟩ := Except.map_eq_ok_iff.1 h
    exact ⟨rest, rfl⟩

/-- Whether a text that begins with a scheme of the web is an address is decided behind the slashes.
-/
lemma scheme_of_cutScheme? (hweb : scheme = "http" ∨ scheme = "https") {rest : List Char}
    (h : cutScheme? (clean text) = some (scheme, rest)) :
    Url.scheme text = (checkAuthority true (rest.dropWhile isSlash)).map fun _ => scheme := by
  -- The two schemes are special, and none of them is that of files.
  have hfile : scheme ≠ "file" := by
    rcases hweb with rfl | rfl <;> decide
  have hspecial : specialSchemes.contains scheme = true := by
    rcases hweb with rfl | rfl <;> decide
  unfold Url.scheme
  rw [h]
  dsimp only
  rw [if_neg hfile, if_pos hspecial]
  rfl

/-- What follows the slashes of an address with a special scheme begins with a character of the host
or the user. -/
lemma exists_of_checkAuthority {body : List Char} (h : checkAuthority true body = .ok ()) :
    ∃ c rest, body = c :: rest ∧ endsAuthority true c = false := by
  cases body with
  | nil => cases h
  | cons c rest =>
    refine ⟨c, rest, rfl, ?_⟩
    cases hc : endsAuthority true c with
    | false => rfl
    | true =>
      have htake : (c :: rest).takeWhile (fun c => !endsAuthority true c) = [] :=
        List.takeWhile_cons_of_neg (by simp [hc])
      rw [checkAuthority, htake] at h
      dsimp only [cutUser?] at h
      rw [checkHostAndPort, htake] at h
      cases h

/-- An address with the scheme `http` or `https` goes as far as its host. -/
lemma namesHost_of_scheme (h : Url.scheme text = .ok scheme)
    (hweb : scheme = "http" ∨ scheme = "https") : NamesHost scheme (clean text) := by
  obtain ⟨rest, hcut⟩ := exists_cutScheme?_of_scheme h
  rw [scheme_of_cutScheme? hweb hcut] at h
  obtain ⟨⟨⟩, hcheck, -⟩ := Except.map_eq_ok_iff.1 h
  obtain ⟨c, more, hbody, hc⟩ := exists_of_checkAuthority hcheck
  obtain ⟨name, htext, hname, halpha, hscheme⟩ := exists_of_cutScheme? hcut
  have hrest : rest = rest.takeWhile isSlash ++ c :: more := by
    rw [← hbody, List.takeWhile_append_dropWhile]
  rw [htext, hrest]
  exact .intro hname halpha hscheme (fun d hd => List.mem_takeWhile_imp hd) hc

end TypedClient.Url
