import TypedClient.Json.Printer
import TypedClient.Json.Reader
import TypedClient.Proofs.Text.Codes

/-!
# Strings can be read off their literals

A character in a string literal is shown by itself or by an escape, which can be read back
(`Json.readEscape_escapeChar`).  So a literal determines its string, and where it ends
(`Json.eq_of_quote_append`), whatever characters the string consists of.
-/

namespace TypedClient.Json

/-- Reads a character as it stands between the quotes of a string. -/
def readEscape : List Char → Option (Char × List Char)
  | [] => none
  | '\\' :: 'u' :: _ :: _ :: high :: low :: rest =>
    (hexDigit? high).bind fun h => (hexDigit? low).map fun l => (Char.ofNat (h * 16 + l), rest)
  | '\\' :: letter :: rest => (simpleEscape? letter).map fun c => (c, rest)
  | c :: rest => some (c, rest)

/-- A character is read back from what shows it. -/
lemma readEscape_escapeChar (c : Char) (rest : List Char) :
    readEscape (escapeChar c ++ rest) = some (c, rest) := by
  have hdigit : ∀ n < 16, hexDigit? (lowerHexDigit n) = some n := by decide
  have hchar : ∀ {n : Nat}, c.toNat = n → c = Char.ofNat n := by
    rintro n rfl
    exact (Char.ofNat_toNat c).symm
  unfold escapeChar
  split_ifs with hquote hbackslash hnewline hreturn htab hbackspace hfeed hcontrol
  · rw [hquote]
    rfl
  · rw [hbackslash]
    rfl
  · rw [hnewline]
    rfl
  · rw [hreturn]
    rfl
  · rw [htab]
    rfl
  · rw [hchar hbackspace]
    rfl
  · rw [hchar hfeed]
    rfl
  · have hvalue : c.toNat / 16 * 16 + c.toNat % 16 = c.toNat := by omega
    simp only [List.cons_append, List.nil_append, readEscape]
    rw [hdigit (c.toNat / 16) (by omega), hdigit (c.toNat % 16) (by omega), Option.bind_some,
      Option.map_some, hvalue, Char.ofNat_toNat]
  · rw [List.singleton_append]
    unfold readEscape
    split <;> simp_all

/-- What shows a character is no quote. -/
lemma head?_escapeChar_append (c : Char) (rest : List Char) :
    (escapeChar c ++ rest).head? ≠ some '"' := by
  unfold escapeChar
  split_ifs with hquote <;> simp [hquote]

/-- Two literals in front of any texts are the same only if they are those of the same string. -/
lemma eq_of_quote_append {a b rest rest' : List Char} (h : quote a ++ rest = quote b ++ rest') :
    a = b ∧ rest = rest' := by
  have hliteral : ∀ text more : List Char,
      quote text ++ more = '"' :: (text.flatMap escapeChar ++ '"' :: more) := by
    intro text more
    simp [quote]
  have hcode : ∀ c d : Char, ∀ r r' : List Char, escapeChar c ++ r = escapeChar d ++ r' →
      c = d ∧ r = r' := by
    intro c d r r' heq
    have hread := congrArg readEscape heq
    rw [readEscape_escapeChar, readEscape_escapeChar] at hread
    exact Prod.mk.inj (Option.some_inj.1 hread)
  rw [hliteral, hliteral] at h
  obtain ⟨hmap, hrest⟩ := Text.map_eq_of_flatMap_append id (fun r => r.head? = some '"')
    (fun _ => True) (fun c _ d _ r r' _ _ => hcode c d r r') (fun _ _ => trivial)
    (fun _ _ => trivial) head?_escapeChar_append rfl rfl (List.cons.inj h).2
  rw [List.map_id, List.map_id] at hmap
  exact ⟨hmap, (List.cons.inj hrest).2⟩

end TypedClient.Json
