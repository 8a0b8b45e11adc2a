import TypedClient.Proofs.Entries
import TypedClient.Proofs.Naming.FirstFree
import TypedClient.TypeScript.Identifiers

/-!
# The characters of identifiers

The identifier of a declared name consists of letters, digits and low lines, whatever the name is
(`Identifiers.onlyIdentifierChars_typeName`).
-/

namespace TypedClient

namespace Naming

/-- All characters of a text may stand in an identifier. -/
def OnlyIdentifierChars (text : String) : Prop := ∀ c ∈ text.toList, isIdentifierChar c = true

/-- The identifier of a text has only characters that may stand in one. -/
lemma onlyIdentifierChars_identifier (text : String) : OnlyIdentifierChars (identifier text) := by
  have hmap : ∀ c ∈ text.toList.map (fun c => if isIdentifierChar c then c else '_'),
      isIdentifierChar c = true := by
    intro c hc
    obtain ⟨d, -, rfl⟩ := List.mem_map.1 hc
    split
    · assumption
    · rfl
  intro c hc
  rw [identifier, String.toList_ofList, identifierChars] at hc
  split at hc
  · obtain rfl : c = '_' := by simpa using hc
    rfl
  · next first rest heq =>
    rw [heq] at hmap
    split at hc
    · rcases List.mem_cons.1 hc with rfl | hc
      · rfl
      · exact hmap c hc
    · exact hmap c hc

/-- A number is written in digits. -/
lemma onlyIdentifierChars_toString (n : Nat) : OnlyIdentifierChars (toString n) := by
  intro c hc
  rw [Nat.toString_eq_repr, Nat.toList_repr] at hc
  have hdigit := Nat.isDigit_of_mem_toDigits (by decide) (by decide) hc
  simp [isIdentifierChar, Char.isAlphanum, hdigit]

/-- A free form of an identifier has only characters that may stand in one. -/
lemma onlyIdentifierChars_firstFree (taken : List String) {wanted : String}
    (h : OnlyIdentifierChars wanted) : OnlyIdentifierChars (firstFree taken wanted) := by
  obtain ⟨n, heq, -, -⟩ := firstFree_spec taken wanted
  rw [heq]
  cases n with
  | zero => exact h
  | succ n =>
    intro c hc
    rw [numbered, String.toList_append, List.mem_append] at hc
    exact hc.elim (h c) (onlyIdentifierChars_toString _ c)

end Naming

namespace TypeScript.Identifiers

open Naming

/-- Every assigned identifier is a free form of the identifier of its name. -/
lemma exists_firstFree_of_mem_assign {taken names : List String} {name id : String}
    (h : (name, id) ∈ assign taken names) : ∃ taken', id = firstFree taken' (identifier name) := by
  induction names generalizing taken with
  | nil => simp [assign] at h
  | cons first rest ih =>
    rcases List.mem_cons.1 h with h | h
    · obtain ⟨rfl, rfl⟩ := Prod.mk.inj h
      exact ⟨taken, rfl⟩
    · exact ih h

/-- The type of a schema is named by letters, digits and low lines. -/
lemma onlyIdentifierChars_typeName (declarations : List Declaration) (name : String) :
    OnlyIdentifierChars ((ofDeclarations declarations).typeName name) := by
  rw [typeName]
  cases h : (ofDeclarations declarations).names.get? name with
  | none => exact onlyIdentifierChars_identifier name
  | some id =>
    obtain ⟨taken, rfl⟩ := exists_firstFree_of_mem_assign (Entries.mem_of_get?_ofList h)
    exact onlyIdentifierChars_firstFree taken (onlyIdentifierChars_identifier name)

/-- The validator of a schema is named by letters, digits and low lines. -/
lemma onlyIdentifierChars_schemaName (declarations : List Declaration) (name : String) :
    OnlyIdentifierChars ((ofDeclarations declarations).schemaName name) := by
  intro c hc
  rw [schemaName, String.toList_append, List.mem_append] at hc
  rcases hc with hc | hc
  · exact onlyIdentifierChars_typeName declarations name c hc
  · have hletters : "Schema".toList.all isIdentifierChar = true := by decide
    exact List.all_eq_true.1 hletters c hc

end TypeScript.Identifiers

end TypedClient
