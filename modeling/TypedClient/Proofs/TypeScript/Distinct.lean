import TypedClient.Proofs.TypeScript.Identifiers

/-!
# Different names have different identifiers

The identifiers are given out one after the other, and each is taken from then on.  So the identifier
of a declaration is the first form of the identifier of its name that neither the module declares for
itself nor a declaration before it bears (`typeName_spec`), whatever the names are.  If the declared
names are different, then so are the identifiers (`nodup_typeNames`), and the names of the constants
that are made of them.
-/

namespace TypedClient

namespace Naming

/-- A text is an identifier: it begins with a letter or a low line, and goes on with letters, digits
and low lines. -/
def IsIdentifier (text : String) : Prop :=
  OnlyIdentifierChars text ∧ ∃ first rest, text.toList = first :: rest ∧ first.isDigit = false

/-- The identifier of a text is one. -/
lemma isIdentifier_identifier (text : String) : IsIdentifier (identifier text) := by
  refine ⟨onlyIdentifierChars_identifier text, ?_⟩
  rw [identifier, String.toList_ofList, identifierChars]
  split
  · exact ⟨'_', [], rfl, rfl⟩
  · next first rest heq =>
    split
    · exact ⟨'_', first :: rest, rfl, rfl⟩
    · next hdigit => exact ⟨first, rest, rfl, Bool.eq_false_iff.2 hdigit⟩

/-- A form of an identifier is one. -/
lemma isIdentifier_firstFree (taken : List String) {wanted : String} (h : IsIdentifier wanted) :
    IsIdentifier (firstFree taken wanted) := by
  obtain ⟨hchars, first, rest, hwanted, hfirst⟩ := h
  refine ⟨onlyIdentifierChars_firstFree taken hchars, first, ?_⟩
  obtain ⟨n, heq, -, -⟩ := firstFree_spec taken wanted
  rw [heq]
  cases n with
  | zero => exact ⟨rest, hwanted, hfirst⟩
  | succ n => exact ⟨rest ++ (toString (n + 2)).toList, by
      rw [numbered, String.toList_append, hwanted, List.cons_append], hfirst⟩

end Naming

namespace TypeScript.Identifiers

open Naming

/-! ## Assigning -/

/-- Every name gets an identifier. -/
lemma map_fst_assign (taken names : List String) :
    (assign taken names).map Prod.fst = names := by
  induction names generalizing taken with
  | nil => rfl
  | cons name rest ih => rw [assign, List.map_cons, ih]

/-- What is taken is assigned to no name. -/
lemma not_mem_of_mem_assign {taken names : List String} {e : String × String}
    (h : e ∈ assign taken names) : e.2 ∉ taken := by
  induction names generalizing taken with
  | nil => cases h
  | cons name rest ih =>
    rcases List.mem_cons.1 h with rfl | h
    · exact firstFree_not_mem taken (identifier name)
    · exact fun hmem => ih h (List.mem_cons_of_mem _ hmem)

/-- No identifier is assigned twice. -/
lemma nodup_map_snd_assign (taken names : List String) :
    ((assign taken names).map Prod.snd).Nodup := by
  induction names generalizing taken with
  | nil => exact List.nodup_nil
  | cons name rest ih =>
    refine List.nodup_cons.2 ⟨fun hmem => ?_, ih _⟩
    obtain ⟨e, he, heq⟩ := List.mem_map.1 hmem
    exact not_mem_of_mem_assign he (heq ▸ List.mem_cons_self)

/-- Names that come later find the identifiers of those before them taken. -/
lemma assign_append (taken before after : List String) :
    assign taken (before ++ after) = assign taken before ++
      assign (((assign taken before).map Prod.snd).reverse ++ taken) after := by
  induction before generalizing taken with
  | nil => rfl
  | cons name rest ih =>
    rw [List.cons_append, assign, assign, ih, List.map_cons, List.reverse_cons, List.append_assoc]
    rfl

/-! ## The identifiers of declarations -/

variable {declarations : List Declaration}

/-- The identifiers of declarations with different names are those assigned to the names. -/
lemma map_typeName_eq (h : (declarations.map Declaration.name).Nodup) :
    declarations.map (fun d => (ofDeclarations declarations).typeName d.name) =
      (assign reserved (declarations.map Declaration.name)).map Prod.snd := by
  have hkeys : ((assign reserved (declarations.map Declaration.name)).map Prod.fst).Nodup := by
    rwa [map_fst_assign]
  have hget : ∀ e ∈ assign reserved (declarations.map Declaration.name),
      (ofDeclarations declarations).typeName e.1 = e.2 := by
    intro e he
    rw [typeName, ofDeclarations, Entries.ofList_eq_self hkeys, Entries.get?_of_mem hkeys he,
      Option.getD_some]
  calc declarations.map (fun d => (ofDeclarations declarations).typeName d.name)
      = (declarations.map Declaration.name).map (ofDeclarations declarations).typeName := by
        rw [List.map_map]
        rfl
    _ = ((assign reserved (declarations.map Declaration.name)).map Prod.fst).map
          (ofDeclarations declarations).typeName := by rw [map_fst_assign]
    _ = (assign reserved (declarations.map Declaration.name)).map Prod.snd := by
        rw [List.map_map]
        exact List.map_congr_left hget

/-- Declarations with different names have different identifiers. -/
lemma nodup_typeNames (h : (declarations.map Declaration.name).Nodup) :
    (declarations.map fun d => (ofDeclarations declarations).typeName d.name).Nodup := by
  rw [map_typeName_eq h]
  exact nodup_map_snd_assign _ _

/-- The constants of declarations with different names have different names. -/
lemma nodup_schemaNames (h : (declarations.map Declaration.name).Nodup) :
    (declarations.map fun d => (ofDeclarations declarations).schemaName d.name).Nodup := by
  have hinjective : Function.Injective fun name : String => name ++ "Schema" :=
    fun _ _ heq => (String.append_left_inj "Schema").1 heq
  have hmap := (nodup_typeNames h).map hinjective
  rwa [List.map_map] at hmap

/-- No declaration has an identifier that the module declares for itself. -/
lemma typeName_not_mem_reserved (h : (declarations.map Declaration.name).Nodup) {d : Declaration}
    (hd : d ∈ declarations) : (ofDeclarations declarations).typeName d.name ∉ reserved := by
  have hmem : (ofDeclarations declarations).typeName d.name ∈
      declarations.map fun d => (ofDeclarations declarations).typeName d.name :=
    List.mem_map_of_mem hd
  rw [map_typeName_eq h] at hmem
  obtain ⟨e, he, heq⟩ := List.mem_map.1 hmem
  exact heq ▸ not_mem_of_mem_assign he

/-- Every name has an identifier. -/
lemma isIdentifier_typeName (declarations : List Declaration) (name : String) :
    IsIdentifier ((ofDeclarations declarations).typeName name) := by
  rw [typeName]
  cases h : (ofDeclarations declarations).names.get? name with
  | none => exact isIdentifier_identifier name
  | some id =>
    obtain ⟨taken, rfl⟩ := exists_firstFree_of_mem_assign (Entries.mem_of_get?_ofList h)
    exact isIdentifier_firstFree taken (isIdentifier_identifier name)

/-- The identifier of a declaration is the first form of the identifier of its name that neither the
module declares for itself nor a declaration before it bears. -/
lemma typeName_spec (h : (declarations.map Declaration.name).Nodup) {before after : List Declaration}
    {d : Declaration} (hdeclarations : declarations = before ++ d :: after) :
    ∃ n, (ofDeclarations declarations).typeName d.name = numbered (identifier d.name) n ∧
      ∀ m < n, numbered (identifier d.name) m ∈ reserved ∨
        ∃ b ∈ before,
          (ofDeclarations declarations).typeName b.name = numbered (identifier d.name) m := by
  have hnames := map_typeName_eq h
  generalize htype : (fun d : Declaration => (ofDeclarations declarations).typeName d.name) = type
    at hnames
  have hfirst : ∀ a : Declaration, (ofDeclarations declarations).typeName a.name = type a :=
    fun a => congrFun htype a
  rw [hdeclarations, List.map_append, List.map_append, assign_append, List.map_append] at hnames
  have hlength : (before.map type).length =
      ((assign reserved (before.map Declaration.name)).map Prod.snd).length := by
    rw [List.length_map, List.length_map, ← List.length_map Prod.fst, map_fst_assign,
      List.length_map]
  obtain ⟨hbefore, hrest⟩ := List.append_inj hnames hlength
  rw [← hbefore, List.map_cons, List.map_cons, assign, List.map_cons] at hrest
  have hd : type d = firstFree ((before.map type).reverse ++ reserved) (identifier d.name) :=
    (List.cons.inj hrest).1
  obtain ⟨n, heq, -, hsmaller⟩ :=
    firstFree_spec ((before.map type).reverse ++ reserved) (identifier d.name)
  refine ⟨n, by rw [hfirst, hd, heq], fun m hm => ?_⟩
  rcases List.mem_append.1 (hsmaller m hm) with hmem | hmem
  · obtain ⟨b, hb, hb'⟩ := List.mem_map.1 (List.mem_reverse.1 hmem)
    exact Or.inr ⟨b, hb, by rw [hfirst, hb']⟩
  · exact Or.inl hmem

end TypeScript.Identifiers

end TypedClient
