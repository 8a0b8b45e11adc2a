import TypedClient.Proofs.Induction
import TypedClient.Proofs.TypeScript.Identifiers
import TypedClient.TypeScript.Expression

/-!
# The constants that a declaration reads

The text of a declaration is cut into pieces, so that the constants that are read when the
declaration runs stand in pieces of their own (`declarationPieces`).  What stands behind `z.lazy` is
not read then, and belongs to the code around it: a deferred reference, and all of a deferred
declaration.  Put together, the pieces are the text of the declaration
(`flatMap_text_declarationPieces`).
-/

namespace TypedClient.TypeScript

/-- A piece of the text of a declaration. -/
inductive Piece where
  /-- Code that reads no constant of the module when it runs. -/
  | code (text : List Char)
  /-- The constant of the schema with a name, which is read. -/
  | read (name : String)

/-- The text of a piece. -/
def Piece.text (ids : Identifiers) : Piece → List Char
  | .code text => text
  | .read name => (ids.schemaName name).toList

/-- The piece with its further lines moved to the right by two spaces. -/
def Piece.deepen : Piece → Piece
  | .code text => .code (TypeScript.deepen text)
  | .read name => .read name

mutual

/-- The pieces of the expression of a validator. -/
def pieces (ids : Identifiers) : Validator → List Piece
  | .string => [.code "z.string()".toList]
  | .number => [.code "z.number()".toList]
  | .boolean => [.code "z.boolean()".toList]
  | .any => [.code "z.any()".toList]
  | .object fields mode =>
    .code ("z.object(\x7b".toList ++ if fields.isEmpty then [] else ['\n']) ::
      (fieldPieces ids fields ++ [.code ("\x7d)".toList ++ (modeSuffix mode).toList)])
  | .array items => .code "z.array(".toList :: (pieces ids items ++ [.code [')']])
  | .union [] => [.code "z.any()".toList]
  | .union [only] => pieces ids only
  | .union members => .code "z.union([".toList :: (memberPieces ids members ++ [.code "])".toList])
  | .nullable inner => pieces ids inner ++ [.code ".nullable()".toList]
  | .optional inner => pieces ids inner ++ [.code ".optional()".toList]
  | .reference name false => [.read name]
  | .reference name true =>
    [.code ("z.lazy(() => ".toList ++ (ids.schemaName name).toList ++ [')'])]

/-- The pieces of the lines of the fields of an object. -/
def fieldPieces (ids : Identifiers) : List (Field Validator) → List Piece
  | [] => []
  | ⟨name, v, description⟩ :: rest =>
    .code ("  ".toList ++ objectKey name ++ ": ".toList) :: ((pieces ids v).map Piece.deepen ++
      .code (',' :: (fieldComment description ++ ['\n'])) :: fieldPieces ids rest)

/-- The pieces of the expressions of the members of a union. -/
def memberPieces (ids : Identifiers) : List Validator → List Piece
  | [] => []
  | [v] => pieces ids v
  | v :: rest => pieces ids v ++ .code ", ".toList :: memberPieces ids rest

end

/-- The pieces of the declaration of the validator of a schema. -/
def declarationPieces (ids : Identifiers) (d : Declaration) : List Piece :=
  if d.deferred then [.code (declarationText ids d).toList]
  else
    .code ("export const ".toList ++ (ids.schemaName d.name).toList ++ " = ".toList) ::
      (pieces ids d.validator ++ [.code [';']])

/-! ## The pieces are the text -/

/-- The constants of a module bear names without line ends. -/
def NoLineEnds (ids : Identifiers) : Prop := ∀ name, '\n' ∉ (ids.schemaName name).toList

/-- Moving a text without line ends to the right leaves it as it is. -/
lemma deepen_of_not_mem {text : List Char} (h : '\n' ∉ text) : deepen text = text := by
  rw [deepen, List.flatMap_congr (g := fun c => [c]), List.flatMap_singleton']
  intro c hc
  rw [if_neg]
  rintro rfl
  exact h hc

/-- The text of moved pieces is the moved text of the pieces. -/
lemma flatMap_text_deepen {ids : Identifiers} (hids : NoLineEnds ids) (ps : List Piece) :
    (ps.map Piece.deepen).flatMap (Piece.text ids) = deepen (ps.flatMap (Piece.text ids)) := by
  induction ps with
  | nil => rfl
  | cons p rest ih =>
    have happend : ∀ a b, deepen (a ++ b) = deepen a ++ deepen b := fun a b => by
      rw [deepen, List.flatMap_append]
      rfl
    rw [List.map_cons, List.flatMap_cons, List.flatMap_cons, happend, ih]
    cases p with
    | code text => rfl
    | read name => rw [Piece.deepen, Piece.text, deepen_of_not_mem (hids name)]

/-- Put together, the pieces of an expression are the expression. -/
lemma flatMap_text_pieces {ids : Identifiers} (hids : NoLineEnds ids) (v : Validator) :
    (pieces ids v).flatMap (Piece.text ids) = expression ids v := by
  induction v using Validator.inductionOn with
  | string => rfl
  | number => rfl
  | boolean => rfl
  | any => rfl
  | object fields mode ih =>
    have hfields : (fieldPieces ids fields).flatMap (Piece.text ids) = fieldLines ids fields := by
      induction fields with
      | nil => rfl
      | cons f rest ihrest =>
        obtain ⟨hf, hrest⟩ := List.forall_mem_cons.1 ih
        obtain ⟨name, v, description⟩ := f
        rw [fieldPieces.eq_def, fieldLines.eq_def]
        -- the equation of `fieldLine` would be slow to state, for the literals in it
        delta fieldLine
        simp only [List.flatMap_cons, List.flatMap_append, flatMap_text_deepen hids, hf,
          ihrest hrest, Piece.text, List.append_assoc, List.cons_append, List.nil_append]
    rw [pieces.eq_def, expression.eq_def]
    simp only [List.flatMap_cons, List.flatMap_append, hfields, Piece.text, List.flatMap_nil,
      List.append_assoc, List.append_nil]
  | array items ih =>
    rw [pieces.eq_def, expression.eq_def]
    simp only [List.flatMap_cons, List.flatMap_append, ih, Piece.text, List.flatMap_nil,
      List.append_assoc, List.append_nil]
  | union members ih =>
    have hmembers :
        (memberPieces ids members).flatMap (Piece.text ids) = memberList ids members := by
      induction members with
      | nil => rfl
      | cons m rest ihrest =>
        obtain ⟨hm, hrest⟩ := List.forall_mem_cons.1 ih
        rw [memberPieces.eq_def, memberList.eq_def]
        cases rest with
        | nil => exact hm
        | cons m' rest' =>
          simp only [List.flatMap_cons, List.flatMap_append, hm, ihrest hrest, Piece.text,
            List.append_assoc]
    rw [pieces.eq_def, expression.eq_def]
    cases members with
    | nil => rfl
    | cons m rest =>
      cases rest with
      | nil => exact ih m List.mem_cons_self
      | cons m' rest' =>
        simp only [List.flatMap_cons, List.flatMap_append, hmembers, Piece.text, List.flatMap_nil,
          List.append_assoc, List.append_nil]
  | nullable inner ih =>
    rw [pieces.eq_def, expression.eq_def]
    simp only [List.flatMap_cons, List.flatMap_append, ih, Piece.text, List.flatMap_nil,
      List.append_nil]
  | optional inner ih =>
    rw [pieces.eq_def, expression.eq_def]
    simp only [List.flatMap_cons, List.flatMap_append, ih, Piece.text, List.flatMap_nil,
      List.append_nil]
  | reference name deferred =>
    rw [pieces.eq_def, expression.eq_def]
    cases deferred <;>
      simp only [List.flatMap_cons, Piece.text, List.flatMap_nil, List.append_nil]

/-- Put together, the pieces of a declaration are its text. -/
lemma flatMap_text_declarationPieces {ids : Identifiers} (hids : NoLineEnds ids)
    (d : Declaration) :
    (declarationPieces ids d).flatMap (Piece.text ids) = (declarationText ids d).toList := by
  unfold declarationPieces
  split
  · exact List.flatMap_singleton _ _
  · next hdeferred =>
    rw [declarationText, if_neg hdeferred]
    simp only [List.flatMap_cons, List.flatMap_append, flatMap_text_pieces hids, Piece.text,
      List.flatMap_nil, List.append_nil, String.toList_append, String.toList_ofList,
      List.append_assoc]
    rfl

/-- The identifiers of a module have no line ends. -/
lemma noLineEnds_ofDeclarations (declarations : List Declaration) :
    NoLineEnds (Identifiers.ofDeclarations declarations) := by
  intro name hmem
  have hchar := Identifiers.onlyIdentifierChars_schemaName declarations name _ hmem
  revert hchar
  decide

/-! ## What is read -/

/-- Moving pieces to the right changes nothing about what they read. -/
lemma read_mem_map_deepen {name : String} {ps : List Piece} :
    Piece.read name ∈ ps.map Piece.deepen ↔ Piece.read name ∈ ps := by
  rw [List.mem_map]
  constructor
  · rintro ⟨p, hp, heq⟩
    cases p with
    | code text => cases heq
    | read other =>
      cases heq
      exact hp
  · exact fun h => ⟨_, h, rfl⟩

/-- An expression reads the constants of the references that are not deferred. -/
lemma read_mem_pieces_iff {ids : Identifiers} {name : String} (v : Validator) :
    Piece.read name ∈ pieces ids v ↔ (name, false) ∈ v.references := by
  induction v using Validator.inductionOn with
  | string => simp [pieces.eq_def, Validator.references]
  | number => simp [pieces.eq_def, Validator.references]
  | boolean => simp [pieces.eq_def, Validator.references]
  | any => simp [pieces.eq_def, Validator.references]
  | object fields mode ih =>
    have hfields : Piece.read name ∈ fieldPieces ids fields ↔
        (name, false) ∈ Validator.referencesOfFields fields := by
      induction fields with
      | nil => simp [fieldPieces.eq_def, Validator.referencesOfFields]
      | cons f rest ihrest =>
        obtain ⟨hf, hrest⟩ := List.forall_mem_cons.1 ih
        obtain ⟨key, v, description⟩ := f
        rw [fieldPieces.eq_def, Validator.referencesOfFields]
        simp only [List.mem_cons, List.mem_append, reduceCtorEq, false_or, read_mem_map_deepen, hf,
          ihrest hrest]
    rw [pieces.eq_def, Validator.references]
    simp only [List.mem_cons, List.mem_append, reduceCtorEq, false_or, hfields, List.not_mem_nil,
      or_false]
  | array items ih =>
    rw [pieces.eq_def, Validator.references]
    simp only [List.mem_cons, List.mem_append, reduceCtorEq, false_or, ih, List.not_mem_nil,
      or_false]
  | union members ih =>
    have hmembers : Piece.read name ∈ memberPieces ids members ↔
        (name, false) ∈ Validator.referencesOfMembers members := by
      induction members with
      | nil => simp [memberPieces.eq_def, Validator.referencesOfMembers]
      | cons m rest ihrest =>
        obtain ⟨hm, hrest⟩ := List.forall_mem_cons.1 ih
        rw [memberPieces.eq_def, Validator.referencesOfMembers]
        cases rest with
        | nil => simpa [Validator.referencesOfMembers] using hm
        | cons m' rest' =>
          simp only [List.mem_cons, List.mem_append, reduceCtorEq, false_or, hm, ihrest hrest]
    rw [pieces.eq_def, Validator.references]
    cases members with
    | nil => simp [Validator.referencesOfMembers]
    | cons m rest =>
      cases rest with
      | nil => simpa [memberPieces.eq_def] using hmembers
      | cons m' rest' =>
        simp only [List.mem_cons, List.mem_append, reduceCtorEq, false_or, hmembers,
          List.not_mem_nil, or_false]
  | nullable inner ih =>
    rw [pieces.eq_def, Validator.references]
    simp only [List.mem_append, List.mem_singleton, reduceCtorEq, or_false, ih]
  | optional inner ih =>
    rw [pieces.eq_def, Validator.references]
    simp only [List.mem_append, List.mem_singleton, reduceCtorEq, or_false, ih]
  | reference other deferred =>
    rw [pieces.eq_def, Validator.references]
    cases deferred <;> simp

/-- A declaration reads the constants of the references that are not deferred, unless it is deferred
itself. -/
lemma read_mem_declarationPieces_iff {ids : Identifiers} {name : String} {d : Declaration} :
    Piece.read name ∈ declarationPieces ids d ↔
      d.deferred = false ∧ (name, false) ∈ d.validator.references := by
  unfold declarationPieces
  split
  · next h => simp [h]
  · next h =>
    simp only [List.mem_cons, List.mem_append, reduceCtorEq, false_or, read_mem_pieces_iff,
      List.not_mem_nil, or_false, Bool.eq_false_iff.2 h, true_and]

end TypedClient.TypeScript
