import TypedClient.Proofs.TypeScript.Tokens

/-!
# Expressions at a depth

Where an expression stands inside of others, its further lines are indented by the depth of its
place (`written`).  At each depth, the expression of every kind of validator consists of fixed words
and of the expressions of its parts, of which only those of fields stand one level deeper
(`writtenField`).
-/

namespace TypedClient.TypeScript

/-! ## Indentation -/

/-- A line feed with the indentation of a depth behind it. -/
def lineBreak (depth : Nat) : List Char := '\n' :: List.replicate (2 * depth) ' '

/-- A text whose further lines are indented by a depth. -/
def indented (depth : Nat) (text : List Char) : List Char :=
  text.flatMap fun c => if c = '\n' then lineBreak depth else [c]

/-- A text is indented piece by piece. -/
lemma indented_append (depth : Nat) (a b : List Char) :
    indented depth (a ++ b) = indented depth a ++ indented depth b :=
  List.flatMap_append

/-- Indenting leaves a text as it is, if there is no line feed in it or the depth is 0. -/
lemma indented_eq_self {depth : Nat} {text : List Char} (h : '\n' ∈ text → depth = 0) :
    indented depth text = text := by
  rw [indented, List.flatMap_congr (g := fun c => [c]), List.flatMap_singleton']
  intro c hc
  split
  · next hline =>
    subst hline
    rw [h hc]
    rfl
  · rfl

/-- A text on one line is written as it is. -/
lemma indented_word {depth : Nat} {text : List Char} (h : '\n' ∉ text) :
    indented depth text = text :=
  indented_eq_self fun hmem => absurd hmem h

/-- A text that has been moved to the right is indented by a depth more. -/
lemma indented_deepen (depth : Nat) (text : List Char) :
    indented depth (deepen text) = indented (depth + 1) text := by
  rw [indented, deepen, List.flatMap_assoc, indented]
  refine List.flatMap_congr fun c _ => ?_
  by_cases hc : c = '\n'
  · have hspaces : List.replicate (2 * (depth + 1)) ' ' =
        List.replicate (2 * depth) ' ' ++ [' ', ' '] := by
      rw [Nat.mul_succ, List.replicate_add]
      rfl
    rw [if_pos hc, if_pos hc, lineBreak, lineBreak, hspaces]
    rfl
  · rw [if_neg hc, if_neg hc, List.flatMap_singleton, if_neg hc]

/-! ## Expressions in parts -/

/-- The expression of an array. -/
lemma expression_array (ids : Identifiers) (items : Validator) :
    expression ids (.array items) = "z.array(".toList ++ expression ids items ++ [')'] :=
  expression.eq_def ids (.array items)

/-- A suffix stands behind the expression. -/
lemma expression_apply (ids : Identifiers) (suffix : Suffix) (v : Validator) :
    expression ids (suffix.apply v) = expression ids v ++ suffix.text := by
  cases suffix with
  | nullable => exact expression.eq_def ids (.nullable v)
  | optional => exact expression.eq_def ids (.optional v)

/-- The expressions of the members of a union: the first one, and each other with a comma before
it. -/
lemma memberList_cons (ids : Identifiers) (first : Validator) (rest : List Validator) :
    memberList ids (first :: rest) =
      expression ids first ++ rest.flatMap fun m => ", ".toList ++ expression ids m := by
  induction rest generalizing first with
  | nil => rw [memberList.eq_def, List.flatMap_nil, List.append_nil]
  | cons next rest ih =>
    rw [memberList.eq_def]
    dsimp only
    rw [ih, List.flatMap_cons, List.append_assoc, List.append_assoc]

/-! ## Expressions at a depth -/

section Written

variable (ids : Identifiers) (depth : Nat)

/-- The expression of a validator as it stands at a depth. -/
def written (v : Validator) : List Char := indented depth (expression ids v)

/-- The line of a field as it stands at a depth, up to where the next line begins. -/
def writtenField (field : Field Validator) : List Char :=
  "  ".toList ++ objectKey field.name ++ ": ".toList ++ written ids (depth + 1) field.body ++
    [','] ++ fieldComment field.description ++ lineBreak depth

variable {ids depth}

/-- An array, in parts. -/
lemma written_array (items : Validator) :
    written ids depth (.array items) = "z.array(".toList ++ (written ids depth items ++ [')']) := by
  have hopen : '\n' ∉ "z.array(".toList := by decide
  have hclose : '\n' ∉ [')'] := by decide
  rw [written, expression_array, List.append_assoc, indented_append, indented_append,
    indented_word hopen, indented_word hclose, written]

/-- An expression with a suffix, in parts. -/
lemma written_suffix (suffix : Suffix) (v : Validator) :
    written ids depth (suffix.apply v) = written ids depth v ++ suffix.text := by
  have hword : '\n' ∉ suffix.text := by cases suffix <;> decide
  rw [written, expression_apply, indented_append, indented_word hword, written]

/-- A reference that is not deferred is written as a name. -/
lemma written_reference (hids : NoLineEnds ids) (name : String) :
    written ids depth (.reference name false) = (ids.schemaName name).toList := by
  rw [written, expression.eq_def]
  exact indented_word (hids name)

/-- A deferred reference, in parts. -/
lemma written_deferred (hids : NoLineEnds ids) (name : String) :
    written ids depth (.reference name true) =
      "z.lazy(() => ".toList ++ ((ids.schemaName name).toList ++ [')']) := by
  have hopen : '\n' ∉ "z.lazy(() => ".toList := by decide
  have hclose : '\n' ∉ [')'] := by decide
  rw [written, expression.eq_def]
  dsimp only
  rw [List.append_assoc, indented_append, indented_append, indented_word hopen,
    indented_word hclose, indented_word (hids name)]

/-- A union of two members or more, in parts. -/
lemma written_union {first next : Validator} {rest : List Validator} :
    written ids depth (.union (first :: next :: rest)) =
      "z.union([".toList ++ (written ids depth first ++
        ((next :: rest).flatMap (fun m => ", ".toList ++ written ids depth m) ++
          "])".toList)) := by
  have hopen : '\n' ∉ "z.union([".toList := by decide
  have hcomma : '\n' ∉ ", ".toList := by decide
  have hclose : '\n' ∉ "])".toList := by decide
  have hmore : indented depth ((next :: rest).flatMap fun m => ", ".toList ++ expression ids m) =
      (next :: rest).flatMap fun m => ", ".toList ++ written ids depth m := by
    rw [indented, List.flatMap_assoc]
    refine List.flatMap_congr fun m _ => ?_
    rw [← indented, indented_append, indented_word hcomma, written]
  rw [written, expression.eq_def]
  dsimp only
  rw [memberList_cons, List.append_assoc, List.append_assoc, indented_append, indented_append,
    indented_append, indented_word hopen, indented_word hclose, hmore, written]

/-- The fields of an object are written line by line. -/
lemma indented_fieldLines (fields : List (Field Validator)) :
    indented depth (fieldLines ids fields) = fields.flatMap (writtenField ids depth) := by
  have hlead : '\n' ∉ "  ".toList := by decide
  have hcolon : '\n' ∉ ": ".toList := by decide
  have hcomma : '\n' ∉ [','] := by decide
  have hline : indented depth ['\n'] = lineBreak depth := List.flatMap_singleton _ _
  induction fields with
  | nil => rw [fieldLines.eq_def]; rfl
  | cons field rest ih =>
    rw [fieldLines.eq_def, List.flatMap_cons, ← ih]
    delta fieldLine writtenField
    simp only [indented_append, indented_word hlead, indented_word hcolon, indented_word hcomma,
      indented_word (newline_not_mem_objectKey _), indented_word (newline_not_mem_fieldComment _),
      indented_deepen, hline, written]

/-- An object, in parts. -/
lemma written_object (fields : List (Field Validator)) (mode : Mode) :
    written ids depth (.object fields mode) =
      "z.object(\x7b".toList ++ ((if fields.isEmpty then [] else lineBreak depth) ++
        (fields.flatMap (writtenField ids depth) ++
          ("\x7d)".toList ++ (modeSuffix mode).toList))) := by
  have hopen : '\n' ∉ "z.object(\x7b".toList := by decide
  have hclose : '\n' ∉ "\x7d)".toList := by decide
  have hmode : '\n' ∉ (modeSuffix mode).toList := by cases mode <;> decide
  have hbreak : indented depth (if fields.isEmpty then [] else ['\n']) =
      if fields.isEmpty then [] else lineBreak depth := by
    split
    · rfl
    · exact List.flatMap_singleton _ _
  rw [written, expression.eq_def]
  dsimp only
  simp only [List.append_assoc, indented_append, indented_word hopen, indented_word hclose,
    indented_word hmode, hbreak, indented_fieldLines]

end Written

end TypedClient.TypeScript
