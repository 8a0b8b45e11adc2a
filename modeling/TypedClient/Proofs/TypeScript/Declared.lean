import TypedClient.Proofs.TypeScript.Constants
import TypedClient.Proofs.TypeScript.Indentation

/-!
# What the lines of a module declare

A line declares a name with a keyword if it begins with the keyword and goes on with the name.  The
text of a declaration may have several lines; those after the first begin with a space or a closing
brace (`Hanging`), so only the first one declares something.  The lines of the call functions stand
inside a block, so none of them declares anything, whatever the description says.  So a module
declares with `export const` the constants of its schemas, and with `export type` the types of the
named schemas and that of the configuration, in order and each once (`declaredNames_constants`,
`declaredNames_types`).
-/

namespace TypedClient

namespace Json

/-- A character is not shown by a line feed. -/
lemma newline_not_mem_escapeChar (c : Char) : '\n' ∉ escapeChar c := by
  have hdigit : ∀ n < 16, lowerHexDigit n ≠ '\n' := by decide
  unfold escapeChar
  split_ifs with hquote hbackslash hnewline hreturn htab hbackspace hfeed hcontrol
  · decide
  · decide
  · decide
  · decide
  · decide
  · decide
  · decide
  · have hhigh := (hdigit (c.toNat / 16) (by omega)).symm
    have hlow := (hdigit (c.toNat % 16) (by omega)).symm
    simp only [List.mem_cons, List.not_mem_nil, hhigh, hlow, or_false]
    decide
  · exact fun hmem => hnewline (List.mem_singleton.1 hmem).symm

/-- A text between quotes has no line feed. -/
lemma newline_not_mem_quote (text : List Char) : '\n' ∉ quote text := by
  intro hmem
  rw [quote, List.cons_append, List.mem_cons, List.mem_append] at hmem
  obtain hmem | hmem | hmem := hmem
  · cases hmem
  · obtain ⟨c, -, hc⟩ := List.mem_flatMap.1 hmem
    exact newline_not_mem_escapeChar c hc
  · cases hmem with
    | tail _ h => cases h

end Json

namespace TypeScript

/-! ## Texts of several lines -/

/-- Behind every line feed stands a space or a closing brace. -/
def Hanging (text : List Char) : Prop :=
  ∀ before after, text = before ++ '\n' :: after → ∃ c rest, after = c :: rest ∧ (c = ' ' ∨ c = '\x7d')

namespace Hanging

variable {a b : List Char}

/-- A text on one line is hanging. -/
lemma of_not_mem (h : '\n' ∉ a) : Hanging a := by
  rintro before after rfl
  exact absurd (List.mem_append_right _ List.mem_cons_self) h

/-- Hanging texts make a hanging text. -/
lemma append (ha : Hanging a) (hb : Hanging b) : Hanging (a ++ b) := by
  intro before after heq
  rcases List.append_eq_append_iff.1 heq with ⟨mid, -, hmid⟩ | ⟨mid, hbefore, hmid⟩
  · exact hb mid after hmid
  · cases mid with
    | nil => exact hb [] after hmid.symm
    | cons c mid =>
      obtain ⟨rfl, hafter⟩ := List.cons.inj hmid
      obtain ⟨c, rest, rfl, hc⟩ := ha before mid hbefore
      exact ⟨c, rest ++ b, hafter, hc⟩

/-- A line feed may stand before a hanging text that begins with a space or a closing brace. -/
lemma newline {c : Char} (hc : c = ' ' ∨ c = '\x7d') (h : Hanging (c :: a)) :
    Hanging ('\n' :: c :: a) := by
  intro before after heq
  cases before with
  | nil =>
    obtain ⟨-, rfl⟩ := List.cons.inj heq
    exact ⟨c, a, rfl, hc⟩
  | cons first before => exact h before after (List.cons.inj heq).2

/-- A text with its further lines moved to the right is hanging. -/
lemma deepen (text : List Char) : Hanging (deepen text) := by
  induction text with
  | nil => exact of_not_mem List.not_mem_nil
  | cons c rest ih =>
    refine append (a := if c = '\n' then ['\n', ' ', ' '] else [c]) ?_ ih
    split
    · exact newline (Or.inl rfl) (of_not_mem (by decide))
    · next hc => exact of_not_mem fun hmem => hc (List.mem_singleton.1 hmem).symm

/-- The lines of a hanging text, from the second one on, begin with a space or a closing brace. -/
lemma linesOf_eq {text : List Char} (h : Hanging text) :
    ∃ first more, Layout.linesOf text = first :: more ∧
      ∀ line ∈ more, ∃ c rest, line = c :: rest ∧ (c = ' ' ∨ c = '\x7d') := by
  induction text with
  | nil => exact ⟨[], [], rfl, List.forall_mem_nil _⟩
  | cons c text ih =>
    have htext : Hanging text := fun before after heq => h (c :: before) after (by rw [heq]; rfl)
    obtain ⟨first, more, hlines, hmore⟩ := ih htext
    rw [Layout.linesOf] at hlines ⊢
    by_cases hc : c = '\n'
    · -- The next line begins with what stands behind the line feed.
      subst hc
      obtain ⟨d, rest, rfl, hd⟩ := h [] text rfl
      have hcut : ∀ c ∈ [d], (c == '\n') = false := by
        intro c hmem
        obtain rfl := List.mem_singleton.1 hmem
        rcases hd with rfl | rfl <;> rfl
      obtain ⟨piece, pieces, hrest⟩ :=
        List.exists_cons_of_ne_nil (Text.splitAtEach_ne_nil (· == '\n') rest)
      have hfirst : [d] ++ piece = first := by
        have happend := Text.splitAtEach_append hcut hrest
        rw [List.singleton_append, hlines] at happend
        exact (List.cons.inj happend).1.symm
      refine ⟨[], first :: more, ?_, ?_⟩
      · rw [Text.splitAtEach, hlines]
        rfl
      · exact List.forall_mem_cons.2 ⟨⟨d, piece, hfirst.symm, hd⟩, hmore⟩
    · refine ⟨c :: first, more, ?_, hmore⟩
      rw [Text.splitAtEach, hlines]
      simp [hc]

end Hanging

/-- A key has no line feed. -/
lemma newline_not_mem_objectKey (key : String) : '\n' ∉ objectKey key := by
  unfold objectKey
  split
  · next hplain =>
    have hok : ∀ c ∈ key.toList, (Naming.isIdentifierChar c || c == '$') = true := by
      unfold Naming.isPlainKey at hplain
      split at hplain
      · cases hplain
      · next first rest heq =>
        rw [Bool.and_eq_true, Bool.and_eq_true, List.all_eq_true] at hplain
        rw [heq]
        exact List.forall_mem_cons.2 ⟨hplain.1.1, hplain.2⟩
    intro hmem
    exact absurd (hok _ hmem) (by decide)
  · exact Json.newline_not_mem_quote _

/-- The comment behind a field has no line feed. -/
lemma newline_not_mem_fieldComment (description : Option String) :
    '\n' ∉ fieldComment description := by
  cases description with
  | none => exact List.not_mem_nil
  | some text =>
    intro hmem
    rcases List.mem_append.1 hmem with hmem | hmem
    · exact absurd hmem (by decide)
    · have hline := Text.onOneLine_join_wordsBetween text.toList _ hmem
      exact absurd hline (by decide)

/-- A hanging text that may stand behind a line feed. -/
def BeginsLine (text : List Char) : Prop :=
  ∃ c rest, text = c :: rest ∧ (c = ' ' ∨ c = '\x7d') ∧ Hanging (c :: rest)

namespace BeginsLine

variable {text : List Char}

/-- A line feed stands before it. -/
lemma hanging_newline (h : BeginsLine text) : Hanging ('\n' :: text) := by
  obtain ⟨c, rest, rfl, hc, hanging⟩ := h
  exact hanging.newline hc

/-- The line of a field may stand before it. -/
lemma fieldLine (h : BeginsLine text) (name : String) (expression : List Char)
    (description : Option String) :
    BeginsLine (fieldLine name expression description ++ text) := by
  have hword : ∀ word : List Char, '\n' ∉ word → Hanging word := fun _ => Hanging.of_not_mem
  refine ⟨' ', _, rfl, Or.inl rfl, ?_⟩
  change Hanging (TypeScript.fieldLine name expression description ++ text)
  delta TypeScript.fieldLine
  simp only [List.append_assoc]
  refine (hword _ (by decide)).append ?_
  refine (hword _ (newline_not_mem_objectKey name)).append ?_
  refine (hword _ (by decide)).append ?_
  refine (Hanging.deepen expression).append ?_
  refine (hword _ (by decide)).append ?_
  exact (hword _ (newline_not_mem_fieldComment description)).append h.hanging_newline

end BeginsLine

variable {ids : Identifiers}

/-- The expression of a validator is hanging. -/
lemma hanging_expression (hids : NoLineEnds ids) (v : Validator) : Hanging (expression ids v) := by
  have hword : ∀ text : String, '\n' ∉ text.toList → Hanging text.toList :=
    fun _ => Hanging.of_not_mem
  induction v using Validator.inductionOn with
  | string => exact hword "z.string()" (by decide)
  | number => exact hword "z.number()" (by decide)
  | boolean => exact hword "z.boolean()" (by decide)
  | any => exact hword "z.any()" (by decide)
  | object fields mode ih =>
    have hlast : Hanging ("\x7d)".toList ++ (modeSuffix mode).toList) := by
      cases mode with
      | strip => exact (hword _ (by decide)).append (hword _ (by decide))
      | strict => exact (hword _ (by decide)).append (hword _ (by decide))
      | passthrough => exact (hword _ (by decide)).append (hword _ (by decide))
    have hfields : BeginsLine (fieldLines ids fields ++
        ("\x7d)".toList ++ (modeSuffix mode).toList)) := by
      induction fields with
      | nil => exact ⟨'\x7d', _, rfl, Or.inr rfl, hlast⟩
      | cons f rest ihrest =>
        obtain ⟨-, hrest⟩ := List.forall_mem_cons.1 ih
        obtain ⟨name, v, description⟩ := f
        rw [fieldLines, List.append_assoc]
        exact (ihrest hrest).fieldLine name (expression ids v) description
    rw [expression.eq_def]
    simp only [List.append_assoc]
    refine (hword _ (by decide)).append ?_
    cases fields with
    | nil => exact hlast
    | cons f rest => exact hfields.hanging_newline
  | array items ih =>
    rw [expression.eq_def]
    exact ((hword _ (by decide)).append ih).append (.of_not_mem (by decide))
  | union members ih =>
    have hmembers : Hanging (memberList ids members) := by
      induction members with
      | nil => exact .of_not_mem List.not_mem_nil
      | cons m rest ihrest =>
        obtain ⟨hm, hrest⟩ := List.forall_mem_cons.1 ih
        rw [memberList.eq_def]
        cases rest with
        | nil => exact hm
        | cons m' rest' => exact (hm.append (hword _ (by decide))).append (ihrest hrest)
    rw [expression.eq_def]
    cases members with
    | nil => exact hword _ (by decide)
    | cons m rest =>
      cases rest with
      | nil => exact ih m List.mem_cons_self
      | cons m' rest' =>
        exact ((hword _ (by decide)).append hmembers).append (hword _ (by decide))
  | nullable inner ih =>
    rw [expression.eq_def]
    exact ih.append (hword _ (by decide))
  | optional inner ih =>
    rw [expression.eq_def]
    exact ih.append (hword _ (by decide))
  | reference name deferred =>
    rw [expression.eq_def]
    have hname := Hanging.of_not_mem (hids name)
    cases deferred with
    | false => exact hname
    | true => exact ((hword _ (by decide)).append hname).append (.of_not_mem (by decide))

/-! ## Declaring lines -/

/-- The name that a line declares with a keyword. -/
def declared (keyword : String) (line : List Char) : Option String :=
  (Text.dropLeading? keyword.toList line).map fun rest =>
    String.ofList (rest.takeWhile Naming.isIdentifierChar)

/-- The names that the lines of a text declare with a keyword, in order. -/
def declaredNames (keyword text : String) : List String :=
  (Layout.linesOf text.toList).filterMap (declared keyword)

/-- What constants are declared with. -/
def constantKeyword : String := "export const "

/-- What types are declared with. -/
def typeKeyword : String := "export type "

/-- A keyword that a module declares names with. -/
def IsKeyword (keyword : String) : Prop := keyword = constantKeyword ∨ keyword = typeKeyword

variable {keyword : String}

/-- A line that begins with a keyword and an identifier declares the identifier. -/
lemma declared_eq_some {name : String} (hname : Naming.OnlyIdentifierChars name) {c : Char}
    (hc : Naming.isIdentifierChar c = false) (rest : List Char) :
    declared keyword (keyword.toList ++ (name.toList ++ c :: rest)) = some name := by
  rw [declared, Text.dropLeading?_append, Option.map_some, List.takeWhile_append_of_pos hname, List.takeWhile_cons,
    hc]
  simp

/-- A line that is empty or begins with a space or a closing brace declares nothing. -/
lemma declared_eq_none (hkeyword : IsKeyword keyword) {line : List Char}
    (h : line = [] ∨ ∃ c rest, line = c :: rest ∧ (c = ' ' ∨ c = '\x7d')) :
    declared keyword line = none := by
  obtain ⟨more, hmore⟩ : ∃ more, keyword.toList = 'e' :: more := by
    rcases hkeyword with rfl | rfl
    · exact ⟨_, rfl⟩
    · exact ⟨_, rfl⟩
  rw [declared, hmore]
  obtain rfl | ⟨c, rest, rfl, rfl | rfl⟩ := h
  · rfl
  · rfl
  · rfl

/-- Of a hanging text, only the first line can declare something. -/
lemma filterMap_declared_linesOf (hkeyword : IsKeyword keyword) {lead text : List Char}
    (hlead : '\n' ∉ lead) (h : Hanging (lead ++ text)) :
    ∃ piece, (Layout.linesOf (lead ++ text)).filterMap (declared keyword) =
      (declared keyword (lead ++ piece)).toList := by
  have hcut : ∀ c ∈ lead, (c == '\n') = false := by
    intro c hc
    rw [beq_eq_false_iff_ne]
    rintro rfl
    exact hlead hc
  obtain ⟨piece, pieces, hpieces⟩ :=
    List.exists_cons_of_ne_nil (Text.splitAtEach_ne_nil (· == '\n') text)
  have hlines : Layout.linesOf (lead ++ text) = (lead ++ piece) :: pieces :=
    Text.splitAtEach_append hcut hpieces
  obtain ⟨first, more, hfirst, hmore⟩ := h.linesOf_eq
  obtain ⟨-, rfl⟩ := List.cons.inj (hlines.symm.trans hfirst)
  have hnone : pieces.filterMap (declared keyword) = [] :=
    List.filterMap_eq_nil_iff.2 fun line hline => declared_eq_none hkeyword (Or.inr (hmore line hline))
  refine ⟨piece, ?_⟩
  rw [hlines, List.filterMap_cons, hnone]
  cases declared keyword (lead ++ piece) <;> rfl

/-- A hanging text that begins with a keyword and an identifier declares the identifier with the
keyword, and nothing with the other one. -/
lemma filterMap_declared_of_hanging (hkeyword : IsKeyword keyword) {name : String}
    (hname : Naming.OnlyIdentifierChars name) {c : Char}
    (hc : Naming.isIdentifierChar c = false) (hnewline : c ≠ '\n') {text rest : List Char}
    (htext : text = keyword.toList ++ (name.toList ++ c :: rest)) (h : Hanging text) :
    (Layout.linesOf text).filterMap (declared keyword) = [name] ∧
      ∀ other, IsKeyword other → other ≠ keyword →
        (Layout.linesOf text).filterMap (declared other) = [] := by
  have hlead : '\n' ∉ keyword.toList ++ (name.toList ++ [c]) := by
    simp only [List.mem_append, List.mem_singleton, not_or]
    refine ⟨?_, fun hmem => absurd (hname _ hmem) (by decide), hnewline.symm⟩
    rcases hkeyword with rfl | rfl <;> decide
  have hsplit : text = keyword.toList ++ (name.toList ++ [c]) ++ rest := by
    rw [htext]
    simp only [List.append_assoc, List.singleton_append]
  rw [hsplit] at h ⊢
  constructor
  · obtain ⟨piece, hpiece⟩ := filterMap_declared_linesOf hkeyword hlead h
    have hfirst : declared keyword (keyword.toList ++ (name.toList ++ c :: piece)) = some name :=
      declared_eq_some hname hc piece
    rw [hpiece, List.append_assoc, List.append_assoc, List.singleton_append, hfirst]
    rfl
  · intro other hother hne
    obtain ⟨piece, hpiece⟩ := filterMap_declared_linesOf hother hlead h
    have hfirst : ∀ rest, declared other (keyword.toList ++ rest) = none := by
      intro rest
      rcases hkeyword with rfl | rfl <;> rcases hother with rfl | rfl
      · exact absurd rfl hne
      · rfl
      · rfl
      · exact absurd rfl hne
    rw [hpiece, List.append_assoc, hfirst]
    rfl

/-- The text of the declaration of a schema declares its constant, and no type. -/
lemma filterMap_declared_declarationText (hids : NoLineEnds ids)
    (hchars : ∀ name, Naming.OnlyIdentifierChars (ids.schemaName name)) (d : Declaration) :
    (Layout.linesOf (declarationText ids d).toList).filterMap (declared constantKeyword) =
        [ids.schemaName d.name] ∧
      (Layout.linesOf (declarationText ids d).toList).filterMap (declared typeKeyword) = [] := by
  have hword : ∀ text : String, '\n' ∉ text.toList → Hanging text.toList :=
    fun _ => Hanging.of_not_mem
  have hvalue := hanging_expression hids d.validator
  have hstart : Hanging (constantKeyword.toList ++ (ids.schemaName d.name).toList) :=
    (hword _ (by decide)).append (hword _ (hids d.name))
  have hdeclared : ∀ (c : Char) (lead : String) (last : String),
      Naming.isIdentifierChar c = false → c ≠ '\n' → Hanging (c :: lead.toList) →
      Hanging last.toList →
      ∀ text, text = constantKeyword.toList ++ ((ids.schemaName d.name).toList ++
        c :: (lead.toList ++ (expression ids d.validator ++ last.toList))) →
      (Layout.linesOf text).filterMap (declared constantKeyword) = [ids.schemaName d.name] ∧
        (Layout.linesOf text).filterMap (declared typeKeyword) = [] := by
    intro c lead last hc hnewline hlead hlast text htext
    have hanging : Hanging text := by
      rw [htext, ← List.append_assoc]
      exact hstart.append (hlead.append (hvalue.append hlast))
    obtain ⟨hconstant, hother⟩ :=
      filterMap_declared_of_hanging (Or.inl rfl) (hchars d.name) hc hnewline htext hanging
    exact ⟨hconstant, hother typeKeyword (Or.inr rfl) (by decide)⟩
  unfold declarationText
  dsimp only
  split
  · refine hdeclared ':' " z.ZodType<unknown> = z.lazy(() => " ");" rfl (by decide)
      (.of_not_mem (by decide)) (hword _ (by decide)) _ ?_
    simp only [String.toList_append, String.toList_ofList, List.append_assoc]
    rfl
  · refine hdeclared ' ' "= " ";" rfl (by decide) (.of_not_mem (by decide)) (hword _ (by decide)) _ ?_
    simp only [String.toList_append, String.toList_ofList, List.append_assoc]
    rfl

/-- The text of the declaration of the type of a schema declares the type, and no constant. -/
lemma filterMap_declared_typeText (hids : NoLineEnds ids)
    (hchars : ∀ name, Naming.OnlyIdentifierChars (ids.typeName name)) (d : Declaration) :
    (Layout.linesOf (typeText ids d).toList).filterMap (declared typeKeyword) =
        [ids.typeName d.name] ∧
      (Layout.linesOf (typeText ids d).toList).filterMap (declared constantKeyword) = [] := by
  have htext : (typeText ids d).toList = typeKeyword.toList ++ ((ids.typeName d.name).toList ++
      ' ' :: ("= z.infer<typeof ".toList ++ ((ids.schemaName d.name).toList ++ ">;".toList))) := by
    delta typeText
    simp only [String.toList_append, List.append_assoc]
    rfl
  have hname : '\n' ∉ (ids.typeName d.name).toList :=
    fun hmem => absurd (hchars d.name _ hmem) (by decide)
  have hword : ∀ text : String, '\n' ∉ text.toList → Hanging text.toList :=
    fun _ => Hanging.of_not_mem
  have hanging : Hanging (typeText ids d).toList := by
    rw [htext]
    refine (hword _ (by decide)).append ((hword _ hname).append ?_)
    exact (hword " = z.infer<typeof " (by decide)).append
      ((hword _ (hids d.name)).append (hword _ (by decide)))
  obtain ⟨htype, hother⟩ := filterMap_declared_of_hanging (Or.inr rfl) (hchars d.name) rfl
    (by decide) htext hanging
  exact ⟨htype, hother constantKeyword (Or.inl rfl) (by decide)⟩

/-! ## The lines of a module -/

open Layout (Step Balanced written block)

/-- Steps that declare names: the names in the lines that they write from level `0` on. -/
def namesIn (keyword : String) (steps : List Step) : List String :=
  (written 0 steps).filterMap (declared keyword)

/-- Balanced steps and others declare what each of them declares. -/
lemma namesIn_append {a b : List Step} (ha : Balanced a) :
    namesIn keyword (a ++ b) = namesIn keyword a ++ namesIn keyword b := by
  rw [namesIn, Layout.written_append, ha.levelAfter_eq, List.filterMap_append]
  rfl

/-- A line at level `0` declares what the lines of its text declare. -/
lemma namesIn_line (text : String) :
    namesIn keyword [.line text] = (Layout.linesOf text.toList).filterMap (declared keyword) := by
  have hid : ∀ line : List Char, Layout.lineAt 0 line = line := by
    intro line
    unfold Layout.lineAt
    split
    · next hempty => exact (List.isEmpty_iff.1 hempty).symm
    · rfl
  rw [namesIn, written, written, List.append_nil, List.map_congr_left fun line _ => hid line,
    List.map_id']

/-- Lines at level `0` declare what each of them declares. -/
lemma namesIn_lines {α : Type} (text : α → String) (xs : List α) :
    namesIn keyword (xs.map fun x => .line (text x)) =
      xs.flatMap fun x => (Layout.linesOf (text x).toList).filterMap (declared keyword) := by
  induction xs with
  | nil => rfl
  | cons x rest ih =>
    rw [List.map_cons, ← List.singleton_append, namesIn_append (.line _), namesIn_line, ih,
      List.flatMap_cons]

/-- A block declares what its first and its last line declare. -/
lemma namesIn_block (hkeyword : IsKeyword keyword) {inner : List Step} (h : Balanced inner)
    (first last : String) :
    namesIn keyword (block first inner last) =
      namesIn keyword [.line first] ++ namesIn keyword [.line last] := by
  have hinner : (written 1 inner).filterMap (declared keyword) = [] := by
    refine List.filterMap_eq_nil_iff.2 fun line hline => declared_eq_none hkeyword ?_
    obtain rfl | ⟨rest, rfl⟩ := h.inset hline
    · exact Or.inl rfl
    · exact Or.inr ⟨' ', rest, rfl, Or.inl rfl⟩
  have hline : ∀ text : String, namesIn keyword [.line text] =
      ((Layout.linesOf text.toList).map (Layout.lineAt 0)).filterMap (declared keyword) := by
    intro text
    rw [namesIn, written, written, List.append_nil]
  rw [namesIn, h.written_block, List.filterMap_append, List.filterMap_append, hinner,
    List.nil_append, hline, hline]

/-- The fixed errors and functions declare nothing. -/
lemma namesIn_helpers (hkeyword : IsKeyword keyword) :
    namesIn keyword (helpers.map .line) = [] := by
  -- The literals are taken apart by a lemma, which is much faster than decoding them.
  delta helpers
  simp only [List.map_cons, List.map_nil, namesIn, written]
  repeat rw [String.toList_ofList]
  rcases hkeyword with rfl | rfl <;> decide +kernel

/-- What a module declares with a keyword: what the declarations of its schemas and their types
declare, and the configuration. -/
lemma declaredNames_render (hkeyword : IsKeyword keyword) (blueprint : Blueprint)
    {ids : Identifiers} (hids : ids = .ofDeclarations blueprint.declarations) :
    declaredNames keyword (render blueprint) =
      (blueprint.components.flatMap fun d =>
          (Layout.linesOf (declarationText ids d).toList).filterMap (declared keyword)) ++
        ((blueprint.components.flatMap fun d =>
            (Layout.linesOf (typeText ids d).toList).filterMap (declared keyword)) ++
          ((blueprint.inline.flatMap fun d =>
              (Layout.linesOf (declarationText ids d).toList).filterMap (declared keyword)) ++
            namesIn keyword configSteps)) := by
  have hblank : namesIn keyword [.blank] = [] := by
    rcases hkeyword with rfl | rfl <;> rfl
  have hheader : namesIn keyword (header.map .line) = [] := by
    rcases hkeyword with rfl | rfl <;> decide +kernel
  have hlast : declared keyword [] = none := declared_eq_none hkeyword (Or.inl rfl)
  have hfactory : namesIn keyword (factorySteps ids blueprint.tree) = [] := by
    rw [factorySteps, namesIn_block hkeyword (.block _ _ (balanced_treeSteps ids blueprint.tree))]
    rcases hkeyword with rfl | rfl <;> rfl
  have hnone : [([] : List Char)].filterMap (declared keyword) = [] := by
    rw [List.filterMap_cons_none hlast, List.filterMap_nil]
  rw [declaredNames, render, Layout.lines_render, List.filterMap_append, hnone, List.append_nil,
    ← namesIn, moduleSteps, ← hids]
  simp only [List.append_assoc]
  rw [namesIn_append (.lines _ header), namesIn_append .blank, namesIn_append (.lines _ helpers),
    namesIn_append .blank, namesIn_append (.lines _ _), namesIn_append .blank,
    namesIn_append (.lines _ _), namesIn_append .blank, namesIn_append (.lines _ _),
    namesIn_append .blank, namesIn_append balanced_configSteps, namesIn_append .blank, hheader, hblank,
    namesIn_helpers hkeyword, hfactory, namesIn_lines, namesIn_lines, namesIn_lines]
  simp only [List.nil_append, List.append_nil]

variable (blueprint : Blueprint)

/-- The constants that a module declares are those of its schemas, in order. -/
theorem declaredNames_constants :
    declaredNames constantKeyword (render blueprint) = blueprint.declarations.map fun d =>
      (Identifiers.ofDeclarations blueprint.declarations).schemaName d.name := by
  have hids := noLineEnds_ofDeclarations blueprint.declarations
  have hschema := Identifiers.onlyIdentifierChars_schemaName blueprint.declarations
  have htype := Identifiers.onlyIdentifierChars_typeName blueprint.declarations
  generalize heq : Identifiers.ofDeclarations blueprint.declarations = ids at hids hschema htype
  have hdeclared : ∀ ds : List Declaration, (ds.flatMap fun d =>
      (Layout.linesOf (declarationText ids d).toList).filterMap (declared constantKeyword)) =
        ds.map fun d => ids.schemaName d.name := by
    intro ds
    rw [List.map_eq_flatMap]
    exact List.flatMap_congr fun d _ => (filterMap_declared_declarationText hids hschema d).1
  have htypes : (blueprint.components.flatMap fun d =>
      (Layout.linesOf (typeText ids d).toList).filterMap (declared constantKeyword)) = [] :=
    List.flatMap_eq_nil_iff.2 fun d _ => (filterMap_declared_typeText hids htype d).2
  have hconfig : namesIn constantKeyword configSteps = [] := by decide +kernel
  rw [declaredNames_render (Or.inl rfl) blueprint heq.symm, hdeclared, htypes, hdeclared, hconfig,
    List.nil_append, List.append_nil, Blueprint.declarations, List.map_append]

/-- The types that a module declares are those of the named schemas, in order, and that of the
configuration. -/
theorem declaredNames_types :
    declaredNames typeKeyword (render blueprint) = (blueprint.components.map fun d =>
      (Identifiers.ofDeclarations blueprint.declarations).typeName d.name) ++ ["ClientConfig"] := by
  have hids := noLineEnds_ofDeclarations blueprint.declarations
  have hschema := Identifiers.onlyIdentifierChars_schemaName blueprint.declarations
  have htype := Identifiers.onlyIdentifierChars_typeName blueprint.declarations
  generalize heq : Identifiers.ofDeclarations blueprint.declarations = ids at hids hschema htype
  have hdeclared : ∀ ds : List Declaration, (ds.flatMap fun d =>
      (Layout.linesOf (declarationText ids d).toList).filterMap (declared typeKeyword)) = [] :=
    fun ds => List.flatMap_eq_nil_iff.2 fun d _ =>
      (filterMap_declared_declarationText hids hschema d).2
  have htypes : (blueprint.components.flatMap fun d =>
      (Layout.linesOf (typeText ids d).toList).filterMap (declared typeKeyword)) =
        blueprint.components.map fun d => ids.typeName d.name := by
    rw [List.map_eq_flatMap]
    exact List.flatMap_congr fun d _ => (filterMap_declared_typeText hids htype d).1
  have hconfig : namesIn typeKeyword configSteps = ["ClientConfig"] := by decide +kernel
  rw [declaredNames_render (Or.inr rfl) blueprint heq.symm, hdeclared, htypes, hdeclared, hconfig,
    List.nil_append, List.nil_append]

end TypeScript

end TypedClient
