import TypedClient.Proofs.TypeScript.Distinct
import TypedClient.Proofs.TypeScript.Written
import TypedClient.Proofs.Validator.Relabel

/-!
# Expressions tell validators apart

The expression of a validator shows everything but the blanks in the descriptions of fields: two
validators have the same expression if and only if they differ in these blanks at most
(`expression_eq_iff`).  So no name, description or nesting can make the expression of one validator
read as that of another one.

Where an expression ends cannot be told from the expression alone, since a suffix may follow, and
how its lines are indented depends on where it stands.  So the proof is about expressions at any
depth, in front of any suffixes and any text that can follow (`Legible`): the first letters of an
expression tell its kind (`readHead`), and the parts of each kind are told apart one after the
other.
-/

namespace TypedClient.TypeScript

open Validator (Occurs)

/-! ## What an expression begins with -/

/-- What kind of expression a validator has. -/
inductive Head where
  | string
  | number
  | boolean
  | any
  | object
  | array
  | union
  | name
  | deferred
  /-- An expression with a suffix begins like the one without it. -/
  | suffixed
deriving DecidableEq

/-- The kind of the expression of a validator. -/
def head : Validator → Head
  | .string => .string
  | .number => .number
  | .boolean => .boolean
  | .any => .any
  | .object _ _ => .object
  | .array _ => .array
  | .union _ => .union
  | .nullable _ => .suffixed
  | .optional _ => .suffixed
  | .reference _ false => .name
  | .reference _ true => .deferred

/-- Reads the kind of an expression off its first letters. -/
def readHead : List Char → Head
  | _ :: '.' :: 's' :: _ => .string
  | _ :: '.' :: 'n' :: _ => .number
  | _ :: '.' :: 'b' :: _ => .boolean
  | _ :: '.' :: 'a' :: 'n' :: _ => .any
  | _ :: '.' :: 'o' :: _ => .object
  | _ :: '.' :: 'a' :: 'r' :: _ => .array
  | _ :: '.' :: 'u' :: _ => .union
  | _ :: '.' :: 'l' :: _ => .deferred
  | _ => .name

/-- A validator whose expression shows it: no union in it has fewer than two members, which would
not be written as a union, and its references lead to certain names. -/
structure Expressible (names : List String) (v : Validator) : Prop where
  /-- Every union has at least two members. -/
  union : ∀ members, Occurs (.union members) v → 2 ≤ members.length
  /-- Every reference leads to one of the names. -/
  reference : ∀ name deferred, Occurs (.reference name deferred) v → name ∈ names

/-- What holds of a validator holds of its parts. -/
lemma Expressible.part {names : List String} {v part : Validator} (h : Expressible names v)
    (hpart : ∀ u, Occurs u part → Occurs u v) : Expressible names part where
  union members hmembers := h.union members (hpart _ hmembers)
  reference name deferred hname := h.reference name deferred (hpart _ hname)

variable {ids : Identifiers} {names : List String} {depth : Nat} {v w : Validator}

/-- The name of a validator is not taken for another expression, which has a point behind its first
letter. -/
lemma readHead_schemaName (hids : ids.Separates names) (name : String) (rest : List Char) :
    readHead ((ids.schemaName name).toList ++ rest) = .name := by
  have hchars := hids.chars name
  unfold Naming.OnlyIdentifierChars at hchars
  have hlength : 2 ≤ (ids.schemaName name).toList.length := by
    rw [Identifiers.schemaName, String.toList_append, List.length_append]
    have hschema : "Schema".toList.length = 6 := by decide
    omega
  obtain ⟨first, second, more, htext⟩ := Text.exists_cons_cons hlength
  rw [htext] at hchars ⊢
  have hsecond : second ≠ '.' := by
    rintro rfl
    exact absurd (hchars '.' (by simp)) (by decide)
  rw [List.cons_append, List.cons_append]
  unfold readHead
  split
  all_goals first
    | rfl
    | next heq => exact absurd (List.cons.inj (List.cons.inj heq).2).1 hsecond

/-- The kind of an expression is read back. -/
lemma readHead_written (hids : ids.Separates names) (hv : Expressible names v)
    (hhead : head v ≠ .suffixed) (rest : List Char) :
    readHead (written ids depth v ++ rest) = head v := by
  have hword : ∀ {text : String}, '\n' ∉ text.toList → expression ids v = text.toList →
      written ids depth v = text.toList := by
    intro text htext hexpression
    rw [written, hexpression, indented_word htext]
  cases v with
  | string => rw [hword (by decide) (expression.eq_def ids .string)]; rfl
  | number => rw [hword (by decide) (expression.eq_def ids .number)]; rfl
  | boolean => rw [hword (by decide) (expression.eq_def ids .boolean)]; rfl
  | any => rw [hword (by decide) (expression.eq_def ids .any)]; rfl
  | object fields mode => rw [written_object, List.append_assoc]; rfl
  | array items => rw [written_array, List.append_assoc]; rfl
  | union members =>
    obtain ⟨first, next, more, rfl⟩ := Text.exists_cons_cons (hv.union members .here)
    rw [written_union, List.append_assoc]
    rfl
  | nullable inner => exact absurd rfl hhead
  | optional inner => exact absurd rfl hhead
  | reference name deferred =>
    cases deferred with
    | false => rw [written_reference hids.noLineEnds, readHead_schemaName hids]; rfl
    | true => rw [written_deferred hids.noLineEnds, List.append_assoc]; rfl

/-- Two validators of one form, which is none with a suffix. -/
inductive SameKind : Validator → Validator → Prop where
  | string : SameKind .string .string
  | number : SameKind .number .number
  | boolean : SameKind .boolean .boolean
  | any : SameKind .any .any
  | object (fields fields' : List (Field Validator)) (mode mode' : Mode) :
    SameKind (.object fields mode) (.object fields' mode')
  | array (items items' : Validator) : SameKind (.array items) (.array items')
  | union (members members' : List Validator) : SameKind (.union members) (.union members')
  | reference (name name' : String) (deferred : Bool) :
    SameKind (.reference name deferred) (.reference name' deferred)

/-- Validators whose expressions are of one kind, and end in no suffix, are of one form. -/
lemma sameKind_of_head_eq (h : head w = head v) (hhead : head v ≠ .suffixed) : SameKind v w := by
  cases v with
  | nullable inner => exact absurd rfl hhead
  | optional inner => exact absurd rfl hhead
  | reference name deferred =>
    cases w with
    | reference name' deferred' =>
      obtain rfl : deferred = deferred' := by
        cases deferred <;> cases deferred' <;> first | rfl | cases h
      exact .reference name name' deferred
    | _ => cases deferred <;> cases h
  | _ =>
    cases w with
    | reference name deferred => cases deferred <;> cases h
    | _ => first | constructor | cases h

/-! ## Validators that are told apart -/

/-- A validator with single spaces between the words of the descriptions of its fields. -/
def normal (v : Validator) : Validator := v.relabel id (Option.map oneLine)

/-- A field with single spaces between the words of the descriptions in it. -/
def normalField (field : Field Validator) : Field Validator :=
  Validator.relabelField id (Option.map oneLine) field

/-- A suffix has no description. -/
lemma normal_apply (suffix : Suffix) (v : Validator) :
    normal (suffix.apply v) = suffix.apply (normal v) := by
  cases suffix <;> rfl

section Told

variable (ids : Identifiers) (names : List String)

/-- Two validators are told apart: if their expressions, at any depth, with any suffixes and in
front of any texts that can follow, are written alike, then they and their suffixes are the same,
and so are the texts. -/
def Told (v w : Validator) : Prop :=
  ∀ depth suffixes suffixes' rest rest', Closed rest → Closed rest' →
    written ids depth v ++ (suffixes.flatMap Suffix.text ++ rest) =
      written ids depth w ++ (suffixes'.flatMap Suffix.text ++ rest') →
    Suffix.applyAll suffixes (normal v) = Suffix.applyAll suffixes' (normal w) ∧ rest = rest'

/-- A validator is told apart from all others. -/
def Legible (v : Validator) : Prop := ∀ w, Expressible names w → Told ids v w

/-- A validator is told apart from those whose expression is of the same kind, as far as the
suffixes are. -/
def LegibleInKind (v : Validator) : Prop :=
  ∀ depth w rest rest', head w = head v → Expressible names w → Follows rest → Follows rest' →
    written ids depth v ++ rest = written ids depth w ++ rest' → normal v = normal w ∧ rest = rest'

end Told

/-- To be told apart is mutual. -/
lemma Told.symm (h : Told ids v w) : Told ids w v := by
  intro depth suffixes suffixes' rest rest' hrest hrest' heq
  obtain ⟨hsame, htail⟩ := h depth suffixes' suffixes rest' rest hrest' hrest heq.symm
  exact ⟨hsame.symm, htail.symm⟩

/-- A suffix may be counted among those that stand behind the expression. -/
lemma Told.apply (h : Told ids v w) (suffix : Suffix) : Told ids (suffix.apply v) w := by
  intro depth suffixes suffixes' rest rest' hrest hrest' heq
  rw [written_suffix, List.append_assoc, ← List.append_assoc suffix.text,
    ← List.flatMap_cons] at heq
  rw [normal_apply]
  exact h depth (suffix :: suffixes) suffixes' rest rest' hrest hrest' heq

/-- Without suffixes, the validators are compared. -/
lemma Told.eq_of_append (h : Told ids v w) {rest rest' : List Char} (hrest : Closed rest)
    (hrest' : Closed rest') (heq : written ids depth v ++ rest = written ids depth w ++ rest') :
    normal v = normal w ∧ rest = rest' :=
  h depth [] [] rest rest' hrest hrest' heq

/-- A validator is told apart from all others if it is from those whose expression is of the same
kind. -/
lemma LegibleInKind.legible (hids : ids.Separates names) (hv : Expressible names v)
    (hhead : head v ≠ .suffixed) (h : LegibleInKind ids names v) : Legible ids names v := by
  have hplain : ∀ w, head w ≠ .suffixed → Expressible names w → Told ids v w := by
    intro w hother hw depth suffixes suffixes' rest rest' hrest hrest' heq
    have hfollows := follows_suffixes_append suffixes hrest
    have hfollows' := follows_suffixes_append suffixes' hrest'
    have hkind : head w = head v := by
      rw [← readHead_written hids hw hother, ← heq, readHead_written hids hv hhead]
    obtain ⟨hsame, htail⟩ := h depth w _ _ hkind hw hfollows hfollows' heq
    obtain ⟨rfl, rfl⟩ := eq_of_suffixes_append hrest hrest' htail
    exact ⟨by rw [hsame], rfl⟩
  -- The suffixes of the other validator are taken off one by one.
  intro w hw
  induction w using Validator.inductionOn with
  | nullable inner ih =>
    have hinner : Told ids v inner := ih (hw.part fun _ => .nullable)
    exact (hinner.symm.apply .nullable).symm
  | optional inner ih =>
    have hinner : Told ids v inner := ih (hw.part fun _ => .optional)
    exact (hinner.symm.apply .optional).symm
  | reference name deferred => exact hplain _ (by cases deferred <;> simp [head]) hw
  | _ => exact hplain _ (by simp [head]) hw

/-! ## The kinds of expressions -/

/-- An expression that consists of one word is told apart, since its kind tells everything. -/
lemma legibleInKind_of_word (hv : v = .string ∨ v = .number ∨ v = .boolean ∨ v = .any) :
    LegibleInKind ids names v := by
  intro depth w rest rest' hkind _ _ _ heq
  obtain rfl : w = v := by
    rcases hv with rfl | rfl | rfl | rfl <;> cases sameKind_of_head_eq hkind nofun <;> rfl
  exact ⟨rfl, List.append_cancel_left heq⟩

/-- A comma and more can follow an expression. -/
lemma closed_comma (rest : List Char) : Closed (',' :: rest) := by
  intro c hc
  exact Or.inl (Option.some_inj.1 hc).symm

/-- A closing bracket and more can follow an expression. -/
lemma closed_bracket {bracket : Char} (h : bracket = ')' ∨ bracket = ']') (rest : List Char) :
    Closed (bracket :: rest) := by
  intro c hc
  obtain rfl := Option.some_inj.1 hc
  exact Or.inr h

/-- An array is told apart if its items are. -/
lemma legibleInKind_array {items : Validator} (h : Legible ids names items) :
    LegibleInKind ids names (.array items) := by
  intro depth w rest rest' hkind hw _ _ heq
  obtain ⟨items', rfl⟩ : ∃ items', w = .array items' := by
    cases sameKind_of_head_eq hkind nofun with
    | array _ items' => exact ⟨items', rfl⟩
  have hitems : Told ids items items' := h items' (hw.part fun _ => .item)
  rw [written_array, written_array, List.append_assoc, List.append_assoc, List.append_assoc,
    List.append_assoc] at heq
  obtain ⟨hsame, htail⟩ := hitems.eq_of_append (closed_bracket (Or.inl rfl) _)
    (closed_bracket (Or.inl rfl) _) (List.append_cancel_left heq)
  exact ⟨congrArg Validator.array hsame, (List.cons.inj htail).2⟩

/-- A reference that is not deferred is told apart by its name. -/
lemma legibleInKind_name (hids : ids.Separates names) {name : String} (hname : name ∈ names) :
    LegibleInKind ids names (.reference name false) := by
  intro depth w rest rest' hkind hw hrest hrest' heq
  obtain ⟨name', rfl⟩ : ∃ name', w = .reference name' false := by
    cases sameKind_of_head_eq hkind nofun with
    | reference _ name' _ => exact ⟨name', rfl⟩
  have hname' : name' ∈ names := hw.reference name' false .here
  rw [written_reference hids.noLineEnds, written_reference hids.noLineEnds] at heq
  obtain ⟨rfl, htail⟩ := hids.eq_of_schemaName_append hname hname' hrest hrest' heq
  exact ⟨rfl, htail⟩

/-- So is one that is deferred. -/
lemma legibleInKind_deferred (hids : ids.Separates names) {name : String} (hname : name ∈ names) :
    LegibleInKind ids names (.reference name true) := by
  intro depth w rest rest' hkind hw _ _ heq
  obtain ⟨name', rfl⟩ : ∃ name', w = .reference name' true := by
    cases sameKind_of_head_eq hkind nofun with
    | reference _ name' _ => exact ⟨name', rfl⟩
  have hname' : name' ∈ names := hw.reference name' true .here
  have hclosed : ∀ more : List Char, Follows (')' :: more) := fun more =>
    Or.inl (closed_bracket (Or.inl rfl) more)
  rw [written_deferred hids.noLineEnds, written_deferred hids.noLineEnds, List.append_assoc,
    List.append_assoc, List.append_assoc, List.append_assoc] at heq
  obtain ⟨rfl, htail⟩ := hids.eq_of_schemaName_append hname hname' (hclosed rest) (hclosed rest')
    (List.append_cancel_left heq)
  exact ⟨rfl, (List.cons.inj htail).2⟩

/-- Unions are compared member by member. -/
lemma normal_union (members : List Validator) :
    normal (.union members) = .union (members.map normal) := by
  rw [normal, Validator.relabel, Validator.relabelMembers_eq_map]
  rfl

/-- Objects are compared field by field. -/
lemma normal_object (fields : List (Field Validator)) (mode : Mode) :
    normal (.object fields mode) = .object (fields.map normalField) mode := by
  rw [normal, Validator.relabel, Validator.relabelFields_eq_map]
  rfl

/-- A union is told apart if its members are: the first one, and then each with the comma before
it. -/
lemma legibleInKind_union {members : List Validator} (hlength : 2 ≤ members.length)
    (h : ∀ m ∈ members, Legible ids names m) : LegibleInKind ids names (.union members) := by
  intro depth w rest rest' hkind hw _ _ heq
  obtain ⟨members', rfl⟩ : ∃ members', w = .union members' := by
    cases sameKind_of_head_eq hkind nofun with
    | union _ members' => exact ⟨members', rfl⟩
  obtain ⟨first, next, more, rfl⟩ := Text.exists_cons_cons hlength
  obtain ⟨first', next', more', rfl⟩ := Text.exists_cons_cons (hw.union members' .here)
  have hmember : ∀ m' ∈ first' :: next' :: more', Expressible names m' := fun m' hm' =>
    hw.part fun _ => .member hm'
  have htold : ∀ m ∈ next :: more, ∀ m' ∈ next' :: more', Told ids m m' := fun m hm m' hm' =>
    h m (List.mem_cons_of_mem _ hm) m' (hmember m' (List.mem_cons_of_mem _ hm'))
  have hfirst : Told ids first first' :=
    h first List.mem_cons_self first' (hmember first' List.mem_cons_self)
  have hcomma : ∀ (m : Validator) (r : List Char),
      Closed ((", ".toList ++ written ids depth m) ++ r) := fun m r => closed_comma _
  have hend : ∀ r : List Char, r.head? = some ']' → Closed r := by
    intro r hr c hc
    rw [hr] at hc
    exact Or.inr (Or.inr (Option.some_inj.1 hc).symm)
  rw [written_union, written_union] at heq
  simp only [List.append_assoc] at heq
  obtain ⟨hsame, hmore⟩ := hfirst.eq_of_append (by exact closed_comma _) (by exact closed_comma _)
    (List.append_cancel_left heq)
  obtain ⟨hmap, htail⟩ := Text.map_eq_of_flatMap_append normal (fun r => r.head? = some ']') Closed
    (fun m hm m' hm' r r' hr hr' hcode => by
      rw [List.append_assoc, List.append_assoc] at hcode
      exact (htold m hm m' hm').eq_of_append hr hr' (List.append_cancel_left hcode))
    hcomma hend (fun m r hr => by cases hr) rfl rfl hmore
  refine ⟨?_, List.append_cancel_left htail⟩
  have hall : (first :: next :: more).map normal = (first' :: next' :: more').map normal := by
    rw [List.map_cons, hsame, hmap]
    rfl
  rw [normal_union, normal_union, hall]

/-- The lines of fields are written alike only if the fields are told apart by nothing: the key ends
at its colon, the expression at its comma, and the comment with the line. -/
lemma eq_of_writtenField_append {field field' : Field Validator}
    (h : Legible ids names field.body) (hfield' : Expressible names field'.body)
    {rest rest' : List Char}
    (heq : writtenField ids depth field ++ rest = writtenField ids depth field' ++ rest') :
    normalField field = normalField field' ∧ rest = rest' := by
  have hline : ∀ (f : Field Validator) (r : List Char), writtenField ids depth f ++ r =
      "  ".toList ++ (objectKey f.name ++ ':' :: ' ' :: (written ids (depth + 1) f.body ++
        ',' :: (fieldComment f.description ++ '\n' ::
          (List.replicate (2 * depth) ' ' ++ r)))) := by
    intro f r
    unfold writtenField lineBreak
    simp only [List.append_assoc]
    rfl
  rw [hline, hline] at heq
  obtain ⟨hname, hbody⟩ := eq_of_objectKey_append (List.append_cancel_left heq)
  obtain ⟨hsame, hcomment⟩ := (h field'.body hfield').eq_of_append (closed_comma _)
    (closed_comma _) (List.cons.inj hbody).2
  obtain ⟨hdescription, htail⟩ := eq_of_fieldComment_append (List.cons.inj hcomment).2
  refine ⟨?_, List.append_cancel_left htail⟩
  rw [normalField, normalField, Validator.relabelField, Validator.relabelField, hname, hdescription]
  exact congrArg (fun body => Field.mk field'.name body _) hsame

/-- An object is told apart if its fields are. -/
lemma legibleInKind_object {fields : List (Field Validator)} {mode : Mode}
    (h : ∀ f ∈ fields, Legible ids names f.body) :
    LegibleInKind ids names (.object fields mode) := by
  intro depth w rest rest' hkind hw hrest hrest' heq
  obtain ⟨fields', mode', rfl⟩ : ∃ fields' mode', w = .object fields' mode' := by
    cases sameKind_of_head_eq hkind nofun with
    | object _ fields' _ mode' => exact ⟨fields', mode', rfl⟩
  have hfield' : ∀ f' ∈ fields', Expressible names f'.body := fun f' hf' =>
    hw.part fun _ => .field hf'
  -- Behind the opening brace there is a line feed if and only if there are fields.
  have hopening : ∀ (fs : List (Field Validator)) (tail : List Char),
      ((if fs.isEmpty then [] else lineBreak depth) ++
        (fs.flatMap (writtenField ids depth) ++ ("\x7d)".toList ++ tail))).head? =
          some (if fs.isEmpty then '\x7d' else '\n') := by
    intro fs tail
    cases fs <;> rfl
  rw [written_object, written_object] at heq
  simp only [List.append_assoc] at heq
  replace heq := List.append_cancel_left heq
  have hempty : fields.isEmpty = fields'.isEmpty := by
    have hchar := congrArg List.head? heq
    rw [hopening, hopening, Option.some_inj] at hchar
    revert hchar
    cases fields.isEmpty <;> cases fields'.isEmpty <;> decide
  rw [hempty] at heq
  obtain ⟨hmap, htail⟩ := Text.map_eq_of_flatMap_append normalField
    (fun r => r.head? = some '\x7d') (fun _ => True)
    (fun f hf f' hf' r r' _ _ hcode => eq_of_writtenField_append (h f hf) (hfield' f' hf') hcode)
    (fun _ _ => trivial) (fun _ _ => trivial) (fun f r hr => by cases hr) rfl rfl
    (List.append_cancel_left heq)
  obtain ⟨rfl, hsame⟩ := eq_of_modeSuffix_append hrest hrest' (List.append_cancel_left htail)
  exact ⟨by rw [normal_object, normal_object, hmap], hsame⟩

/-- Every validator that is shown by its expression is told apart from all others. -/
lemma legible (hids : ids.Separates names) (hv : Expressible names v) : Legible ids names v := by
  induction v using Validator.inductionOn with
  | object fields mode ih =>
    have hfields : ∀ f ∈ fields, Legible ids names f.body := fun f hf =>
      ih f hf (hv.part fun _ => .field hf)
    exact (legibleInKind_object hfields).legible hids hv nofun
  | array items ih =>
    have hitems : Legible ids names items := ih (hv.part fun _ => .item)
    exact (legibleInKind_array hitems).legible hids hv nofun
  | union members ih =>
    have hmembers : ∀ m ∈ members, Legible ids names m := fun m hm =>
      ih m hm (hv.part fun _ => .member hm)
    exact (legibleInKind_union (hv.union members .here) hmembers).legible hids hv nofun
  | nullable inner ih =>
    have hinner : Legible ids names inner := ih (hv.part fun _ => .nullable)
    exact fun w hw => (hinner w hw).apply .nullable
  | optional inner ih =>
    have hinner : Legible ids names inner := ih (hv.part fun _ => .optional)
    exact fun w hw => (hinner w hw).apply .optional
  | reference name deferred =>
    have hname : name ∈ names := hv.reference name deferred .here
    cases deferred with
    | false => exact (legibleInKind_name hids hname).legible hids hv nofun
    | true => exact (legibleInKind_deferred hids hname).legible hids hv nofun
  | string => exact (legibleInKind_of_word (by simp)).legible hids hv nofun
  | number => exact (legibleInKind_of_word (by simp)).legible hids hv nofun
  | boolean => exact (legibleInKind_of_word (by simp)).legible hids hv nofun
  | any => exact (legibleInKind_of_word (by simp)).legible hids hv nofun

/-! ## What is not shown -/

/-- A description with single spaces between its words is brought on one line as it is. -/
lemma singleLine_oneLine (text : String) : singleLine (oneLine text) = singleLine text := by
  have hwords : ∀ word ∈ Text.wordsBetween Text.isBlank text.toList, word ≠ [] ∧
      ∀ c ∈ word, Text.isBlank c = false := by
    intro word hword
    obtain ⟨hpiece, hne⟩ := List.mem_filter.1 hword
    exact ⟨by simpa using hne, fun c hc => Text.eq_false_of_mem_splitAtEach hpiece hc⟩
  rw [oneLine, singleLine, String.toList_ofList, singleLine,
    Text.wordsBetween_join (by decide) hwords]

/-- The blanks in descriptions leave no trace in an expression. -/
lemma expression_normal (ids : Identifiers) (v : Validator) :
    expression ids (normal v) = expression ids v := by
  induction v using Validator.inductionOn with
  | object fields mode ih =>
    have hcomment : ∀ description : Option String,
        fieldComment (description.map oneLine) = fieldComment description := by
      intro description
      cases description with
      | none => rfl
      | some text => rw [Option.map_some, fieldComment, fieldComment, singleLine_oneLine]
    have hlines : fieldLines ids (fields.map normalField) = fieldLines ids fields := by
      induction fields with
      | nil => rfl
      | cons field rest ihrest =>
        obtain ⟨hfield, hrest⟩ := List.forall_mem_cons.1 ih
        have hline : fieldLine field.name (expression ids (normal field.body))
            (field.description.map oneLine) =
              fieldLine field.name (expression ids field.body) field.description := by
          delta fieldLine
          rw [hfield, hcomment]
        rw [List.map_cons, fieldLines.eq_def, fieldLines.eq_def ids (field :: rest)]
        dsimp only
        rw [ihrest hrest]
        exact congrArg (· ++ fieldLines ids rest) hline
    rw [normal_object, expression.eq_def, expression.eq_def ids (.object fields mode)]
    dsimp only
    rw [hlines, List.isEmpty_map]
  | array items ih =>
    have harray : normal (.array items) = .array (normal items) := rfl
    rw [harray, expression_array, expression_array, ih]
  | union members ih =>
    rw [normal_union]
    obtain _ | ⟨first, _ | ⟨next, rest⟩⟩ := members
    · rfl
    · rw [List.map_singleton, expression.eq_def, expression.eq_def ids (.union [first])]
      exact ih first List.mem_cons_self
    · have hmembers : memberList ids ((first :: next :: rest).map normal) =
          memberList ids (first :: next :: rest) := by
        obtain ⟨hfirst, hmore⟩ := List.forall_mem_cons.1 ih
        rw [List.map_cons, memberList_cons, memberList_cons, hfirst, List.flatMap_map]
        exact congrArg _ (List.flatMap_congr fun m hm => by rw [hmore m hm])
      rw [List.map_cons, List.map_cons] at hmembers ⊢
      rw [expression.eq_def, expression.eq_def ids (.union (first :: next :: rest))]
      dsimp only
      rw [hmembers]
  | nullable inner ih =>
    have hsuffix := expression_apply ids .nullable
    exact (hsuffix (normal inner)).trans (ih ▸ (hsuffix inner).symm)
  | optional inner ih =>
    have hsuffix := expression_apply ids .optional
    exact (hsuffix (normal inner)).trans (ih ▸ (hsuffix inner).symm)
  | _ => rfl

/-! ## The identifiers of a module -/

/-- The identifiers of declarations tell the declared names apart, also if a name is declared
twice. -/
lemma separates_ofDeclarations (declarations : List Declaration) :
    (Identifiers.ofDeclarations declarations).Separates (declarations.map Declaration.name) := by
  constructor
  case chars => exact Identifiers.onlyIdentifierChars_schemaName declarations
  case injective =>
    intro name hname name' hname' heq
    have htype : (Identifiers.ofDeclarations declarations).typeName name =
        (Identifiers.ofDeclarations declarations).typeName name' :=
      (String.append_left_inj "Schema").1 heq
    rw [← Identifiers.map_fst_assign reserved (declarations.map Declaration.name)] at hname hname'
    obtain ⟨id, hid⟩ := Entries.exists_get?_ofList hname
    obtain ⟨id', hid'⟩ := Entries.exists_get?_ofList hname'
    have hsame : id = id' := by
      rwa [Identifiers.typeName, Identifiers.typeName, Identifiers.ofDeclarations, hid, hid',
        Option.getD_some, Option.getD_some] at htype
    subst hsame
    have hinjective := List.inj_on_of_nodup_map
      (Identifiers.nodup_map_snd_assign reserved (declarations.map Declaration.name))
    have hpair := hinjective (Entries.mem_of_get?_ofList hid) (Entries.mem_of_get?_ofList hid') rfl
    exact (Prod.mk.inj hpair).1

/-! ## Expressions tell validators apart -/

/-- Two validators in which every union has at least two members and every reference leads to a
declared name have the same expression if and only if they are the same but for the blanks in the
descriptions of fields. -/
theorem expression_eq_iff (declarations : List Declaration) {v w : Validator}
    (hv : Expressible (declarations.map Declaration.name) v)
    (hw : Expressible (declarations.map Declaration.name) w) :
    expression (.ofDeclarations declarations) v = expression (.ofDeclarations declarations) w ↔
      normal v = normal w := by
  have hclosed : Closed [] := nofun
  have hzero : ∀ u, written (.ofDeclarations declarations) 0 u =
      expression (.ofDeclarations declarations) u := fun u => indented_eq_self fun _ => rfl
  constructor
  · intro heq
    have htold := legible (separates_ofDeclarations declarations) hv w hw
    have happend : written (.ofDeclarations declarations) 0 v ++ [] =
        written (.ofDeclarations declarations) 0 w ++ [] := by
      rw [hzero, hzero, heq]
    exact (htold.eq_of_append hclosed hclosed happend).1
  · intro hnormal
    rw [← expression_normal _ v, hnormal, expression_normal]

/-- A declaration that can be referred to. -/
def petDeclarations : List Declaration := [⟨"Pet", .object [] .strip, false⟩]

/-- The name of the declaration, or nothing, or a text. -/
def petUnion : Validator := .union [.string, .nullable (.reference "Pet" true)]

/-- The union has two members, and its reference leads to the declaration. -/
lemma expressible_petUnion : Expressible (petDeclarations.map Declaration.name) petUnion := by
  constructor
  case union =>
    intro members hoccurs
    cases hoccurs with
    | here => exact Nat.le_refl 2
    | member hm hoccurs =>
      rcases List.mem_pair.1 hm with rfl | rfl
      · cases hoccurs
      · obtain _ | _ | _ | _ | ⟨⟨⟩⟩ := hoccurs
  case reference =>
    intro name deferred hoccurs
    obtain _ | _ | _ | ⟨hm, hoccurs⟩ := hoccurs
    rcases List.mem_pair.1 hm with rfl | rfl
    · cases hoccurs
    · obtain _ | _ | _ | _ | ⟨⟨⟩⟩ := hoccurs
      exact List.mem_singleton_self _

/-- An object of such unions and texts has no other unions and references. -/
lemma expressible_petObject {fields : List (Field Validator)}
    (h : ∀ f ∈ fields, f.body = petUnion ∨ f.body = .string) :
    Expressible (petDeclarations.map Declaration.name) (.object fields .strip) := by
  have hpart : ∀ {u : Validator}, Occurs u (.object fields .strip) →
      u = .object fields .strip ∨ Occurs u petUnion ∨ u = .string := by
    intro u hoccurs
    obtain _ | ⟨hf, hoccurs⟩ := hoccurs
    · exact Or.inl rfl
    · rcases h _ hf with hbody | hbody
      · exact Or.inr (Or.inl (hbody ▸ hoccurs))
      · rw [hbody] at hoccurs
        obtain _ | _ := hoccurs
        exact Or.inr (Or.inr rfl)
  constructor
  case union =>
    intro members hoccurs
    obtain hsame | hunion | hsame := hpart hoccurs
    · cases hsame
    · exact expressible_petUnion.union members hunion
    · cases hsame
  case reference =>
    intro name deferred hoccurs
    obtain hsame | hunion | hsame := hpart hoccurs
    · cases hsame
    · exact expressible_petUnion.reference name deferred hunion
    · cases hsame

/-- A description that looks like the line of a field is not taken for one. -/
theorem forgedField_expression_ne :
    let names := petDeclarations.map Declaration.name
    let forged : Validator := .object [
      { name := "pet", body := petUnion, description := some "\n  name: z.string()," }] .strip
    let honest : Validator := .object [
      { name := "pet", body := petUnion, description := some "" },
      { name := "name", body := .string }] .strip
    Expressible names forged ∧ Expressible names honest ∧
      expression (.ofDeclarations petDeclarations) forged ≠
        expression (.ofDeclarations petDeclarations) honest := by
  intro names forged honest
  have hforged : Expressible names forged := by
    refine expressible_petObject fun f hf => Or.inl ?_
    rw [List.mem_singleton.1 hf]
  have hhonest : Expressible names honest := by
    refine expressible_petObject fun f hf => ?_
    rcases List.mem_pair.1 hf with rfl | rfl
    · exact Or.inl rfl
    · exact Or.inr rfl
  refine ⟨hforged, hhonest, fun heq => ?_⟩
  have hnormal : normal forged = normal honest :=
    (expression_eq_iff petDeclarations hforged hhonest).1 heq
  rw [normal_object, normal_object, List.map_cons, List.map_cons] at hnormal
  cases hnormal

end TypedClient.TypeScript
