import TypedClient.Proofs.Entries
import TypedClient.Proofs.Induction
import TypedClient.Schema.OfJson

/-!
# Uniform schemas

The schemas that are read from JSON are not all the schemas there are.  The keywords `items` and
`properties` stand once in an object, so all types that the object names share them: no two
properties of a schema have one name, and the arrays among the members of a union have one schema
for their items (`Schema.Uniform`).  Every schema that a JSON value describes is of this kind
(`Schema.uniform_ofJson`).
-/

namespace TypedClient.Schema

/-- Whether the schema is neither a reference nor a choice. -/
def isPlain : Schema → Bool
  | .reference _ _ | .union _ _ => false
  | _ => true

/-- The schema for the items of an array, if there is one. -/
def items? : Schema → Option Schema
  | .array _ items => some items
  | _ => none

/-- A schema in which the properties have different names, and the members of a union are plain and
agree on the items of arrays; and likewise the parts of the schema. -/
inductive Uniform : Schema → Prop where
  | reference (n : Notes) (pointer : String) : Uniform (.reference n pointer)
  | object (n : Notes) {properties : Entries Schema} (required : List String)
    (additional : Option Bool) (hnodup : properties.keys.Nodup)
    (h : ∀ p ∈ properties, Uniform p.2) : Uniform (.object n properties required additional)
  | freeObject (n : Notes) (required : List String) (additional : Option Bool) :
    Uniform (.freeObject n required additional)
  | array (n : Notes) {items : Schema} (h : Uniform items) : Uniform (.array n items)
  | freeArray (n : Notes) : Uniform (.freeArray n)
  | primitive (n : Notes) (type : Primitive) : Uniform (.primitive n type)
  | union (n : Notes) {members : List Schema} (hplain : ∀ m ∈ members, m.isPlain = true)
    (hitems : ∀ m ∈ members, ∀ m' ∈ members, ∀ items items',
      m.items? = some items → m'.items? = some items' → items = items')
    (h : ∀ m ∈ members, Uniform m) : Uniform (.union n members)
  | unknown (n : Notes) (type : Option String) : Uniform (.unknown n type)

/-- Other notes leave a schema uniform. -/
lemma Uniform.withNotes {s : Schema} (h : s.Uniform) (n : Notes) : (s.withNotes n).Uniform := by
  cases h with
  | reference _ pointer => exact .reference n pointer
  | object _ required additional hnodup h => exact .object n required additional hnodup h
  | freeObject _ required additional => exact .freeObject n required additional
  | array _ h => exact .array n h
  | freeArray _ => exact .freeArray n
  | primitive _ type => exact .primitive n type
  | union _ hplain hitems h => exact .union n hplain hitems h
  | unknown _ type => exact .unknown n type

/-! ## Schemas from JSON -/

section OfType

variable (notes : Notes) (members : Entries Json) (items : Option Schema)
  (properties : Option (List (String × Schema))) (name : String)

/-- A type name never gives a reference or a choice. -/
lemma isPlain_ofType : (ofType notes members items properties name).isPlain = true := by
  unfold ofType
  split
  case h_5 => cases properties <;> rfl
  case h_6 => cases items <;> rfl
  all_goals rfl

variable {notes members items properties name}

/-- The schema for the items of an array is the one that all types share. -/
lemma items?_ofType {s : Schema} (h : (ofType notes members items properties name).items? = some s) :
    items = some s := by
  unfold ofType at h
  split at h
  case h_5 => cases properties <;> cases h
  case h_6 =>
    cases items with
    | none => cases h
    | some t => exact h
  all_goals cases h

/-- A type name gives a uniform schema if what it takes from the object is uniform. -/
lemma uniform_ofType (hitems : ∀ s, items = some s → s.Uniform)
    (hproperties : ∀ ps, properties = some ps →
      (Entries.keys ps).Nodup ∧ ∀ p ∈ ps, Uniform p.2) :
    (ofType notes members items properties name).Uniform := by
  unfold ofType
  split
  case h_5 =>
    cases properties with
    | none => exact .freeObject _ _ _
    | some ps =>
      obtain ⟨hnodup, huniform⟩ := hproperties ps rfl
      exact .object _ _ _ hnodup huniform
  case h_6 =>
    cases items with
    | none => exact .freeArray _
    | some s => exact .array _ (hitems s rfl)
  case h_7 => exact .unknown _ _
  all_goals exact .primitive _ _

/-- An object describes a uniform schema if its `items` and `properties` are uniform. -/
lemma uniform_ofMembers (hitems : ∀ s, items = some s → s.Uniform)
    (hproperties : ∀ ps, properties = some ps →
      (Entries.keys ps).Nodup ∧ ∀ p ∈ ps, Uniform p.2) :
    (ofMembers members items properties).Uniform := by
  unfold ofMembers
  dsimp only
  split
  · exact .reference _ _
  · split
    · exact .unknown _ _
    · exact uniform_ofType hitems hproperties
    · refine .union _ ?_ ?_ ?_
      · intro m hm
        obtain ⟨name, -, rfl⟩ := List.mem_map.1 hm
        exact isPlain_ofType _ _ _ _ _
      · intro m hm m' hm' s s' hs hs'
        obtain ⟨name, -, rfl⟩ := List.mem_map.1 hm
        obtain ⟨name', -, rfl⟩ := List.mem_map.1 hm'
        exact Option.some_inj.1 ((items?_ofType hs).symm.trans (items?_ofType hs'))
      · intro m hm
        obtain ⟨name, -, rfl⟩ := List.mem_map.1 hm
        exact uniform_ofType hitems hproperties

end OfType

/-- The schemas of the members of an object, one for each. -/
lemma ofEach_eq_mapValues (members : Entries Json) :
    ofEach members = members.mapValues ofJson := by
  induction members with
  | nil => rfl
  | cons m rest ih =>
    rw [ofEach, ih]
    rfl

/-- The keyword `items` holds the schema of the items. -/
lemma itemsIn_eq (members : Entries Json) :
    itemsIn members = (members.get? "items").map ofJson := by
  induction members with
  | nil => rfl
  | cons m rest ih =>
    rw [itemsIn, Entries.get?, ih]
    split <;> rfl

/-- The keyword `properties` holds an object, whose members describe the properties. -/
lemma exists_of_propertiesIn {members : Entries Json} {ps : List (String × Schema)}
    (h : propertiesIn members = some ps) :
    ∃ es, members.get? "properties" = some (.object es) ∧
      ps = Entries.ofList (Entries.mapValues ofJson es) := by
  induction members with
  | nil => cases h
  | cons m rest ih =>
    rw [propertiesIn.eq_def] at h
    rw [Entries.get?]
    dsimp only at h
    split at h
    · next hkey =>
      rw [if_pos hkey]
      split at h
      · next es hes =>
        rw [ofEach_eq_mapValues] at h
        exact ⟨es, by rw [hes], (Option.some_inj.1 h).symm⟩
      · cases h
    · next hkey =>
      rw [if_neg hkey]
      exact ih h

/-- Every JSON value describes a uniform schema. -/
theorem uniform_ofJson (v : Json) : (ofJson v).Uniform := by
  -- The properties are two steps down, so the induction goes over the parts of the parts as well.
  suffices h : (ofJson v).Uniform ∧ ∀ w ∈ v.parts, (ofJson w).Uniform from h.1
  induction v using Json.inductionOnParts with
  | step v ih =>
    refine ⟨?_, fun w hw => (ih w hw).1⟩
    cases v with
    | object members =>
      rw [ofJson]
      refine uniform_ofMembers ?_ ?_
      · intro s hs
        rw [itemsIn_eq, Option.map_eq_some_iff] at hs
        obtain ⟨w, hw, rfl⟩ := hs
        exact (ih w (Json.mem_parts_of_get? hw)).1
      · intro ps hps
        obtain ⟨es, hes, rfl⟩ := exists_of_propertiesIn hps
        refine ⟨Entries.nodup_keys_ofList _, fun p hp => ?_⟩
        obtain ⟨e, he, rfl⟩ := List.mem_map.1 (Entries.mem_of_mem_ofList hp)
        exact (ih _ (Json.mem_parts_of_get? hes)).2 e.2 (List.mem_map_of_mem he)
    | _ => exact .unknown _ _

end TypedClient.Schema
