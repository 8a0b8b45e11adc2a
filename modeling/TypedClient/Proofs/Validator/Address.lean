import TypedClient.Proofs.Induction
import TypedClient.Proofs.Outcome
import TypedClient.Proofs.Text.Codes
import TypedClient.Proofs.Validator.Parse

/-!
# Where issues are

A validator that refuses a value names a place of the value and what is wrong there.  The path of
the issue can be followed from the value (`Json.At`), and the complaint is true of what is found
(`Complaint.Fits`); only the path of an absent member goes one key further than the value does
(`Issue.IsAbout`).  This holds however many parts, members of unions and references have been tried
before (`Validator.located_of_parse`).
-/

namespace TypedClient

/-! ## Places of a value -/

namespace Json

/-- The parts of a value by their names: the members of an object under their keys, and the items of
an array under their indexes in decimal digits. -/
inductive Branch : String → Json → Json → Prop where
  | member {key : String} {members : Entries Json} {value : Json}
    (h : members.get? key = some value) : Branch key (.object members) value
  | item {i : Nat} {items : List Json} {value : Json} (h : items[i]? = some value) :
    Branch (toString i) (.array items) value

/-- What the names of a path lead to, one part after the other. -/
inductive At : List String → Json → Json → Prop where
  | here {value : Json} : At [] value value
  | inside {name : String} {path : List String} {value part place : Json}
    (hbranch : Branch name value part) (hrest : At path part place) : At (name :: path) value place

end Json

/-- A complaint is true of a value: the value has another type than the one expected, or its
unrecognized keys are keys of it, or the reference is to a name that is not registered. -/
inductive Complaint.Fits (registry : Registry) : Complaint → Json → Prop where
  | mismatch (value other : Json) (h : value.typeName ≠ other.typeName) :
    Fits registry (.mismatch other.typeName value.typeName) value
  | noMember {value : Json} : Fits registry .noMember value
  | unrecognized {members : Entries Json} {keys : List String} (hsome : keys ≠ [])
    (hkeys : keys ⊆ members.keys) : Fits registry (.unrecognized keys) (.object members)
  | unknownReference {name : String} {value : Json} (h : name ∉ Entries.keys registry) :
    Fits registry (.unknownReference name) value

namespace Issue

/-- An issue is about a value: its complaint is true of the place that its path leads to, or the
path leads to an object and ends with a key that the object does not have. -/
inductive IsAbout (registry : Registry) (value : Json) : Issue → Prop where
  | present {path : List String} {complaint : Complaint} {place : Json}
    (hplace : Json.At path value place) (hfits : complaint.Fits registry place) :
    IsAbout registry value ⟨path, complaint⟩
  | absent {path : List String} {key : String} {members : Entries Json}
    (hplace : Json.At path value (.object members)) (hkey : key ∉ members.keys) :
    IsAbout registry value ⟨path ++ [key], .required⟩

variable {registry : Registry} {value part : Json} {issue : Issue}

/-- An issue about a part is one about the value around. -/
lemma IsAbout.under {name : String} (h : issue.IsAbout registry part)
    (hbranch : Json.Branch name value part) : (issue.under name).IsAbout registry value := by
  cases h with
  | present hplace hfits => exact .present (.inside hbranch hplace) hfits
  | absent hplace hkey => exact .absent (.inside hbranch hplace) hkey

/-- A complaint that is true of a value makes an issue about it. -/
lemma IsAbout.of_fits {complaint : Complaint} (h : complaint.Fits registry value) :
    IsAbout registry value ⟨[], complaint⟩ :=
  .present .here h

end Issue

/-! ## What messages tell -/

/-- No name of a type has a comma. -/
lemma Json.comma_not_mem_typeName (value : Json) : ',' ∉ value.typeName.toList := by
  cases value <;> rw [typeName] <;> decide

/-- A text begins like its first part. -/
lemma head?_toList_append {a b : String} {c : Char} (h : a.toList.head? = some c) :
    (a ++ b).toList.head? = some c := by
  rw [String.toList_append, List.head?_append, h, Option.some_or]

namespace Complaint

/-- The letter with which the messages of a kind of complaint begin. -/
def initial : Complaint → Char
  | .mismatch _ _ => 'e'
  | .noMember => 'I'
  | .required => 'R'
  | .unrecognized _ => 'U'
  | .unknownReference _ => 'u'

/-- A message begins with the letter of its kind. -/
lemma head?_message (complaint : Complaint) :
    complaint.message.toList.head? = some complaint.initial := by
  have hexpected : "expected ".toList.head? = some 'e' := by decide
  have hunrecognized : "Unrecognized key(s) in object: ".toList.head? = some 'U' := by decide
  have hunknown : "unknown schema reference `".toList.head? = some 'u' := by decide
  cases complaint with
  | mismatch expected received =>
    exact head?_toList_append (head?_toList_append (head?_toList_append hexpected))
  | noMember => decide
  | required => decide
  | unrecognized keys => exact head?_toList_append hunrecognized
  | unknownReference name => exact head?_toList_append (head?_toList_append hunknown)

/-- Complaints with one message are of one kind. -/
lemma initial_eq_of_message_eq {complaint complaint' : Complaint}
    (h : complaint.message = complaint'.message) : complaint.initial = complaint'.initial := by
  have hhead := complaint.head?_message
  rw [h, complaint'.head?_message] at hhead
  exact (Option.some_inj.1 hhead).symm

/-- The message that a member is absent tells the complaint. -/
lemma eq_required_of_message {complaint : Complaint} (h : complaint.message = "Required") :
    complaint = .required := by
  have hinitial : complaint.initial = required.initial := initial_eq_of_message_eq h
  cases complaint with
  | required => rfl
  | _ => simp [initial] at hinitial

/-- Two texts with given words between them are told apart by the whole, if the words begin with the
only comma there is. -/
lemma eq_and_eq_of_comma {rest before words between after before' after' : List Char}
    (hwords : between = ',' :: rest) (hrest : ',' ∉ rest) (hbefore : ',' ∉ before)
    (hafter : ',' ∉ after)
    (h : words ++ (before ++ (between ++ after)) = words ++ (before' ++ (between ++ after'))) :
    before = before' ∧ after = after' := by
  rw [List.append_cancel_left_eq, hwords, List.cons_append, List.cons_append] at h
  -- One side has a single comma, and so has the other.
  have hcount := congrArg (List.count ',') h
  simp only [List.count_append, List.count_cons_self, List.count_eq_zero_of_not_mem hbefore,
    List.count_eq_zero_of_not_mem hafter, List.count_eq_zero_of_not_mem hrest] at hcount
  have hbefore' : ',' ∉ before' := List.count_eq_zero.1 (by omega)
  obtain ⟨hsame, hmore⟩ := Text.eq_and_eq_of_append_cons hbefore hbefore' h
  exact ⟨hsame, List.append_cancel_left hmore⟩

/-- The message of a mismatch tells both names, if they have no comma. -/
lemma mismatch_eq_of_message {expected received expected' received' : String}
    (hexpected : ',' ∉ expected.toList) (hreceived : ',' ∉ received.toList)
    (h : (mismatch expected received).message = (mismatch expected' received').message) :
    expected = expected' ∧ received = received' := by
  have htext : ∀ words a between b : String, (words ++ a ++ between ++ b).toList =
      words.toList ++ (a.toList ++ (between.toList ++ b.toList)) := by
    intro words a between b
    simp
  have hwords : ", received ".toList = ',' :: " received ".toList := by decide
  have hlist := (htext _ _ _ _).symm.trans ((congrArg String.toList h).trans (htext _ _ _ _))
  obtain ⟨ha, hb⟩ := eq_and_eq_of_comma hwords (by decide) hexpected hreceived hlist
  exact ⟨String.toList_inj.1 ha, String.toList_inj.1 hb⟩

end Complaint

namespace Validator

variable {registry : Registry} {trail : List String} {value : Json} {issue : Issue}

/-! ## Issues of the parts -/

/-- The test for the type of another value complains about the type of the value. -/
lemma isAbout_of_expectType (other : Json)
    (h : expectType other.typeName value = .error (.issue issue)) :
    issue.IsAbout registry value := by
  unfold expectType at h
  split at h
  · cases h
  · next hne =>
    cases h
    exact .of_fits (.mismatch value other hne)

/-- The issue of an array is one of an item, under its index. -/
lemma exists_item_of_parseItems {items : Validator} {values : List Json} {index : Nat}
    (h : parseItems registry items index values = .error (.issue issue)) :
    ∃ i v inner, values[i]? = some v ∧ items.parseFrom registry [] v = .error (.issue inner) ∧
      issue = inner.under (toString (index + i)) := by
  induction values generalizing index with
  | nil =>
    rw [parseItems] at h
    cases h
  | cons v rest ih =>
    rw [parseItems] at h
    split at h
    · next refusal hv =>
      cases refusal with
      | issue inner =>
        cases h
        exact ⟨0, v, inner, rfl, hv, rfl⟩
      | endless => cases h
    · obtain ⟨i, w, inner, hw, hinner, rfl⟩ := ih (Except.map_eq_error_iff.1 h)
      refine ⟨i + 1, w, inner, hw, hinner, ?_⟩
      rw [Nat.add_assoc, Nat.add_comm 1 i]

/-- A union that accepts nothing complains about the value itself. -/
lemma eq_noMember_of_parseFirst {members : List Validator}
    (h : parseFirst registry trail members value = .error (.issue issue)) :
    issue = ⟨[], .noMember⟩ := by
  induction members with
  | nil =>
    rw [parseFirst] at h
    cases h
    rfl
  | cons m rest ih =>
    rw [parseFirst] at h
    split at h
    · cases h
    · cases h
    · exact ih h

/-- The issue of the declared members of an object is one of a member, under the name of its field,
or a field has no member. -/
lemma exists_field_of_parseFields {fields : List (Field Validator)} {members out : Entries Json}
    (h : parseFields registry fields members out = .error (.issue issue)) :
    ∃ f ∈ fields,
      (∃ v inner, members.get? f.name = some v ∧
        f.body.parseFrom registry [] v = .error (.issue inner) ∧ issue = inner.under f.name) ∨
      (members.get? f.name = none ∧ issue = ⟨[f.name], .required⟩) := by
  induction fields generalizing out with
  | nil =>
    rw [parseFields] at h
    cases h
  | cons f rest ih =>
    have hrest : ∀ {out : Entries Json},
        parseFields registry rest members out = .error (.issue issue) → _ := fun h =>
      (ih h).imp fun _ hf => hf.imp_left (List.mem_cons_of_mem f)
    rw [parseFields] at h
    split at h
    · next v hv =>
      split at h
      · next refusal hrefusal =>
        cases refusal with
        | issue inner =>
          cases h
          exact ⟨f, List.mem_cons_self, Or.inl ⟨v, inner, hv, hrefusal, rfl⟩⟩
        | endless => cases h
      · exact hrest h
    · next hv =>
      split at h
      · exact hrest h
      · cases h
        exact ⟨f, List.mem_cons_self, Or.inr ⟨hv, rfl⟩⟩
      · cases h

/-- The issue of the undeclared members of an object names them all. -/
lemma eq_unrecognized_of_closeObject {mode : Mode} {extra declared : Entries Json}
    (h : closeObject mode extra declared = .error (.issue issue)) :
    extra ≠ [] ∧ issue = ⟨[], .unrecognized extra.keys⟩ := by
  cases mode with
  | strict =>
    rw [closeObject] at h
    split at h
    · cases h
    · next hextra =>
      cases h
      exact ⟨fun hnil => hextra (List.isEmpty_iff.2 hnil), rfl⟩
  | _ => cases h

/-- What is undeclared is in the object. -/
lemma keys_undeclared_subset (fields : List (Field Validator)) (members : Entries Json) :
    Entries.keys (undeclared fields members) ⊆ members.keys :=
  (List.filter_sublist.map Prod.fst).subset

/-! ## Issues of a value -/

/-- The issue of an array validator is about the value, if those of the items are about them. -/
lemma isAbout_of_parseFrom_array {items : Validator}
    (hitems : ∀ v ∈ value.parts, ∀ i, items.parseFrom registry [] v = .error (.issue i) →
      i.IsAbout registry v)
    (h : (array items).parseFrom registry trail value = .error (.issue issue)) :
    issue.IsAbout registry value := by
  cases value with
  | array values =>
    rw [parseFrom, Except.map_eq_error_iff] at h
    obtain ⟨i, v, inner, hv, hinner, rfl⟩ := exists_item_of_parseItems h
    rw [Nat.zero_add]
    exact (hitems v (List.mem_of_getElem? hv) inner hinner).under (.item hv)
  | _ =>
    rw [parseFrom] at h
    · cases h
      exact .of_fits (.mismatch _ (.array []) (by simp [Json.typeName]))
    · simp

/-- The issue of an object validator is about the value, if those of the fields are about the
members. -/
lemma isAbout_of_parseFrom_object {fields : List (Field Validator)} {mode : Mode}
    (hfields : ∀ v ∈ value.parts, ∀ f ∈ fields, ∀ i,
      f.body.parseFrom registry [] v = .error (.issue i) → i.IsAbout registry v)
    (h : (object fields mode).parseFrom registry trail value = .error (.issue issue)) :
    issue.IsAbout registry value := by
  cases value with
  | object members =>
    rw [parseFrom] at h
    split at h
    · next refusal hrefusal =>
      cases h
      obtain ⟨f, hf, ⟨v, inner, hv, hinner, rfl⟩ | ⟨hnone, rfl⟩⟩ :=
        exists_field_of_parseFields hrefusal
      · exact (hfields v (Json.mem_parts_of_get? hv) f hf inner hinner).under (.member hv)
      · exact .absent .here (Entries.get?_eq_none_iff.1 hnone)
    · obtain ⟨hextra, rfl⟩ := eq_unrecognized_of_closeObject h
      refine .of_fits (.unrecognized ?_ (keys_undeclared_subset fields members))
      exact fun hnil => hextra (List.map_eq_nil_iff.1 hnil)
  | _ =>
    rw [parseFrom] at h
    · cases h
      exact .of_fits (.mismatch _ (.object []) (by simp [Json.typeName]))
    · simp

/-- An issue is about the value.  The induction is on the value, then on the names that are not on
the trail, and then on the validator, as the validator is applied. -/
lemma isAbout_of_parseFrom {v : Validator}
    (h : v.parseFrom registry trail value = .error (.issue issue)) :
    issue.IsAbout registry value := by
  induction value using Json.inductionOnParts generalizing trail v issue with
  | step value ihparts =>
  induction hlength : (Registry.offTrail registry trail).length using Nat.strongRecOn
    generalizing trail v issue with
  | ind length ih =>
  subst hlength
  induction v using Validator.inductionOn generalizing issue with
  | any =>
    rw [parseFrom] at h
    cases h
  | string =>
    rw [parseFrom] at h
    exact isAbout_of_expectType (.string "") h
  | number =>
    rw [parseFrom] at h
    exact isAbout_of_expectType (.number (.int 0)) h
  | boolean =>
    rw [parseFrom] at h
    exact isAbout_of_expectType (.bool true) h
  | object fields mode _ =>
    exact isAbout_of_parseFrom_object (fun v hv _ _ _ hissue => ihparts v hv hissue) h
  | array items _ =>
    exact isAbout_of_parseFrom_array (fun v hv _ hissue => ihparts v hv hissue) h
  | union members _ =>
    rw [parseFrom] at h
    rw [eq_noMember_of_parseFirst h]
    exact .of_fits .noMember
  | nullable inner ihinner =>
    by_cases hnull : value = .null
    · subst hnull
      rw [parseFrom] at h
      cases h
    · rw [parseFrom] at h
      · exact ihinner h
      · exact hnull
  | optional inner ihinner =>
    rw [parseFrom] at h
    exact ihinner h
  | reference name deferred =>
    by_cases htrail : name ∈ trail
    · rw [parseFrom, dif_pos htrail] at h
      cases h
    · rw [parseFrom_reference_eq htrail] at h
      cases htarget : registry.get? name with
      | none =>
        rw [htarget] at h
        cases h
        exact .of_fits (.unknownReference (Entries.get?_eq_none_iff.1 htarget))
      | some target =>
        rw [htarget] at h
        have hless := Registry.length_offTrail_cons_lt registry
          (Entries.mem_keys_of_get? htarget) htrail
        exact ih _ hless h rfl

end Validator

namespace Issue

/-- What the issue of a value says: where it is, and what its message means there. -/
structure Located (value : Json) (issue : Issue) : Prop where
  /-- Unless something is required, the path leads to a place of the value. -/
  present : issue.message ≠ "Required" → ∃ place, Json.At issue.path value place
  /-- What is required is absent: the path ends with a key that the object there does not have. -/
  absent : issue.message = "Required" → ∃ path key members,
    issue.path = path ++ [key] ∧ Json.At path value (.object members) ∧ key ∉ Entries.keys members
  /-- What is received instead of what is expected is the type of the value at the place. -/
  received : ∀ expected received,
    issue.message = "expected " ++ expected ++ ", received " ++ received →
      ∃ place, Json.At issue.path value place ∧ place.typeName = received ∧ received ≠ expected
  /-- What is unrecognized are keys of the object at the place. -/
  unrecognized : ∀ keys, issue.complaint = .unrecognized keys →
    ∃ members, Json.At issue.path value (.object members) ∧ keys ⊆ Entries.keys members

variable {registry : Registry} {value : Json} {issue : Issue}

/-- The message of a mismatch is that of a complaint about the type of the place. -/
lemma IsAbout.exists_place_of_mismatch (h : issue.IsAbout registry value)
    {expected received : String}
    (hmessage : issue.message = (Complaint.mismatch expected received).message) :
    ∃ place, Json.At issue.path value place ∧ place.typeName = received ∧ received ≠ expected := by
  have hinitial := Complaint.initial_eq_of_message_eq hmessage
  cases h with
  | absent _ _ => simp [Complaint.initial] at hinitial
  | present hplace hfits =>
    cases hfits with
    | mismatch found other hne =>
      obtain ⟨rfl, rfl⟩ := Complaint.mismatch_eq_of_message other.comma_not_mem_typeName
        (Json.comma_not_mem_typeName _) hmessage
      exact ⟨_, hplace, rfl, hne⟩
    | _ => simp [Complaint.initial] at hinitial

/-- An issue that is about a value is located in it. -/
lemma IsAbout.located (h : issue.IsAbout registry value) : issue.Located value := by
  constructor
  case present =>
    intro hmessage
    cases h with
    | present hplace _ => exact ⟨_, hplace⟩
    | absent _ _ => exact absurd rfl hmessage
  case absent =>
    intro hmessage
    have hrequired := Complaint.eq_required_of_message hmessage
    cases h with
    | present _ hfits =>
      subst hrequired
      cases hfits
    | absent hplace hkey => exact ⟨_, _, _, rfl, hplace, hkey⟩
  case received => exact fun _ _ hmessage => h.exists_place_of_mismatch hmessage
  case unrecognized =>
    intro keys hcomplaint
    cases h with
    | present hplace hfits =>
      subst hcomplaint
      cases hfits with
      | unrecognized _ hkeys => exact ⟨_, hplace, hkeys⟩
    | absent _ _ => cases hcomplaint

end Issue

/-- The issue with which a validator refuses a value leads to the place that it is about. -/
theorem Validator.located_of_parse {v : Validator} {registry : Registry} {value : Json}
    {issue : Issue} (h : v.parse registry value = .error (.issue issue)) : issue.Located value :=
  (isAbout_of_parseFrom h).located

/-- A registry with objects that have nothing but a list of texts, or a single text. -/
def itemRegistry : Registry :=
  [("Item", .object [⟨"tags", .union [.array .string, .string], none⟩] .strict)]

/-- An item or a number, and a list of items. -/
def itemValidator : Validator :=
  .object
    [⟨"first", .union [.reference "Item" false, .number], none⟩,
      ⟨"rest", .array (.nullable (.reference "Item" false)), none⟩]
    .strip

/-- A value whose members are accepted by later members of unions, up to an undeclared one. -/
def itemValue : Json :=
  .object
    [("first", .number (.int 3)),
      ("rest", .array
        [.object [("tags", .string "x")], .null,
          .object [("tags", .array [.string "y"]), ("extra", .null)]])]

/-- What has been tried before does not show in the path of an issue. -/
theorem itemValue_located :
    itemValidator.parse itemRegistry itemValue =
        .error (.issue ⟨["rest", "2"], .unrecognized ["extra"]⟩) ∧
      Issue.Located itemValue ⟨["rest", "2"], .unrecognized ["extra"]⟩ := by
  have hparse : itemValidator.parse itemRegistry itemValue =
      .error (.issue ⟨["rest", "2"], .unrecognized ["extra"]⟩) := by cbv
  exact ⟨hparse, Validator.located_of_parse hparse⟩

end TypedClient
