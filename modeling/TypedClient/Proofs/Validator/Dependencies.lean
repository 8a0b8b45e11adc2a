import Mathlib
import TypedClient.Proofs.Validator.Occurrence

/-!
# Dependencies cover validators

A pointer stands at a place in a schema: the positions of the parts that one has to go into, from
the outside to the inside.  Of two places, the one further left is the smaller one in lexicographic
order.  The dependencies of a schema are the names that its pointers lead to, each once, in the
order in which they are mentioned first from left to right (`Schema.listsMentions_dependencies`).

A validator refers to dependencies only, in whatever way it is made of the schema
(`Schema.dependencies_cover`).  The reverse is not true, since the properties of an object that is
part of another schema are dependencies of that schema, but not spelled out in its validator.
-/

namespace TypedClient

/-- Without repetitions, no text occurs twice. -/
lemma nodup_distinct (xs : List String) : (distinct xs).Nodup := by
  induction xs with
  | nil => exact List.nodup_nil
  | cons x rest ih =>
    rw [distinct, List.nodup_cons]
    exact ⟨by simp, ih.filter _⟩

/-- Without repetitions, the texts are in the order of their first places. -/
lemma pairwise_distinct (xs : List String) :
    (distinct xs).Pairwise fun a b => ∃ before after, xs = before ++ a :: after ∧ b ∉ before := by
  induction xs with
  | nil => exact List.Pairwise.nil
  | cons x rest ih =>
    rw [distinct, List.pairwise_cons]
    refine ⟨fun b _ => ⟨[], rest, rfl, List.not_mem_nil⟩, ?_⟩
    refine List.Pairwise.imp_of_mem ?_ (ih.filter _)
    rintro a b - hb ⟨before, after, rfl, hbefore⟩
    have hne : b ≠ x := by simpa using (List.mem_filter.1 hb).2
    exact ⟨x :: before, after, rfl, List.not_mem_cons_of_ne_of_not_mem hne hbefore⟩

namespace Schema

/-- The schemas that a schema consists of, from left to right. -/
def parts : Schema → List Schema
  | object _ properties _ _ => properties.map Prod.snd
  | array _ items => [items]
  | union _ members => members
  | _ => []

/-- A pointer stands at a place in a schema. -/
inductive PointsAt (pointer : String) : (place : List Nat) → Schema → Prop
  /-- A reference holds its pointer. -/
  | here {s} : s.pointer? = some pointer → PointsAt pointer [] s
  /-- The place in a schema goes on with the place in the part at a position. -/
  | inside {s part i place} : s.parts[i]? = some part → PointsAt pointer place part →
    PointsAt pointer (i :: place) s

/-- A schema mentions the name of another one at a place: the pointer there leads to the name. -/
def MentionsAt (s : Schema) (place : List Nat) (name : String) : Prop :=
  ∃ pointer, PointsAt pointer place s ∧ Pointer.schemaName? pointer = some name

/-- A list holds the names that a schema mentions, in the order in which they come first from left
to right. -/
structure ListsMentions (s : Schema) (names : List String) : Prop where
  /-- No name is listed twice. -/
  nodup : names.Nodup
  /-- The listed names are those that are mentioned somewhere. -/
  mem_iff {name : String} : name ∈ names ↔ ∃ place, MentionsAt s place name
  /-- Of two names in the list, the first is mentioned further left than the second anywhere. -/
  ordered : names.Pairwise fun a b =>
    ∃ place, MentionsAt s place a ∧ ∀ other, MentionsAt s other b → place < other

/-- Texts, listed with the places at which they stand. -/
structure Listing (texts : List String) (stands : List Nat → String → Prop)
    (found : List (List Nat × String)) : Prop where
  /-- Without their places, the texts are those given. -/
  map_snd : found.map Prod.snd = texts
  /-- All texts that stand at a place are listed, and no others. -/
  mem_iff {place : List Nat} {text : String} : (place, text) ∈ found ↔ stands place text
  /-- The places go from left to right. -/
  ordered : found.Pairwise fun a b => a.1 < b.1

/-! ## The places of pointers -/

/-- What a schema refers to are its own pointer and those of its parts. -/
lemma references_eq (s : Schema) :
    s.references = s.pointer?.toList ++ s.parts.flatMap references := by
  cases s <;> simp [references, parts, pointer?, List.flatMap_map]

/-- Induction over a schema, with the hypothesis for each of its parts. -/
lemma inductionOnParts {motive : Schema → Prop} (s : Schema)
    (step : ∀ s, (∀ t ∈ s.parts, motive t) → motive s) : motive s := by
  induction s using Schema.inductionOn with
  | object n properties required additional ih => exact step _ (List.forall_mem_map.2 ih)
  | array n items ih => exact step _ (List.forall_mem_singleton.2 ih)
  | union n members ih => exact step _ ih
  | _ => exact step _ (List.forall_mem_nil _)

/-- The pointers of schemas in a row can be listed, with places that begin with the positions of the
schemas, counted from a number on. -/
lemma exists_listing_of_row {row : List Schema} (k : Nat)
    (h : ∀ s ∈ row, ∃ found,
      Listing s.references (fun place pointer => PointsAt pointer place s) found) :
    ∃ found, Listing (row.flatMap references) (fun place pointer => ∃ i part rest,
      row[i]? = some part ∧ PointsAt pointer rest part ∧ place = (k + i) :: rest) found := by
  induction row generalizing k with
  | nil => exact ⟨[], rfl, by simp, List.Pairwise.nil⟩
  | cons s row ih =>
    obtain ⟨⟨first, hfirst⟩, hrow⟩ := List.forall_mem_cons.1 h
    obtain ⟨others, hothers⟩ := ih (k + 1) hrow
    refine ⟨first.map (fun x => (k :: x.1, x.2)) ++ others, ?_⟩
    constructor
    case map_snd =>
      rw [List.map_append, List.map_map, hothers.map_snd, List.flatMap_cons, ← hfirst.map_snd]
      rfl
    case mem_iff =>
      intro place pointer
      rw [List.mem_append, hothers.mem_iff, List.mem_map]
      constructor
      · rintro (⟨⟨rest, found⟩, hmem, heq⟩ | ⟨i, part, rest, hpart, hpoints, rfl⟩)
        · obtain ⟨rfl, rfl⟩ := Prod.mk.inj heq
          exact ⟨0, s, rest, rfl, hfirst.mem_iff.1 hmem, rfl⟩
        · exact ⟨i + 1, part, rest, hpart, hpoints, by rw [Nat.add_right_comm, Nat.add_assoc]⟩
      · rintro ⟨i, part, rest, hpart, hpoints, rfl⟩
        cases i with
        | zero =>
          obtain rfl := Option.some_inj.1 hpart
          exact Or.inl ⟨(rest, pointer), hfirst.mem_iff.2 hpoints, rfl⟩
        | succ i =>
          exact Or.inr ⟨i, part, rest, hpart, hpoints, by rw [Nat.add_right_comm, Nat.add_assoc]⟩
    case ordered =>
      refine List.pairwise_append.2 ⟨?_, hothers.ordered, ?_⟩
      · refine List.pairwise_map.2 (hfirst.ordered.imp fun hlt => ?_)
        exact List.cons_lt_cons_iff.2 (Or.inr ⟨rfl, hlt⟩)
      · rintro a ha ⟨place, pointer⟩ hb
        obtain ⟨x, -, rfl⟩ := List.mem_map.1 ha
        obtain ⟨i, part, rest, -, -, rfl⟩ := hothers.mem_iff.1 hb
        exact List.cons_lt_cons_iff.2 (Or.inl (by omega))

/-- The pointers of a schema are those at its places, from left to right. -/
lemma exists_listing (s : Schema) :
    ∃ found, Listing s.references (fun place pointer => PointsAt pointer place s) found := by
  induction s using inductionOnParts with
  | step s ih =>
    obtain ⟨inner, hinner⟩ := exists_listing_of_row 0 ih
    refine ⟨s.pointer?.toList.map (fun pointer => ([], pointer)) ++ inner, ?_⟩
    constructor
    case map_snd =>
      rw [List.map_append, List.map_map, hinner.map_snd, references_eq]
      exact congrArg (· ++ _) (List.map_id' _)
    case mem_iff =>
      intro place pointer
      rw [List.mem_append, hinner.mem_iff, List.mem_map]
      constructor
      · rintro (⟨found, hfound, heq⟩ | ⟨i, part, rest, hpart, hpoints, rfl⟩)
        · obtain ⟨rfl, rfl⟩ := Prod.mk.inj heq
          exact .here (Option.mem_toList.1 hfound)
        · rw [Nat.zero_add]
          exact .inside hpart hpoints
      · rintro (hhere | ⟨hpart, hpoints⟩)
        · exact Or.inl ⟨pointer, Option.mem_toList.2 hhere, rfl⟩
        · exact Or.inr ⟨_, _, _, hpart, hpoints, by rw [Nat.zero_add]⟩
    case ordered =>
      refine List.pairwise_append.2 ⟨?_, hinner.ordered, ?_⟩
      · cases s.pointer? with
        | none => exact List.Pairwise.nil
        | some pointer => exact List.pairwise_singleton _ _
      · rintro a ha ⟨place, pointer⟩ hb
        obtain ⟨found, -, rfl⟩ := List.mem_map.1 ha
        obtain ⟨i, part, rest, -, -, rfl⟩ := hinner.mem_iff.1 hb
        exact List.nil_lt_cons _ _

/-! ## The names that are mentioned -/

/-- What is made of the texts of a listing is listed with the same places. -/
lemma Listing.filterMap {texts : List String} {stands : List Nat → String → Prop}
    {found : List (List Nat × String)} (h : Listing texts stands found)
    (f : String → Option String) :
    Listing (texts.filterMap f)
      (fun place name => ∃ text, stands place text ∧ f text = some name)
      (found.filterMap fun x => (f x.2).map fun name => (x.1, name)) := by
  constructor
  case map_snd =>
    rw [← h.map_snd, List.filterMap_map, List.map_filterMap]
    refine List.filterMap_congr fun x _ => ?_
    cases hx : f x.2 <;> simp [hx]
  case mem_iff =>
    intro place name
    simp only [List.mem_filterMap, Option.map_eq_some_iff, Prod.mk.injEq]
    constructor
    · rintro ⟨⟨_, text⟩, hx, _, hname, rfl, rfl⟩
      exact ⟨text, h.mem_iff.1 hx, hname⟩
    · rintro ⟨text, hstands, hname⟩
      exact ⟨(place, text), h.mem_iff.2 hstands, name, hname, rfl, rfl⟩
  case ordered =>
    refine h.ordered.filterMap _ ?_
    intro a b hlt a' ha b' hb
    obtain ⟨_, -, rfl⟩ := Option.map_eq_some_iff.1 ha
    obtain ⟨_, -, rfl⟩ := Option.map_eq_some_iff.1 hb
    exact hlt

/-- Without repetitions, the texts of a listing are in the order of their leftmost places. -/
lemma Listing.pairwise_distinct {texts : List String} {stands : List Nat → String → Prop}
    {found : List (List Nat × String)} (h : Listing texts stands found) :
    (distinct texts).Pairwise fun a b =>
      ∃ place, stands place a ∧ ∀ other, stands other b → place < other := by
  refine ((TypedClient.pairwise_distinct _).and (nodup_distinct _)).imp ?_
  rintro a b ⟨⟨before, after, hsplit, hbefore⟩, hne⟩
  rw [← h.map_snd, List.map_eq_append_iff] at hsplit
  obtain ⟨left, right, heq, rfl, hright⟩ := hsplit
  obtain ⟨⟨place, _⟩, right, rfl, rfl, rfl⟩ := List.map_eq_cons_iff.1 hright
  refine ⟨place, h.mem_iff.1 (by simp [heq]), fun other hother => ?_⟩
  have hordered := h.ordered
  have hin := h.mem_iff.2 hother
  rw [heq] at hin hordered
  -- The second text does not stand before the first place of the first, so it stands behind it.
  obtain hin | hin := List.mem_append.1 hin
  · exact absurd (List.mem_map_of_mem hin) hbefore
  · obtain hin | hin := List.mem_cons.1 hin
    · exact absurd (Prod.mk.inj hin).2.symm hne
    · exact (List.pairwise_cons.1 (List.pairwise_append.1 hordered).2.1).1 _ hin

/-- The dependencies of a schema are the names that it mentions, in the order in which they come
first. -/
lemma listsMentions_dependencies (s : Schema) : ListsMentions s s.dependencies := by
  obtain ⟨found, hfound⟩ := exists_listing s
  have hnames : Listing (s.references.filterMap Pointer.schemaName?) (MentionsAt s) _ :=
    hfound.filterMap Pointer.schemaName?
  constructor
  case nodup => exact nodup_distinct _
  case mem_iff =>
    intro name
    rw [dependencies, mem_distinct, ← hnames.map_snd, List.mem_map]
    constructor
    · rintro ⟨⟨place, _⟩, hx, rfl⟩
      exact ⟨place, hnames.mem_iff.1 hx⟩
    · rintro ⟨place, hplace⟩
      exact ⟨(place, name), hnames.mem_iff.2 hplace, rfl⟩
  case ordered => exact hnames.pairwise_distinct

end Schema

namespace Validator

/-- A reference occurs in a validator if and only if it is one of its references. -/
lemma occurs_reference_iff {name : String} {deferred : Bool} (v : Validator) :
    Occurs (.reference name deferred) v ↔ (name, deferred) ∈ v.references := by
  induction v using Validator.inductionOn with
  | object fields mode ih =>
    rw [references, referencesOfFields_eq_flatMap, List.mem_flatMap]
    constructor
    · intro h
      cases h with
      | field hf h => exact ⟨_, hf, (ih _ hf).1 h⟩
    · rintro ⟨f, hf, h⟩
      exact .field hf ((ih f hf).2 h)
  | array items ih =>
    rw [references, ← ih]
    constructor
    · intro h
      cases h with
      | item h => exact h
    · exact .item
  | union members ih =>
    rw [references, referencesOfMembers_eq_flatMap, List.mem_flatMap]
    constructor
    · intro h
      cases h with
      | member hm h => exact ⟨_, hm, (ih _ hm).1 h⟩
    · rintro ⟨m, hm, h⟩
      exact .member hm ((ih m hm).2 h)
  | nullable inner ih =>
    rw [references, ← ih]
    constructor
    · intro h
      cases h with
      | nullable h => exact h
    · exact .nullable
  | optional inner ih =>
    rw [references, ← ih]
    constructor
    · intro h
      cases h with
      | optional h => exact h
    · exact .optional
  | reference other mark =>
    rw [references, List.mem_singleton]
    constructor
    · rintro ⟨⟩
      rfl
    · rintro ⟨⟩
      exact .here
  | _ =>
    constructor
    · intro h
      cases h
    · simp [references]

end Validator

namespace Schema

open Validator (Occurs)

/-- The dependencies of a schema are the names that it mentions, each once and in the order in which
they come first from left to right; and each name that a validator made of the schema refers to, be
it as a whole or as a part of another one, is a dependency. -/
theorem dependencies_cover (s : Schema) :
    ListsMentions s s.dependencies ∧
      ∀ order current strict v, ((Compilation.ofSchema order current s).result strict = .ok v ∨
          (Compilation.ofPart order current s).result strict = .ok v) →
        ∀ name deferred, Occurs (.reference name deferred) v → name ∈ s.dependencies := by
  refine ⟨listsMentions_dependencies s, ?_⟩
  intro order current strict v hv name deferred hoccurs
  have href := (Validator.occurs_reference_iff v).1 hoccurs
  have hpointer : ComesFromPointer order current s (name, deferred) := by
    rcases hv with hv | hv
    · obtain ⟨rfl, -⟩ := Notice.guard_eq_ok_iff.1 hv
      exact comesFromPointer_of_mem_validator s _ href
    · obtain ⟨rfl, -⟩ := Notice.guard_eq_ok_iff.1 hv
      exact comesFromPointer_of_mem_partValidator s _ href
  obtain ⟨pointer, hmem, htarget, -⟩ := hpointer
  exact mem_dependencies hmem htarget

/-- A schema that mentions three others, one of them twice and one inside an object that is a part
of it. -/
def kennelSchema : Schema :=
  .object {} [
    ("owner", .reference {} "#/components/schemas/Owner"),
    ("address", .object {} [("city", .reference {} "#/components/schemas/City")] [] none),
    ("guests", .array {} (.union {} [.reference {} "#/components/schemas/Pet",
      .reference {} "#/components/schemas/Owner"]))] ["owner"] none

/-- An order in which the three names that the schema mentions stand before its own. -/
def kennelOrder : SchemaOrder := ⟨["Pet", "City", "Owner", "Kennel"]⟩

/-- The validator of the schema refers to two of the three names. -/
def kennelValidator : Validator :=
  .object [
    ⟨"owner", .reference "Owner" false, none⟩,
    ⟨"address", .optional (.object [] .passthrough), none⟩,
    ⟨"guests", .optional (.array (.union [.reference "Pet" false, .reference "Owner" false])),
      none⟩] .strip

/-- All three names are dependencies of the schema, in the order of their first places. -/
theorem kennel_dependencies_cover :
    (Compilation.ofSchema kennelOrder "Kennel" kennelSchema).result true = .ok kennelValidator ∧
      Occurs (.reference "Pet" false) kennelValidator ∧
      "Pet" ∈ kennelSchema.dependencies ∧
      ListsMentions kennelSchema kennelSchema.dependencies ∧
      kennelSchema.dependencies = ["Owner", "City", "Pet"] := by
  have hresult : (Compilation.ofSchema kennelOrder "Kennel" kennelSchema).result true =
      .ok kennelValidator := by cbv
  have hoccurs : Occurs (.reference "Pet" false) kennelValidator :=
    (Validator.occurs_reference_iff kennelValidator).2 (by decide)
  obtain ⟨hlists, hcover⟩ := dependencies_cover kennelSchema
  exact ⟨hresult, hoccurs, hcover kennelOrder "Kennel" true kennelValidator (Or.inl hresult) "Pet"
    false hoccurs, hlists, by decide +kernel⟩

end Schema

end TypedClient
