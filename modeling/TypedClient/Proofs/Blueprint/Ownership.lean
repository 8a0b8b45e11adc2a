import TypedClient.Proofs.Blueprint.Endpoints

/-!
# Who the schemas of single operations belong to

Each schema of a single operation has been claimed by one input of one operation, and the claimed
names are all different.  So each declaration of such a schema is named by exactly one input of
exactly one endpoint, which is that of the operation it was claimed for (`Blueprint.Owned`).
-/

namespace TypedClient

namespace Site

variable {document : Document} {order : SchemaOrder} {s : Site} {e : Endpoint}

/-- What is claimed for an input is claimed. -/
lemma mem_claims_of_mem_slotClaim {slot : Slot} {entry : String × Schema}
    (h : entry ∈ s.slotClaim document order e slot) : entry ∈ s.claims document order e :=
  mem_claims_iff.2 ⟨slot, mem_slotClaim_iff.1 h⟩

/-- If an operation claims different names, it claims a name for one input only. -/
lemma slot_unique (hnodup : ((s.claims document order e).map Prod.fst).Nodup) {slot slot' : Slot}
    {entry entry' : String × Schema} (hentry : entry ∈ s.slotClaim document order e slot)
    (hentry' : entry' ∈ s.slotClaim document order e slot') (hname : entry.1 = entry'.1) :
    slot = slot' := by
  rw [claims, List.map_append, List.nodup_append] at hnodup
  have hdisjoint := hnodup.2.2
  have hmem := List.mem_map_of_mem (f := Prod.fst) hentry
  have hmem' := List.mem_map_of_mem (f := Prod.fst) hentry'
  cases slot <;> cases slot'
  · rfl
  · exact absurd hname.symm (hdisjoint _ hmem' _ hmem)
  · exact absurd hname (hdisjoint _ hmem _ hmem')
  · rfl

end Site

namespace Blueprint

/-- An input of an endpoint bears a name: the endpoint is found at a route for a method, and the
input has the name. -/
def Names (blueprint : Blueprint) (name : String) (place : List String × String × Slot) : Prop :=
  ∃ e, blueprint.tree.at? place.1 place.2.1 = some e ∧ e.inSlot place.2.2 = some name

/-- The schemas of single operations belong to these operations. -/
structure Owned (document : Document) (order : SchemaOrder) (blueprint : Blueprint) : Prop where
  /-- No two declarations have the same name. -/
  distinct : (blueprint.declarations.map Declaration.name).Nodup
  /-- Each declaration of the schema of a single operation is named by exactly one input of exactly
  one endpoint. -/
  owner : ∀ d ∈ blueprint.inline, ∃! place, blueprint.Names d.name place
  /-- Each operation has an endpoint, whose schemas are declared for it. -/
  operation : ∀ s ∈ document.sites, ∃ route e,
    blueprint.tree.at? route s.method = some e ∧ s.DeclaredIn document order blueprint e
  /-- Each endpoint is that of an operation, and its schemas are declared for it. -/
  endpoint : ∀ route method e, blueprint.tree.at? route method = some e →
    ∃ s ∈ document.sites, s.method = method ∧ s.DeclaredIn document order blueprint e
  /-- No query bears the name of a component. -/
  component : ∀ d ∈ blueprint.components, ∀ route method,
    ¬blueprint.Names d.name (route, method, .query)

variable {strict : Bool} {document : Document} {blueprint : Blueprint} {order : SchemaOrder}
  {pairs : List (Site × Endpoint)} {routes : Routes}

namespace Assembled

/-- The operations claim different names: each for itself, and any two of them. -/
lemma nodup_claims (h : Assembled document order pairs routes blueprint) :
    (pairs.flatMap fun p => (p.1.claims document order p.2).map Prod.fst).Nodup := by
  have hnodup := h.apart.nodup
  rwa [h.built.inline, Entries.keys, List.map_flatMap] at hnodup

/-- A name that an input bears, and that is not that of a component, has been claimed for it. -/
lemma exists_slotClaim (h : Assembled document order pairs routes blueprint) {s : Site}
    {e : Endpoint} (hp : (s, e) ∈ pairs) {slot : Slot} {name : String}
    (hname : e.inSlot slot = some name) (hinline : name ∉ order.names) :
    ∃ schema, (name, schema) ∈ s.slotClaim document order e slot := by
  cases hown : s.ownSchema? document order slot with
  | some schema => exact ⟨schema, Site.mem_slotClaim_iff.2 ⟨hown, hname⟩⟩
  | none =>
    have hcomponent := (h.declaredIn hp).shared slot name hown hname
    exact absurd (h.mem_names_iff.2 hcomponent) hinline

/-- Two inputs that bear one name, which is not that of a component, are the same input of the same
endpoint. -/
lemma place_unique (h : Assembled document order pairs routes blueprint) {name : String}
    (hinline : name ∉ order.names) {place place' : List String × String × Slot}
    (hplace : blueprint.Names name place) (hplace' : blueprint.Names name place') :
    place = place' := by
  obtain ⟨route, method, slot⟩ := place
  obtain ⟨route', method', slot'⟩ := place'
  obtain ⟨e, hat, hname⟩ := hplace
  obtain ⟨e', hat', hname'⟩ := hplace'
  obtain ⟨s, hp, rfl, rfl⟩ := h.exists_mem_of_at? hat
  obtain ⟨s', hp', rfl, rfl⟩ := h.exists_mem_of_at? hat'
  obtain ⟨schema, hclaim⟩ := h.exists_slotClaim hp hname hinline
  obtain ⟨schema', hclaim'⟩ := h.exists_slotClaim hp' hname' hinline
  obtain ⟨heach, hapart⟩ := List.nodup_flatMap.1 h.nodup_claims
  have hmem : name ∈ (s.claims document order e).map Prod.fst :=
    List.mem_map.2 ⟨_, Site.mem_claims_of_mem_slotClaim hclaim, rfl⟩
  have hmem' : name ∈ (s'.claims document order e').map Prod.fst :=
    List.mem_map.2 ⟨_, Site.mem_claims_of_mem_slotClaim hclaim', rfl⟩
  have hsymm : Std.Symm (Function.onFun List.Disjoint fun p : Site × Endpoint =>
      (p.1.claims document order p.2).map Prod.fst) := ⟨fun _ _ hdisjoint => hdisjoint.symm⟩
  have hsame : (s, e) = (s', e') := by
    by_contra hne
    exact hapart.forall hp hp' hne hmem hmem'
  obtain ⟨rfl, rfl⟩ := Prod.mk.inj hsame
  obtain rfl : slot = slot' := Site.slot_unique (heach _ hp) hclaim hclaim' rfl
  rfl

/-- The declarations of a blueprint belong to its operations. -/
lemma owned (h : Assembled document order pairs routes blueprint)
    (hdistinct : (blueprint.declarations.map Declaration.name).Nodup) :
    Owned document order blueprint := by
  have hinline : ∀ d ∈ blueprint.inline, d.name ∉ order.names := by
    intro d hd
    rw [h.inline_eq] at hd
    obtain ⟨entry, hentry, rfl⟩ := List.mem_map.1 hd
    exact h.apart.not_mem entry.1 (List.mem_map_of_mem hentry)
  constructor
  case distinct => exact hdistinct
  case owner =>
    intro d hd
    have hd' := hd
    rw [h.inline_eq] at hd'
    obtain ⟨entry, hentry, rfl⟩ := List.mem_map.1 hd'
    rw [h.built.inline] at hentry
    obtain ⟨⟨s, e⟩, hp, hclaim⟩ := List.mem_flatMap.1 hentry
    obtain ⟨slot, -, hname⟩ := Site.mem_claims_iff.1 hclaim
    have hnames : blueprint.Names entry.1
        (RouteTree.newRoute s.keys routes.tree, s.method, slot) := ⟨e, h.at?_of_mem hp, hname⟩
    exact ⟨_, hnames, fun place hplace => h.place_unique (hinline _ hd) hplace hnames⟩
  case operation =>
    intro s hs
    rw [← h.sites_eq] at hs
    obtain ⟨⟨s, e⟩, hp, rfl⟩ := List.mem_map.1 hs
    exact ⟨_, e, h.at?_of_mem hp, h.declaredIn hp⟩
  case endpoint => exact fun route method e hat => h.exists_declaredIn_of_at? hat
  case component =>
    rintro d hd route method ⟨e, hat, hname⟩
    obtain ⟨s, hp, -, -⟩ := h.exists_mem_of_at? hat
    -- A query has no schema but its own, so it does not bear the name of a component.
    cases hown : s.ownSchema? document order .query with
    | none =>
      rw [(h.built.isEndpoint _ hp).shared .query hown] at hname
      cases hname
    | some schema =>
      obtain ⟨d', hd', hname', -⟩ := (h.declaredIn hp).own .query schema hown
      have heq : d'.name = d.name := Option.some_inj.1 (hname'.symm.trans hname)
      exact hinline d' hd' (heq ▸ h.mem_names_iff.2 ⟨d, hd, rfl⟩)

end Assembled

/-- In the blueprint of a description, the declarations of the schemas of single operations belong
to these operations, one to one, and the names of components stand for bodies and answers only. -/
theorem ofDocument_owned (h : ofDocument strict document = .ok blueprint) :
    ∃ schemas, document.schemas? = some schemas ∧
      Owned document (.ofSchemas schemas) blueprint := by
  obtain ⟨schemas, -, hschemas, -⟩ := ofDocument_eq_ok_iff.1 h
  obtain ⟨pairs, routes, hassembled⟩ := exists_assembled h hschemas
  exact ⟨schemas, hschemas, hassembled.owned (nodup_names_of_ofDocument h)⟩

/-- The list of people that an operation takes belongs to this operation. -/
theorem circle_owned :
    ofDocument false circleDocument = .ok circleBlueprint ∧
      ∃ schemas, circleDocument.schemas? = some schemas ∧
        Owned circleDocument (.ofSchemas schemas) circleBlueprint :=
  ⟨ofDocument_circleDocument, ofDocument_owned ofDocument_circleDocument⟩

end Blueprint

end TypedClient
