import TypedClient.Proofs.Entries.Merge
import TypedClient.Proofs.Route.Placement

/-!
# Members of a path item that are named like methods

A member of a path item is an operation if it is named like a method of HTTP, in any letter case, and
the operations are kept by the method in lower case.  So members whose names differ in letter case
only are for one method, and of these the last one counts (`PathItem.readsMethods`).  No operation
takes the place of another one if and only if no two members are named like one method.
-/

namespace TypedClient

open Entries (IsLast YieldsAt)

namespace PathItem

/-- The method that a member is named like, in lower case. -/
def method? (member : String × Json) : Option String :=
  if httpMethods.contains (Text.asciiLower member.1) then some (Text.asciiLower member.1) else none

/-- At a position among the members of a path item there is one that is named like a method, and it
holds an operation. -/
def WrittenAt (members : Entries Json) (i : Nat) (method : String) (o : Operation) : Prop :=
  ∃ member, members[i]? = some member ∧ method? member = some method ∧
    Operation.record.read member.2 = .ok o

/-- What a path item has of its members. -/
structure ReadsMethods (members : Entries Json) (item : PathItem) : Prop where
  /-- Each member that is named like a method holds an operation. -/
  exists_operation : ∀ member ∈ members, ∀ method, method? member = some method →
    ∃ o, Operation.record.read member.2 = .ok o
  /-- The operation for a method is that of the last member that is named like it. -/
  get?_iff : ∀ method o,
    item.operations.get? method = some o ↔ IsLast (WrittenAt members) method o
  /-- There are at most as many operations as members that are named like methods. -/
  length_le : item.operations.length ≤ (members.filterMap method?).length
  /-- There are as many if and only if no two members are named like one method. -/
  length_eq_iff : item.operations.length = (members.filterMap method?).length ↔
    (members.filterMap method?).Nodup

/-! ## One member and all of them -/

/-- The operation that a member holds, by its method. -/
def written? (member : String × Json) : Option (String × Operation) :=
  (method? member).bind fun method =>
    (Operation.record.read member.2).toOption.map fun o => (method, o)

/-- What a member holds, if it is named like a method. -/
lemma written?_eq_some_iff {member : String × Json} {method : String} {o : Operation} :
    written? member = some (method, o) ↔
      method? member = some method ∧ Operation.record.read member.2 = .ok o := by
  unfold written?
  cases method? member with
  | none => simp
  | some m =>
    cases Operation.record.read member.2 with
    | error e => simp [Except.toOption]
    | ok o' => simp [Except.toOption]

/-- The members that hold operations, position by position. -/
lemma writtenAt_eq (members : Entries Json) : WrittenAt members = YieldsAt written? members := by
  funext i method o
  simp only [WrittenAt, YieldsAt, written?_eq_some_iff]

variable {item item' : PathItem} {member : String × Json} {members : Entries Json}

/-- A member that is named like a method puts its operation under the method, and no other member
changes the operations. -/
lemma operations_of_readMember (h : readMember item member = .ok item') :
    item'.operations = ((written? member).toList).foldl
        (fun es pair => es.put pair.1 pair.2) item.operations ∧
      (∀ method, method? member = some method →
        ∃ o, Operation.record.read member.2 = .ok o) := by
  unfold readMember at h
  dsimp only at h
  split at h
  · next hmethod =>
    obtain ⟨o, ho, rfl⟩ := Except.map_eq_ok_iff.1 h
    rw [Except.mapError_eq_ok_iff] at ho
    have hname : method? member = some (Text.asciiLower member.1) := if_pos hmethod
    rw [written?_eq_some_iff.2 ⟨hname, ho⟩]
    exact ⟨rfl, fun _ _ => ⟨o, ho⟩⟩
  · next hmethod =>
    have hname : method? member = none := if_neg hmethod
    have hnone : written? member = none := by rw [written?, hname, Option.bind_none]
    rw [hnone, hname]
    refine ⟨?_, by simp⟩
    split at h
    · obtain ⟨parameters, -, rfl⟩ := Except.map_eq_ok_iff.1 h
      rfl
    · cases h
      rfl

/-- The members of a path item put their operations one after the other. -/
lemma operations_of_foldlM (h : members.foldlM readMember item = .ok item') :
    item'.operations = (members.filterMap written?).foldl
        (fun es pair => es.put pair.1 pair.2) item.operations ∧
      ∀ member ∈ members, ∀ method, method? member = some method →
        ∃ o, Operation.record.read member.2 = .ok o := by
  induction members generalizing item with
  | nil =>
    cases h
    exact ⟨rfl, List.forall_mem_nil _⟩
  | cons member rest ih =>
    rw [List.foldlM_cons, Except.bind_eq_ok_iff] at h
    obtain ⟨mid, hmid, hrest⟩ := h
    obtain ⟨hoperations, hmember⟩ := operations_of_readMember hmid
    obtain ⟨hall, hmembers⟩ := ih hrest
    refine ⟨?_, List.forall_mem_cons.2 ⟨hmember, hmembers⟩⟩
    rw [hall, hoperations, List.filterMap_cons, ← List.foldl_append]
    cases written? member <;> rfl

/-- Where each member that is named like a method holds an operation, the names are the methods. -/
lemma map_fst_filterMap_written? (h : ∀ member ∈ members, ∀ method, method? member = some method →
    ∃ o, Operation.record.read member.2 = .ok o) :
    (members.filterMap written?).map Prod.fst = members.filterMap method? := by
  rw [List.map_filterMap]
  refine List.filterMap_congr fun member hmember => ?_
  cases hmethod : method? member with
  | none => rw [written?, hmethod, Option.bind_none, Option.map_none]
  | some method =>
    obtain ⟨o, ho⟩ := h member hmember method hmethod
    rw [written?_eq_some_iff.2 ⟨hmethod, ho⟩, Option.map_some]

/-- What a path item that has been read has of its members. -/
lemma readsMethods_of_read (h : read (.object members) = .ok item) : ReadsMethods members item := by
  have hfold : members.foldlM readMember {} = .ok item := h
  obtain ⟨hoperations, hmembers⟩ := operations_of_foldlM hfold
  have hall : item.operations = .ofList (members.filterMap written?) := hoperations
  have hnames := map_fst_filterMap_written? hmembers
  have hlength : (members.filterMap written?).length = (members.filterMap method?).length := by
    rw [← hnames, List.length_map]
  constructor
  case exists_operation => exact hmembers
  case get?_iff =>
    intro method o
    rw [hall, Entries.get?_ofList_eq_some_iff, writtenAt_eq]
  case length_le =>
    rw [hall, ← hlength]
    exact Entries.length_ofList_le _
  case length_eq_iff =>
    rw [hall, ← hlength, Entries.length_ofList_eq_iff, hnames]

/-- A path item that can be read has the operation of each member that is named like a method and
behind which there is no other one that is named like it; where it is one of the path items of a
description that has been read, these operations have their routes in the client, if there is one.
Any other operation is replaced. -/
theorem readsMethods (h : read (.object members) = .ok item) :
    ReadsMethods members item ∧
      ∀ text document path order routes, Document.read text = .ok document →
        (path, item) ∈ document.paths → Routes.ofDocument document order = .ok routes →
          ∀ method o, IsLast (WrittenAt members) method o →
            ∃! route, Site.IsAt ⟨path, item, method, o⟩ routes.tree route := by
  have hreads := readsMethods_of_read h
  refine ⟨hreads, ?_⟩
  intro text document path order routes hread hpath hroutes method o hlast
  have hoperation : (method, o) ∈ item.operations :=
    Entries.mem_of_get? ((hreads.get?_iff method o).2 hlast)
  have hsite : ⟨path, item, method, o⟩ ∈ document.sites :=
    List.mem_flatMap.2 ⟨(path, item), hpath, List.mem_map.2 ⟨(method, o), hoperation, rfl⟩⟩
  exact (Routes.placed_of_ofDocument hread hroutes).existsUnique _ hsite

/-- The text of a description with one path, which has two operations whose names differ in letter
case only. -/
def twiceText : String :=
  "\x7b\"components\": \x7b\"schemas\": \x7b\x7d\x7d, \"paths\": \x7b\"/pets\": \x7b" ++
    "\"get\": \x7b\"operationId\": \"list\"\x7d, " ++
    "\"GET\": \x7b\"operationId\": \"search\"\x7d\x7d\x7d\x7d"

/-- The events of the text. -/
def twiceEvents : List (Yaml.Event String) :=
  let key := fun text => Yaml.Event.scalar {} text false
  [.mappingStart {},
    key "components", .mappingStart {}, key "schemas", .mappingStart {}, .mappingEnd, .mappingEnd,
    key "paths", .mappingStart {},
      key "/pets", .mappingStart {},
        key "get", .mappingStart {}, key "operationId", key "list", .mappingEnd,
        key "GET", .mappingStart {}, key "operationId", key "search", .mappingEnd, .mappingEnd,
      .mappingEnd, .mappingEnd]

/-- The value of the events. -/
def twiceValue : Yaml.Value :=
  .mapping [
    (.string "components", .mapping [(.string "schemas", .mapping [])]),
    (.string "paths", .mapping [
      (.string "/pets", .mapping [
        (.string "get", .mapping [(.string "operationId", .string "list")]),
        (.string "GET", .mapping [(.string "operationId", .string "search")])])])]

/-- The members of the path. -/
def twiceMembers : Entries Json :=
  [("get", .object [("operationId", .string "list")]),
    ("GET", .object [("operationId", .string "search")])]

/-- The path item that is read from the members. -/
def twiceItem : PathItem where
  operations := [("get", { operationId := some "search" })]

/-- The description that the text spells. -/
def twiceDocument : Document where
  components := some { schemas := some [] }
  paths := [("/pets", twiceItem)]

/-- The text spells the description. -/
lemma read_twiceText : Document.read twiceText = .ok twiceDocument := by
  have hevents : (Yaml.tokens? twiceText.toList).bind Yaml.Event.ofTokens? = some twiceEvents := by
    -- The literals are taken apart by a lemma, which is much faster than decoding them.
    delta twiceText
    simp only [String.toList_append]
    repeat rw [String.toList_ofList]
    decide +kernel
  have hvalue : Yaml.Value.ofEvents? twiceEvents = some twiceValue := by cbv
  exact Document.read_eq_ok_of_steps hevents hvalue rfl

/-- Of the two members the second one counts, and its operation has a route. -/
theorem twiceMembers_read :
    read (.object twiceMembers) = .ok twiceItem ∧
      ReadsMethods twiceMembers twiceItem ∧
      ∃ routes, Routes.ofDocument twiceDocument (.ofSchemas []) = .ok routes ∧
        ∃! route,
          Site.IsAt ⟨"/pets", twiceItem, "get", { operationId := some "search" }⟩ routes.tree
            route := by
  have hread : read (.object twiceMembers) = .ok twiceItem := rfl
  obtain ⟨hreads, hplaced⟩ := readsMethods hread
  have hlast : IsLast (WrittenAt twiceMembers) "get" { operationId := some "search" } :=
    (hreads.get?_iff _ _).1 rfl
  have hbuilt : (Routes.ofDocument twiceDocument (.ofSchemas [])).map Routes.operationIds =
      .ok ["search"] := rfl
  obtain ⟨routes, hroutes, -⟩ := Except.map_eq_ok_iff.1 hbuilt
  exact ⟨hread, hreads, routes, hroutes,
    hplaced _ _ _ _ _ read_twiceText (List.mem_singleton.2 rfl) hroutes _ _ hlast⟩

/-- Two members are named like one method, so of the two operations one is in the path item.  The
client has no function for the other one, and nothing is reported. -/
theorem twiceText_loses :
    Document.read twiceText = .ok twiceDocument ∧
      twiceDocument.paths = [("/pets", twiceItem)] ∧
      read (.object twiceMembers) = .ok twiceItem ∧
      twiceMembers.filterMap method? = ["get", "get"] ∧
      WrittenAt twiceMembers 0 "get" { operationId := some "list" } ∧
      twiceItem.operations = [("get", { operationId := some "search" })] ∧
      Routes.ofDocument twiceDocument (.ofSchemas []) = .ok {
        tree := .node [] [("pets", .node [("get", {
          method := "get", path := "/pets", operationId := some "search" })] [])]
        inline := []
        operationIds := ["search"] } := by
  have hmethods : twiceMembers.filterMap method? = ["get", "get"] := by decide
  exact ⟨read_twiceText, rfl, rfl, hmethods, ⟨_, rfl, by decide, rfl⟩, rfl, rfl⟩

end PathItem

end TypedClient
