import TypedClient.Document.Read
import TypedClient.Proofs.Entries
import TypedClient.Proofs.Outcome
import TypedClient.Proofs.Route.OfDocument
import TypedClient.Text.Case

/-!
# What is read as a description

A record that is read from an object has been built by its fields, one after the other, so it has
every property that each field keeps (`Record.read_object_induction`).  In this way the operations
of a description that has been read bear methods of HTTP, in lower case
(`Document.method_mem_of_read`).
-/

namespace TypedClient

namespace Record

variable {α : Type}

/-- A record that is read from an object has what the blank record has and each field keeps. -/
lemma read_object_induction (record : Record α) (P : α → Prop) (hblank : P record.blank)
    (hput : ∀ field ∈ record.fields, ∀ r found r', P r → field.put r found = .ok r' → P r')
    {members : Entries Json} {r : α} (h : record.read (.object members) = .ok r) : P r := by
  refine Except.foldlM_induction P ?_ hblank h
  intro r member r' hr hmember
  cases hfind : record.fields.find? fun f => f.name == member.1 with
  | none =>
    rw [hfind] at hmember
    cases hmember
    exact hr
  | some field =>
    rw [hfind] at hmember
    exact hput field (List.mem_of_find?_eq_some hfind) r member.2 r' hr hmember

end Record

namespace PathItem

/-- The operations of a path item that has been read bear methods of HTTP. -/
lemma method_mem_of_read {found : Json} {item : PathItem} (h : read found = .ok item) :
    ∀ o ∈ item.operations, o.1 ∈ httpMethods := by
  obtain ⟨members, -, hmembers⟩ := Except.bind_eq_ok_iff.1 h
  refine Except.foldlM_induction (fun item : PathItem => ∀ o ∈ item.operations, o.1 ∈ httpMethods)
    ?_ (by simp) hmembers
  intro item member item' hitem hmember
  unfold readMember at hmember
  dsimp only at hmember
  split at hmember
  · next hmethod =>
    obtain ⟨operation, -, rfl⟩ := Except.map_eq_ok_iff.1 hmember
    intro o ho
    have hkey : o.1 ∈ Entries.keys (item.operations.put (Text.asciiLower member.1) operation) :=
      List.mem_map.2 ⟨o, ho, rfl⟩
    rw [Entries.keys_put] at hkey
    have hold : ∀ key ∈ Entries.keys item.operations, key ∈ httpMethods := by
      intro key hkey
      obtain ⟨o, ho, rfl⟩ := List.mem_map.1 hkey
      exact hitem o ho
    split at hkey
    · exact hold _ hkey
    · rcases List.mem_append.1 hkey with hkey | hkey
      · exact hold _ hkey
      · rw [List.mem_singleton.1 hkey]
        exact List.contains_iff_mem.1 hmethod
  · split at hmember
    · obtain ⟨parameters, -, rfl⟩ := Except.map_eq_ok_iff.1 hmember
      exact hitem
    · cases hmember
      exact hitem

end PathItem

namespace Document

/-- The items of the paths that have been read have been read themselves. -/
lemma exists_read_of_mem_readPaths {found : Json} {paths : Entries PathItem}
    (h : readPaths found = .ok paths) {p : String × PathItem} (hp : p ∈ paths) :
    ∃ item, PathItem.read item = .ok p.2 := by
  obtain ⟨members, -, hmembers⟩ := Except.bind_eq_ok_iff.1 h
  obtain ⟨pairs, hpairs, rfl⟩ := Except.map_eq_ok_iff.1 hmembers
  have hget : (Entries.ofList pairs).get? p.1 = some p.2 :=
    Entries.get?_of_mem (Entries.nodup_keys_ofList pairs) hp
  have hmem : p ∈ pairs := Entries.mem_of_get?_ofList hget
  obtain ⟨member, -, hmember⟩ := Except.exists_mem_of_mapM_eq_ok hpairs hmem
  obtain ⟨item, hitem, rfl⟩ := Except.map_eq_ok_iff.1 hmember
  exact ⟨member.2, Except.mapError_eq_ok_iff.1 hitem⟩

/-- The paths of a description that has been read have been read. -/
lemma exists_read_of_mem_paths {text : String} {document : Document}
    (h : read text = .ok document) {p : String × PathItem} (hp : p ∈ document.paths) :
    ∃ item, PathItem.read item = .ok p.2 := by
  unfold read at h
  split at h
  · next value _ =>
    cases value with
    | object members =>
      rw [ofJson, Except.mapError_eq_ok_iff] at h
      refine Record.read_object_induction record
        (fun document => ∀ p ∈ document.paths, ∃ item, PathItem.read item = .ok p.2)
        (by simp [record]) ?_ h p hp
      intro field hfield d found d' hd hput
      simp only [record, List.mem_cons, List.not_mem_nil, or_false] at hfield
      rcases hfield with rfl | rfl
      · obtain ⟨components, -, rfl⟩ := Except.map_eq_ok_iff.1 hput
        exact hd
      · obtain ⟨paths, hpaths, rfl⟩ := Except.map_eq_ok_iff.1 hput
        exact fun p => exists_read_of_mem_readPaths hpaths
    | _ => cases h
  · cases h

/-- The operations of a description that has been read bear methods of HTTP. -/
theorem method_mem_of_read {text : String} {document : Document}
    (h : read text = .ok document) {s : Site} (hs : s ∈ document.sites) :
    s.method ∈ httpMethods := by
  obtain ⟨p, hp, hs⟩ := List.mem_flatMap.1 hs
  obtain ⟨o, ho, rfl⟩ := List.mem_map.1 hs
  obtain ⟨item, hitem⟩ := exists_read_of_mem_paths h hp
  exact PathItem.method_mem_of_read hitem o ho

/-- The methods of HTTP are in lower case. -/
lemma lower_eq_self_of_mem_httpMethods : ∀ method ∈ httpMethods, Text.lower method = method := by
  decide

/-- A text is read in steps: its tokens, their events, the value of the events, and the description
of the value. -/
lemma read_eq_ok_of_steps {text : String} {events : List (Yaml.Event String)} {value : Yaml.Value}
    {document : Document}
    (hevents : (Yaml.tokens? text.toList).bind Yaml.Event.ofTokens? = some events)
    (hvalue : Yaml.Value.ofEvents? events = some value)
    (hdocument : ofJson value.toJson = .ok document) : read text = .ok document := by
  obtain ⟨tokens, htokens, hevents⟩ := Option.bind_eq_some_iff.1 hevents
  rw [read, Yaml.readJson?, htokens, Option.bind_some, hevents, Option.bind_some, hvalue]
  exact hdocument

end Document

end TypedClient
