import TypedClient.Proofs.Document.Read

/-!
# The schemas of a description

Wherever a schema stands in a description that has been read, it is the schema that some JSON value
describes.  So what holds of all these schemas holds of every schema of the description
(`Document.everySchema_of_read`).  The readers of the parts are put together from a few, and for each
of these there is a lemma that tells what holds of the values it yields (`Reader.Yields`).
-/

namespace TypedClient

/-! ## What readers yield -/

/-- Every value that a reader yields has a property. -/
def Reader.Yields {α : Type} (reader : Reader α) (P : α → Prop) : Prop :=
  ∀ found a, reader found = .ok a → P a

namespace Reader

variable {α β : Type} {reader : Reader α} {P : α → Prop}

/-- A property of what is read, where something is. -/
lemma Yields.option (h : reader.Yields P) :
    (Reader.option reader).Yields fun a? => ∀ a, a? = some a → P a := by
  intro found a? hread a ha
  subst ha
  cases found with
  | null => cases hread
  | _ =>
    obtain ⟨b, hb, hsome⟩ := Except.map_eq_ok_iff.1 hread
    exact Option.some_inj.1 hsome ▸ h _ b hb

/-- A property of each item. -/
lemma Yields.list (h : reader.Yields P) : (Reader.list reader).Yields fun as => ∀ a ∈ as, P a := by
  intro found as hread a ha
  cases found with
  | array items =>
    obtain ⟨item, -, hitem⟩ := Except.exists_mem_of_mapM_eq_ok hread ha
    exact h item a hitem
  | _ => cases hread

/-- A property of the value of each member. -/
lemma Yields.map (h : reader.Yields P) : (Reader.map reader).Yields fun es => ∀ e ∈ es, P e.2 := by
  intro found es hread e he
  obtain ⟨members, -, hmembers⟩ := Except.bind_eq_ok_iff.1 hread
  obtain ⟨pairs, hpairs, rfl⟩ := Except.map_eq_ok_iff.1 hmembers
  obtain ⟨member, -, hmember⟩ :=
    Except.exists_mem_of_mapM_eq_ok hpairs (Entries.mem_of_mem_ofList he)
  obtain ⟨a, ha, rfl⟩ := Except.map_eq_ok_iff.1 hmember
  exact h member.2 a ha

/-- A property of a record that the blank one has and every field keeps. -/
lemma yields_read (record : Record α) (hblank : P record.blank)
    (hput : ∀ field ∈ record.fields, ∀ r, P r → (field.put r).Yields P) :
    Reader.Yields record.read P := by
  have hitems : ∀ (fields : List (RecordField α)) (items : List Json) (seen : Nat) (r r' : α),
      (∀ field ∈ fields, field ∈ record.fields) → P r →
        record.readItems fields items seen r = .ok r' → P r' := by
    intro fields
    induction fields with
    | nil =>
      intro items seen r r' _ hr hread
      cases items with
      | nil => exact Except.ok.inj hread ▸ hr
      | cons item items => cases hread
    | cons field fields ih =>
      intro items seen r r' hfields hr hread
      rw [List.forall_mem_cons] at hfields
      cases items with
      | nil =>
        rw [Record.readItems] at hread
        split at hread
        · cases hread
        · exact ih [] _ r r' hfields.2 hr hread
      | cons item items =>
        obtain ⟨mid, hmid, hrest⟩ := Except.bind_eq_ok_iff.1 hread
        exact ih items _ mid r' hfields.2 (hput field hfields.1 r hr item mid hmid) hrest
  intro found r hread
  cases found with
  | object members =>
    exact Record.read_object_induction record P hblank
      (fun field hfield r found r' hr => hput field hfield r hr found r') hread
  | array items => exact hitems record.fields items 0 _ r (fun _ h => h) hblank hread
  | _ => cases hread

/-- A field keeps a property of the record that it is read into, if what is read has a property with
which the record keeps its own. -/
lemma Yields.field {Q : β → Prop} {fieldReader : Reader β} (h : fieldReader.Yields Q) {r : α}
    {put : α → β → α} {name : String} (hput : ∀ b, Q b → P (put r b)) :
    ((RecordField.of name fieldReader put).put r).Yields P := by
  intro found r' hread
  obtain ⟨b, hb, rfl⟩ := Except.map_eq_ok_iff.1 hread
  exact hput b (h found b hb)

/-- So does a field that an array need not contain. -/
lemma Yields.defaultField {Q : β → Prop} {fieldReader : Reader β} (h : fieldReader.Yields Q) {r : α}
    {put : α → β → α} {name : String} (hput : ∀ b, Q b → P (put r b)) :
    ((RecordField.withDefault name fieldReader put).put r).Yields P :=
  show ((RecordField.of name fieldReader put).put r).Yields P from h.field hput

/-- Nothing is said of what is read. -/
lemma yields_true (reader : Reader α) : reader.Yields fun _ => True := fun _ _ _ => trivial

end Reader

/-! ## Every schema -/

variable (P : Schema → Prop)

/-- The schema of a parameter, if there is one, has a property. -/
def Parameter.EverySchema (p : Parameter) : Prop := ∀ s, p.schema = some s → P s

/-- Every schema of a body has a property. -/
def Body.EverySchema (b : Body) : Prop := ∀ e ∈ b.content, ∀ s, e.2 = some s → P s

/-- Every schema of an operation has a property. -/
structure Operation.EverySchema (o : Operation) : Prop where
  /-- Those of its parameters. -/
  parameters : ∀ p ∈ o.parameters, p.EverySchema P
  /-- Those of what it takes. -/
  requestBody : ∀ b, o.requestBody = some b → b.EverySchema P
  /-- Those of what it answers. -/
  responses : ∀ e ∈ o.responses, e.2.EverySchema P

/-- Every schema of a path item has a property. -/
structure PathItem.EverySchema (item : PathItem) : Prop where
  /-- Those of its operations. -/
  operations : ∀ e ∈ item.operations, e.2.EverySchema P
  /-- Those of the parameters that they share. -/
  parameters : ∀ p ∈ item.parameters, p.EverySchema P

/-- Every schema of the named parts has a property. -/
structure Components.EverySchema (c : Components) : Prop where
  /-- The named schemas. -/
  schemas : ∀ es, c.schemas = some es → ∀ e ∈ es, P e.2
  /-- Those of the named parameters. -/
  parameters : ∀ e ∈ c.parameters, e.2.EverySchema P

/-- Every schema of a description has a property. -/
structure Document.EverySchema (d : Document) : Prop where
  /-- Those of the named parts. -/
  components : ∀ c, d.components = some c → c.EverySchema P
  /-- Those of the paths. -/
  paths : ∀ e ∈ d.paths, e.2.EverySchema P

variable {P}

section Read

variable (hP : ∀ v, P (Schema.ofJson v))
include hP

/-- What holds of the schemas of all JSON values holds of those that are read. -/
lemma Schema.yields_reader : Schema.reader.Yields P := by
  intro found s hs
  exact Except.ok.inj hs ▸ hP found

/-- It holds of the schema of a parameter that has been read. -/
lemma Parameter.yields_read : Reader.Yields record.read (EverySchema P) := by
  refine Reader.yields_read record ?_ ?_
  · rintro s ⟨⟩
  · intro field hfield p hp
    simp only [record, List.mem_cons, List.not_mem_nil, or_false] at hfield
    rcases hfield with rfl | rfl | rfl | rfl | rfl | rfl
    · exact (Reader.yields_true _).field fun _ _ => hp
    · exact (Reader.yields_true _).defaultField fun _ _ => hp
    · exact (Reader.yields_true _).defaultField fun _ _ => hp
    · exact (Reader.yields_true _).defaultField fun _ _ => hp
    · exact (Reader.yields_true _).field fun _ _ => hp
    · exact (Schema.yields_reader hP).option.field fun _ h => h

/-- It holds of the schemas of a body that has been read. -/
lemma Body.yields_read : Reader.Yields record.read (EverySchema P) := by
  have hmedia : Reader.Yields mediaTypeRecord.read fun s? : Option Schema =>
      ∀ s, s? = some s → P s := by
    refine Reader.yields_read mediaTypeRecord ?_ ?_
    · rintro s ⟨⟩
    · intro field hfield s? _
      obtain rfl := List.mem_singleton.1 hfield
      exact (Schema.yields_reader hP).option.field fun _ h => h
  refine Reader.yields_read record ?_ ?_
  · rintro e ⟨⟩
  · intro field hfield b _
    obtain rfl := List.mem_singleton.1 hfield
    exact hmedia.map.defaultField fun _ h => h

/-- It holds of the schemas of an operation that has been read. -/
lemma Operation.yields_read : Reader.Yields record.read (EverySchema P) := by
  refine Reader.yields_read record ⟨by simp [record], by simp [record], by simp [record]⟩ ?_
  intro field hfield o ho
  simp only [record, List.mem_cons, List.not_mem_nil, or_false] at hfield
  rcases hfield with rfl | rfl | rfl | rfl | rfl
  · exact (Reader.yields_true _).field fun _ _ => ⟨ho.parameters, ho.requestBody, ho.responses⟩
  · exact (Reader.yields_true _).field fun _ _ => ⟨ho.parameters, ho.requestBody, ho.responses⟩
  · exact (Parameter.yields_read hP).list.defaultField fun _ h => ⟨h, ho.requestBody, ho.responses⟩
  · exact (Body.yields_read hP).option.field fun _ h => ⟨ho.parameters, h, ho.responses⟩
  · exact (Body.yields_read hP).map.defaultField fun _ h => ⟨ho.parameters, ho.requestBody, h⟩

/-- It holds of the schemas of a path item that has been read. -/
lemma PathItem.yields_read : Reader.Yields read (EverySchema P) := by
  intro found item hread
  obtain ⟨members, -, hmembers⟩ := Except.bind_eq_ok_iff.1 hread
  refine Except.foldlM_induction (EverySchema P) ?_ ⟨by simp, by simp⟩ hmembers
  intro item member item' hitem hmember
  unfold readMember at hmember
  dsimp only at hmember
  split at hmember
  · obtain ⟨operation, hoperation, rfl⟩ := Except.map_eq_ok_iff.1 hmember
    have hnew := Operation.yields_read hP _ _ (Except.mapError_eq_ok_iff.1 hoperation)
    refine ⟨fun e he => ?_, hitem.parameters⟩
    rcases Entries.mem_of_mem_put he with he | rfl
    · exact hitem.operations e he
    · exact hnew
  · split at hmember
    · obtain ⟨parameters, hparameters, rfl⟩ := Except.map_eq_ok_iff.1 hmember
      exact ⟨hitem.operations,
        (Parameter.yields_read hP).list _ _ (Except.mapError_eq_ok_iff.1 hparameters)⟩
    · exact Except.ok.inj hmember ▸ hitem

/-- It holds of the schemas of the named parts that have been read. -/
lemma Components.yields_read : Reader.Yields record.read (EverySchema P) := by
  refine Reader.yields_read record ⟨by simp [record], by simp [record]⟩ ?_
  intro field hfield c hc
  simp only [record, List.mem_cons, List.not_mem_nil, or_false] at hfield
  rcases hfield with rfl | rfl
  · exact (Schema.yields_reader hP).map.option.defaultField fun _ h => ⟨h, hc.parameters⟩
  · exact (Parameter.yields_read hP).map.defaultField fun _ h => ⟨hc.schemas, h⟩

/-- What holds of the schemas of all JSON values holds of every schema of a description that has
been read. -/
theorem Document.everySchema_of_read {text : String} {document : Document}
    (h : read text = .ok document) : document.EverySchema P := by
  have hpaths : Reader.Yields readPaths fun paths => ∀ e ∈ paths, e.2.EverySchema P := by
    intro found paths hread e he
    obtain ⟨item, hitem⟩ := exists_read_of_mem_readPaths hread he
    exact PathItem.yields_read hP item e.2 hitem
  unfold read at h
  split at h
  · next value _ =>
    cases value with
    | object members =>
      rw [ofJson, Except.mapError_eq_ok_iff] at h
      refine Reader.yields_read record ⟨by simp [record], by simp [record]⟩ ?_ _ _ h
      intro field hfield d hd
      simp only [record, List.mem_cons, List.not_mem_nil, or_false] at hfield
      rcases hfield with rfl | rfl
      · exact (Components.yields_read hP).option.defaultField fun _ h => ⟨h, hd.paths⟩
      · exact hpaths.defaultField fun _ h => ⟨hd.components, h⟩
    | _ => cases h
  · cases h

end Read

end TypedClient
