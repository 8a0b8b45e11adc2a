import Mathlib.Data.List.Nodup
import Mathlib.Logic.Relation
import TypedClient.Schema.Order

/-!
# Dependencies come first

`SchemaOrder.ofSchemas` lists every named schema once, and a schema comes after each schema it
depends on, unless the dependencies of that one lead back to it.  So a forward reference always
closes a circle, and schemas without circles have none.

The search is described by what a visit does to the list of finished names.  It only grows at its
end (`prefix_visit`), by names of the graph that are not on the path and not in it already
(`mem_of_mem_visit`, `nodup_visit`), and in the end holds every name that was to be visited and is
not on the path (`mem_visit`).  The property that it keeps is `Settled`: each finished name comes
after the names it depends on, except for those that lead back to it.  To keep it, a visit has to
know that every name on the path leads to every name to be visited (`settled_visit`).
-/

namespace TypedClient

open Relation

/-- Without repetitions, a list holds the same texts. -/
@[simp] lemma mem_distinct {x : String} {xs : List String} : x ∈ distinct xs ↔ x ∈ xs := by
  induction xs with
  | nil => rfl
  | cons y rest ih =>
    by_cases h : x = y <;> simp [distinct, ih, h]

namespace DependencyGraph

/-- The name `a` of the graph depends on the name `b` of the graph. -/
def Edge (graph : DependencyGraph) (a b : String) : Prop :=
  (∃ needed, Entries.get? graph a = some needed ∧ b ∈ needed) ∧ b ∈ Entries.keys graph

/-- Dependencies lead from one name to another. -/
def Reaches (graph : DependencyGraph) : String → String → Prop := ReflTransGen graph.Edge

/-- Each name of a list comes after the names it depends on, except for those that lead back to
it. -/
def Settled (graph : DependencyGraph) (names : List String) : Prop :=
  ∀ earlier a later, names = earlier ++ a :: later →
    ∀ b, graph.Edge a b → b ∈ earlier ∨ graph.Reaches b a

/-! ## The steps of the search -/

variable (graph : DependencyGraph)

/-- With no names left, the search is over. -/
lemma visit_nil (path done : List String) : graph.visit path done [] = done := by
  rw [visit]

/-- A name that is on the path or finished is passed over. -/
lemma visit_seen {path done : List String} {name : String} (rest : List String)
    (h : name ∈ path ∨ name ∈ done) :
    graph.visit path done (name :: rest) = graph.visit path done rest := by
  rw [visit, dif_pos h]

/-- A name that is none of the graph is passed over. -/
lemma visit_missing {path done : List String} {name : String} (rest : List String)
    (h : ¬(name ∈ path ∨ name ∈ done)) (hneeded : Entries.get? graph name = none) :
    graph.visit path done (name :: rest) = graph.visit path done rest := by
  rw [visit, dif_neg h]
  split
  · rfl
  · next needed h' => simp [hneeded] at h'

/-- Any other name is finished after the names it depends on. -/
lemma visit_found {path done : List String} {name : String} (rest : List String)
    {needed : List String} (h : ¬(name ∈ path ∨ name ∈ done))
    (hneeded : Entries.get? graph name = some needed) :
    graph.visit path done (name :: rest) =
      graph.visit path (graph.visit (name :: path) done needed ++ [name]) rest := by
  rw [visit, dif_neg h]
  split
  · next h' => simp [hneeded] at h'
  · next needed' h' =>
    rw [hneeded, Option.some_inj] at h'
    rw [h']

/-! ## What a visit does to the finished names -/

/-- A visit only adds names at the end. -/
lemma prefix_visit (path done names : List String) : done <+: graph.visit path done names := by
  induction path, done, names using visit.induct graph with
  | case1 path done => exact (visit_nil graph path done).symm ▸ List.prefix_rfl
  | case2 path done name rest hseen ih => rwa [visit_seen graph rest hseen]
  | case3 path done name rest hseen hneeded ih => rwa [visit_missing graph rest hseen hneeded]
  | case4 path done name rest hseen needed hneeded ihneeded ihrest =>
    rw [visit_found graph rest hseen hneeded]
    exact (ihneeded.trans (List.prefix_append _ _)).trans ihrest

/-- A visit adds only names of the graph that are not on the path. -/
lemma mem_of_mem_visit {path done names : List String} {x : String}
    (hx : x ∈ graph.visit path done names) :
    x ∈ done ∨ x ∈ Entries.keys graph ∧ x ∉ path := by
  induction path, done, names using visit.induct graph with
  | case1 path done =>
    rw [visit_nil] at hx
    exact Or.inl hx
  | case2 path done name rest hseen ih =>
    rw [visit_seen graph rest hseen] at hx
    exact ih hx
  | case3 path done name rest hseen hneeded ih =>
    rw [visit_missing graph rest hseen hneeded] at hx
    exact ih hx
  | case4 path done name rest hseen needed hneeded ihneeded ihrest =>
    rw [visit_found graph rest hseen hneeded] at hx
    rcases ihrest hx with h | h
    · rcases List.mem_append.1 h with h | h
      · refine (ihneeded h).imp_right fun hk => ⟨hk.1, fun hp => hk.2 (List.mem_cons_of_mem _ hp)⟩
      · rw [List.mem_singleton.1 h]
        exact Or.inr ⟨Entries.mem_keys_of_get? hneeded, fun hp => hseen (Or.inl hp)⟩
    · exact Or.inr h

/-- A visit adds no name twice. -/
lemma nodup_visit {path done names : List String} (hdone : done.Nodup) :
    (graph.visit path done names).Nodup := by
  induction path, done, names using visit.induct graph with
  | case1 path done => rwa [visit_nil]
  | case2 path done name rest hseen ih =>
    rw [visit_seen graph rest hseen]
    exact ih hdone
  | case3 path done name rest hseen hneeded ih =>
    rw [visit_missing graph rest hseen hneeded]
    exact ih hdone
  | case4 path done name rest hseen needed hneeded ihneeded ihrest =>
    rw [visit_found graph rest hseen hneeded]
    -- The name is on the path while the names it depends on are visited, so it is not among them.
    have hnew : name ∉ graph.visit (name :: path) done needed := by
      intro hmem
      rcases mem_of_mem_visit graph hmem with h | h
      · exact hseen (Or.inr h)
      · exact h.2 List.mem_cons_self
    refine ihrest (List.nodup_append.2 ⟨ihneeded hdone, List.nodup_singleton name, ?_⟩)
    intro a ha b hb hab
    rw [List.mem_singleton] at hb
    subst hb hab
    exact hnew ha

/-- After a visit, the names to be visited are finished, except for those on the path. -/
lemma mem_visit {path done names : List String} {x : String} (hx : x ∈ names)
    (hkey : x ∈ Entries.keys graph) (hpath : x ∉ path) : x ∈ graph.visit path done names := by
  induction path, done, names using visit.induct graph with
  | case1 path done => simp at hx
  | case2 path done name rest hseen ih =>
    rw [visit_seen graph rest hseen]
    rcases List.mem_cons.1 hx with rfl | hx
    · exact (prefix_visit graph path done rest).subset (hseen.resolve_left hpath)
    · exact ih hx hpath
  | case3 path done name rest hseen hneeded ih =>
    rw [visit_missing graph rest hseen hneeded]
    rcases List.mem_cons.1 hx with rfl | hx
    · rw [← Entries.contains_iff_mem_keys, Entries.contains, hneeded] at hkey
      simp at hkey
    · exact ih hx hpath
  | case4 path done name rest hseen needed hneeded ihneeded ihrest =>
    rw [visit_found graph rest hseen hneeded]
    rcases List.mem_cons.1 hx with rfl | hx
    · refine (prefix_visit graph path _ rest).subset ?_
      simp
    · exact ihrest hx hpath

/-! ## The order of the finished names -/

/-- A settled list stays settled when a name comes to its end, if what it depends on is in the list
or leads back to it. -/
lemma Settled.concat {graph : DependencyGraph} {names : List String} {name : String}
    (h : graph.Settled names)
    (hname : ∀ b, graph.Edge name b → b ∈ names ∨ graph.Reaches b name) :
    graph.Settled (names ++ [name]) := by
  intro earlier a later heq b hb
  rcases List.eq_nil_or_concat later with rfl | ⟨later, last, rfl⟩
  · obtain ⟨hnames, hlast⟩ := List.append_inj' heq rfl
    obtain rfl : name = a := by simpa using hlast
    exact hnames ▸ hname b hb
  · have heq' : names ++ [name] = (earlier ++ a :: later) ++ [last] := by simpa using heq
    obtain ⟨hnames, -⟩ := List.append_inj' heq' rfl
    exact h earlier a later hnames b hb

/-- A visit keeps the finished names settled, if each name on the path leads to each name to be
visited. -/
lemma settled_visit {path done names : List String}
    (hpath : ∀ p ∈ path, ∀ name ∈ names, name ∈ Entries.keys graph → graph.Reaches p name)
    (hdone : graph.Settled done) : graph.Settled (graph.visit path done names) := by
  induction path, done, names using visit.induct graph with
  | case1 path done => rwa [visit_nil]
  | case2 path done name rest hseen ih =>
    rw [visit_seen graph rest hseen]
    exact ih (fun p hp n hn => hpath p hp n (List.mem_cons_of_mem _ hn)) hdone
  | case3 path done name rest hseen hneeded ih =>
    rw [visit_missing graph rest hseen hneeded]
    exact ih (fun p hp n hn => hpath p hp n (List.mem_cons_of_mem _ hn)) hdone
  | case4 path done name rest hseen needed hneeded ihneeded ihrest =>
    rw [visit_found graph rest hseen hneeded]
    have hname : name ∈ Entries.keys graph := Entries.mem_keys_of_get? hneeded
    have hedge : ∀ b ∈ needed, b ∈ Entries.keys graph → graph.Edge name b :=
      fun b hb hkey => ⟨⟨needed, hneeded, hb⟩, hkey⟩
    have hinner : graph.Settled (graph.visit (name :: path) done needed) := by
      refine ihneeded (fun p hp b hb hkey => ?_) hdone
      rcases List.mem_cons.1 hp with rfl | hp
      · exact ReflTransGen.single (hedge b hb hkey)
      · exact (hpath p hp name List.mem_cons_self hname).tail (hedge b hb hkey)
    refine ihrest (fun p hp n hn => hpath p hp n (List.mem_cons_of_mem _ hn)) (hinner.concat ?_)
    rintro b ⟨⟨needed', hneeded', hb⟩, hkey⟩
    rw [hneeded, Option.some_inj] at hneeded'
    subst hneeded'
    -- What the name depends on is finished by now, or was passed over because it is on the path.
    by_cases hbpath : b ∈ name :: path
    · rcases List.mem_cons.1 hbpath with rfl | hbpath
      · exact Or.inr ReflTransGen.refl
      · exact Or.inr (hpath b hbpath name List.mem_cons_self hname)
    · exact Or.inl (mem_visit graph hb hkey hbpath)

end DependencyGraph

/-! ## The order of named schemas -/

/-- The schema with the name `a` refers to the schema with the name `b`. -/
def DependsOn (schemas : Entries Schema) (a b : String) : Prop :=
  (∃ s, schemas.get? a = some s ∧ b ∈ s.dependencies) ∧ b ∈ schemas.keys

/-- References lead from one schema to another. -/
def LeadsTo (schemas : Entries Schema) : String → String → Prop := ReflTransGen (DependsOn schemas)

/-- The edges of the graph of named schemas are their dependencies. -/
lemma DependencyGraph.edge_ofSchemas (schemas : Entries Schema) :
    (DependencyGraph.ofSchemas schemas).Edge = DependsOn schemas := by
  funext a b
  simp only [Edge, DependsOn, ofSchemas, Entries.get?_mapValues, Entries.keys_mapValues,
    Option.map_eq_some_iff, eq_iff_iff]
  constructor
  · rintro ⟨⟨needed, ⟨s, hs, rfl⟩, hb⟩, hkey⟩
    exact ⟨⟨s, hs, hb⟩, hkey⟩
  · rintro ⟨⟨s, hs, hb⟩, hkey⟩
    exact ⟨⟨_, ⟨s, hs, rfl⟩, hb⟩, hkey⟩

namespace SchemaOrder

/-- One name is placed before another. -/
def Before (order : SchemaOrder) (a b : String) : Prop :=
  ∃ i j, order.place? a = some i ∧ order.place? b = some j ∧ i < j

/-- An order lists the schemas of a list, each one once and after those it depends on. -/
structure IsDependencyOrder (order : SchemaOrder) (schemas : Entries Schema) : Prop where
  /-- No name occurs twice. -/
  nodup : order.names.Nodup
  /-- The names are those of the schemas. -/
  mem_names : ∀ name, name ∈ order.names ↔ name ∈ schemas.keys
  /-- The place of a name is where the name stands. -/
  place : ∀ i name, order.place? name = some i ↔ order.names[i]? = some name
  /-- A schema comes after each schema it depends on, unless that one leads back to it. -/
  before : ∀ a b, DependsOn schemas a b → order.Before b a ∨ LeadsTo schemas b a
  /-- A forward reference lies on a circle, which may be the one of a schema that refers to
  itself. -/
  forward : ∀ a b, DependsOn schemas a b → order.isForward a b = true →
    a = b ∨ TransGen (DependsOn schemas) b a

/-- Where no name occurs twice, the place of a name is where the name stands. -/
lemma place?_eq_some_iff {order : SchemaOrder} (h : order.names.Nodup) {i : Nat} {name : String} :
    order.place? name = some i ↔ order.names[i]? = some name := by
  rw [place?, List.idxOf?_eq_some_iff, List.getElem?_eq_some_iff]
  constructor
  · rintro ⟨hi, hname, -⟩
    exact ⟨hi, hname⟩
  · rintro ⟨hi, hname⟩
    refine ⟨hi, hname, fun j hj heq => ?_⟩
    have : j = i := (List.Nodup.getElem_inj_iff h).1 (heq.trans hname.symm)
    omega

/-- The names in the order are those that have a place. -/
lemma mem_names_iff_exists_place? {order : SchemaOrder} {name : String} :
    name ∈ order.names ↔ ∃ i, order.place? name = some i := by
  rw [← Option.isSome_iff_exists, place?, Option.isSome_iff_ne_none, ne_eq,
    List.idxOf?_eq_none_iff, not_not]

/-- A reference is forward if and only if both names have a place, and that of the target does not
come first. -/
lemma isForward_iff {order : SchemaOrder} {current target : String} :
    order.isForward current target = true ↔
      ∃ i j, order.place? current = some i ∧ order.place? target = some j ∧ i ≤ j := by
  unfold isForward
  cases order.place? current <;> cases order.place? target <;> simp

/-- A reference to an earlier name is not forward. -/
lemma not_isForward_of_before {order : SchemaOrder} {a b : String} (h : order.Before b a) :
    order.isForward a b = false := by
  obtain ⟨i, j, hi, hj, hlt⟩ := h
  simp [isForward, hi, hj, hlt]

variable (schemas : Entries Schema)

/-- No name occurs twice in the order of named schemas. -/
lemma nodup_names_ofSchemas : (ofSchemas schemas).names.Nodup :=
  DependencyGraph.nodup_visit _ List.nodup_nil

/-- The order of named schemas lists their names. -/
lemma mem_names_ofSchemas {name : String} :
    name ∈ (ofSchemas schemas).names ↔ name ∈ schemas.keys := by
  have hkeys : Entries.keys (DependencyGraph.ofSchemas schemas) = schemas.keys :=
    Entries.keys_mapValues _ _
  constructor
  · intro h
    rcases DependencyGraph.mem_of_mem_visit _ h with h | h
    · simp at h
    · exact hkeys ▸ h.1
  · intro h
    exact DependencyGraph.mem_visit _ h (hkeys ▸ h) List.not_mem_nil

/-- The order of named schemas is settled. -/
lemma settled_ofSchemas :
    (DependencyGraph.ofSchemas schemas).Settled (ofSchemas schemas).names := by
  refine DependencyGraph.settled_visit _ (by simp) ?_
  intro earlier a later h
  simp at h

/-- A schema comes after each schema it depends on, unless that one leads back to it. -/
lemma before_or_leadsTo {a b : String} (h : DependsOn schemas a b) :
    (ofSchemas schemas).Before b a ∨ LeadsTo schemas b a := by
  have ha : a ∈ (ofSchemas schemas).names := by
    obtain ⟨⟨s, hs, -⟩, -⟩ := h
    exact (mem_names_ofSchemas schemas).2 (Entries.mem_keys_of_get? hs)
  obtain ⟨earlier, later, hnames⟩ := List.append_of_mem ha
  have hsettled := settled_ofSchemas schemas earlier a later hnames b
  rw [DependencyGraph.Reaches, DependencyGraph.edge_ofSchemas] at hsettled
  refine (hsettled h).imp_left fun hb => ?_
  obtain ⟨i, hi, hbi⟩ := List.mem_iff_getElem.1 hb
  have hnodup := nodup_names_ofSchemas schemas
  refine ⟨i, earlier.length, (place?_eq_some_iff hnodup).2 ?_, (place?_eq_some_iff hnodup).2 ?_, hi⟩
  · rw [hnames, List.getElem?_append_left hi, List.getElem?_eq_getElem hi, hbi]
  · rw [hnames, List.getElem?_append_right (Nat.le_refl _), Nat.sub_self, List.getElem?_cons_zero]

/-- A forward reference leads back to where it comes from. -/
lemma leadsTo_of_isForward {a b : String} (h : DependsOn schemas a b)
    (hforward : (ofSchemas schemas).isForward a b = true) : LeadsTo schemas b a := by
  refine (before_or_leadsTo schemas h).resolve_left fun hbefore => ?_
  simp [not_isForward_of_before hbefore] at hforward

/-- The search orders any list of named schemas, whatever circles and dangling references they
contain: it lists each name once, and a schema follows those it depends on wherever the dependency
lies on no circle. -/
theorem isDependencyOrder_ofSchemas : (ofSchemas schemas).IsDependencyOrder schemas where
  nodup := nodup_names_ofSchemas schemas
  mem_names _ := mem_names_ofSchemas schemas
  place _ _ := place?_eq_some_iff (nodup_names_ofSchemas schemas)
  before _ _ := before_or_leadsTo schemas
  forward a b h hforward := by
    have hback : LeadsTo schemas b a := leadsTo_of_isForward schemas h hforward
    exact (reflTransGen_iff_eq_or_transGen.1 hback).imp_left fun heq => heq

end SchemaOrder

end TypedClient
