import TypedClient.Proofs.Route.Inline

/-!
# Names that are claimed one after the other

A claim takes the wanted name, or the wanted name with the least number behind it that makes it
free, and puts the schema under that name at the end of the table (`InlineSchemas.isClaim_claim`).
The search for the name has no bound of its own; it ends since only finitely many names are taken.

After a run of claims the entries that the table began with are where they were, and behind them
stand the new ones in the order of the claims.  The names of a run are different from each other and
from those of the named schemas, also where one wanted name with a number behind it is another
wanted name (`InlineSchemas.runOfClaims_claimAll`).
-/

namespace TypedClient.InlineSchemas

/-- Neither a schema in a table nor a named schema has a name. -/
def IsFree (order : SchemaOrder) (table : InlineSchemas) (name : String) : Prop :=
  name ∉ Entries.keys table ∧ name ∉ order.names

/-- What a claim answers, a name and a table, for a wanted name and a schema. -/
structure IsClaim (order : SchemaOrder) (table : InlineSchemas) (wanted : String) (schema : Schema)
    (name : String) (next : InlineSchemas) : Prop where
  /-- The search that tries one name after the other ends with the name. -/
  found : Naming.Finds (IsFree order table) wanted 2 wanted name
  /-- A wanted name that is free is taken. -/
  eq_wanted : IsFree order table wanted → name = wanted
  /-- Otherwise the least number that makes the wanted name free is put behind it. -/
  eq_numbered : ¬IsFree order table wanted → ∃ n, 2 ≤ n ∧ name = wanted ++ toString n ∧
    IsFree order table name ∧ ∀ m, 2 ≤ m → m < n → ¬IsFree order table (wanted ++ toString m)
  /-- The schema is found under the name. -/
  stored : Entries.get? next name = some schema
  /-- The entries before stay where they are. -/
  kept : next = table ++ [(name, schema)]

/-- Claims one after the other, each for a wanted name and a schema: their names, and the table
after all of them. -/
def claimAll (order : SchemaOrder) :
    InlineSchemas → List (String × Schema) → List String × InlineSchemas
  | table, [] => ([], table)
  | table, (wanted, schema) :: rest =>
    let claimed := table.claim order wanted schema
    let others := claimAll order claimed.2 rest
    (claimed.1 :: others.1, others.2)

/-- Claims one after the other lead from a table to another and answer names. -/
inductive Claims (order : SchemaOrder) :
    InlineSchemas → List (String × Schema) → List String → InlineSchemas → Prop
  | nil {table} : Claims order table [] [] table
  | cons {table wanted schema name next rest names last} :
    IsClaim order table wanted schema name next → Claims order next rest names last →
    Claims order table ((wanted, schema) :: rest) (name :: names) last

variable {order : SchemaOrder} {table : InlineSchemas}

/-! ## One claim -/

/-- A name is free if it is not among the names that a claim looks through. -/
lemma isFree_iff {name : String} :
    IsFree order table name ↔ name ∉ Entries.keys table ++ order.names := by
  rw [IsFree, List.mem_append, not_or]

/-- A claim answers what it is to answer. -/
lemma isClaim_claim (wanted : String) (schema : Schema) :
    IsClaim order table wanted schema (claim order table wanted schema).1
      (claim order table wanted schema).2 := by
  have hfree : IsFree order table = (· ∉ Entries.keys table ++ order.names) :=
    funext fun _ => propext isFree_iff
  obtain ⟨n, hname, hn, hbefore⟩ :=
    Naming.firstFree_spec (Entries.keys table ++ order.names) wanted
  have hclaimed : (claim order table wanted schema).1 = Naming.numbered wanted n := hname
  constructor
  case found =>
    rw [hfree]
    exact Naming.finds_iff.2 rfl
  case eq_wanted =>
    intro hwanted
    cases n with
    | zero => exact hclaimed
    | succ n => exact absurd (hbefore 0 n.succ_pos) (isFree_iff.1 hwanted)
  case eq_numbered =>
    intro htaken
    cases n with
    | zero => exact absurd (isFree_iff.2 hn) htaken
    | succ n =>
      refine ⟨n + 2, Nat.le_add_left 2 n, hclaimed, ?_, ?_⟩
      · rw [hclaimed]
        exact isFree_iff.2 hn
      · intro m hm hlt hfree
        obtain ⟨k, rfl⟩ := Nat.exists_eq_add_of_le' hm
        exact isFree_iff.1 hfree (hbefore (k + 1) (by omega))
  case stored =>
    rw [claim, Entries.get?_put, if_pos rfl]
  case kept => exact claim_eq order table wanted schema

/-- The name that a claim answers is free. -/
lemma IsClaim.isFree {wanted name : String} {schema : Schema} {next : InlineSchemas}
    (h : IsClaim order table wanted schema name next) : IsFree order table name := by
  by_cases hwanted : IsFree order table wanted
  · rwa [h.eq_wanted hwanted]
  · obtain ⟨n, -, -, hfree, -⟩ := h.eq_numbered hwanted
    exact hfree

/-- There is only one answer to a claim. -/
lemma IsClaim.unique {wanted name name' : String} {schema : Schema} {next next' : InlineSchemas}
    (h : IsClaim order table wanted schema name next)
    (h' : IsClaim order table wanted schema name' next') : name' = name ∧ next' = next := by
  obtain rfl := h.found.unique h'.found
  exact ⟨rfl, h'.kept.trans h.kept.symm⟩

/-! ## Claims one after the other -/

/-- Claims one after the other lead to one table, with one list of names. -/
lemma claims_iff {requests : List (String × Schema)} {names : List String} {last : InlineSchemas} :
    Claims order table requests names last ↔ claimAll order table requests = (names, last) := by
  induction requests generalizing table names with
  | nil =>
    constructor
    · rintro ⟨⟩
      rfl
    · rintro ⟨⟩
      exact .nil
  | cons request rest ih =>
    obtain ⟨wanted, schema⟩ := request
    have hclaim : IsClaim order table wanted schema _ _ := isClaim_claim wanted schema
    constructor
    · intro h
      cases h with
      | cons hfirst hrest =>
        obtain ⟨rfl, rfl⟩ := hclaim.unique hfirst
        rw [claimAll, ih.1 hrest]
    · rintro ⟨⟩
      exact .cons hclaim (ih.2 rfl)

/-- The names of claims are different from each other, and free at the beginning. -/
lemma Claims.nodup {requests : List (String × Schema)} {names : List String} {last : InlineSchemas}
    (h : Claims order table requests names last) :
    names.Nodup ∧ ∀ name ∈ names, IsFree order table name := by
  induction h with
  | nil => exact ⟨List.nodup_nil, List.forall_mem_nil _⟩
  | cons hfirst hrest ih =>
    obtain ⟨hnodup, hfree⟩ := ih
    -- After the first claim its name is in the table, so no later claim answers it.
    have hkeys := congrArg Entries.keys hfirst.kept
    rw [Entries.keys, Entries.keys, List.map_append] at hkeys
    refine ⟨List.nodup_cons.2 ⟨fun hmem => ?_, hnodup⟩, List.forall_mem_cons.2 ⟨hfirst.isFree, ?_⟩⟩
    · refine (hfree _ hmem).1 ?_
      rw [Entries.keys, hkeys]
      exact List.mem_append_right _ (List.mem_singleton_self _)
    · intro name hname
      refine ⟨fun hmem => (hfree name hname).1 ?_, (hfree name hname).2⟩
      rw [Entries.keys, hkeys]
      exact List.mem_append_left _ hmem

/-- Claims add an entry for each name at the end of the table. -/
lemma Claims.eq_append {requests : List (String × Schema)} {names : List String}
    {last : InlineSchemas} (h : Claims order table requests names last) :
    last = table ++ names.zip (requests.map Prod.snd) := by
  induction h with
  | nil => exact (List.append_nil _).symm
  | cons hfirst hrest ih =>
    rw [ih, hfirst.kept, List.append_assoc]
    rfl

/-- What a run of claims is: each of them answers what it is to answer, the names are different from
each other and from all names at the beginning, and the table holds an entry for each name behind
those that it began with. -/
structure RunOfClaims (order : SchemaOrder) (table : InlineSchemas)
    (requests : List (String × Schema)) (names : List String) (last : InlineSchemas) : Prop where
  /-- Each claim answers what it is to answer. -/
  claims : Claims order table requests names last
  /-- No name is answered twice. -/
  nodup : names.Nodup
  /-- No name is one that a named schema or the table had at the beginning. -/
  isFree : ∀ name ∈ names, IsFree order table name
  /-- The table begins with its old entries and goes on with those of the claims. -/
  eq_append : last = table ++ names.zip (requests.map Prod.snd)

/-- Whatever is claimed, one after the other, and from whatever table on, the claims come to an end
and answer what they are to answer. -/
theorem runOfClaims_claimAll (order : SchemaOrder) (table : InlineSchemas)
    (requests : List (String × Schema)) :
    RunOfClaims order table requests (claimAll order table requests).1
      (claimAll order table requests).2 := by
  have hclaims : Claims order table requests (claimAll order table requests).1
      (claimAll order table requests).2 := claims_iff.2 rfl
  exact ⟨hclaims, hclaims.nodup.1, hclaims.nodup.2, hclaims.eq_append⟩

/-- A numbered name is in the way of a wanted one, which is numbered in turn, and the next number
belongs to a named schema. -/
example : (claimAll ⟨["list3"]⟩ [] [("list", .freeArray {}), ("list", .freeArray {}),
    ("list2", .freeArray {}), ("list", .freeArray {})]).1 =
    ["list", "list2", "list22", "list4"] := by
  decide +kernel

end TypedClient.InlineSchemas
