import EntityQuery.Proofs.Literal.RoundTrip
import EntityQuery.Proofs.Repository.Sessions
import EntityQuery.Proofs.Schema.Includes
import EntityQuery.Proofs.Schema.Names
import EntityQuery.Proofs.Store.Uniqueness

/-!
Operations on the entity with an identifier. The identifier is printed, its field is found by name,
the text is converted and the values are compared; where the base fields are declared, all this
comes down to comparing identifiers. Each operation on the store in memory is then a search of its
rows. Main statements: `passes_byId`, `run_get`, `run_update` and `run_delete`.
-/

namespace EntityQuery

variable {E α : Type} [Entity E]

/-- The base fields are declared, and nothing else touches the place where an entity keeps them:
they are read as they were put there, and loading other entities leaves them alone. -/
structure SchemaDraft.KeepsBase (d : SchemaDraft E) : Prop where
  declared : SchemaDraft.baseFields ⊆ d.fields
  base_withBase : ∀ (e : E) (b : BaseFields), Entity.base (Entity.withBase e b) = b
  base_unload : ∀ n ∈ d.navigations, ∀ e : E, Entity.base (n.unload e) = Entity.base e

namespace Repository

variable {d : SchemaDraft E} {s : Schema E}

/-! ### The predicate of an identifier -/

lemma coerce_text (id : Uuid) :
    Literal.coerce (.required .uuid) (some id.text) = .ok (.uuid id) :=
  Literal.coerce_some_eq_ok_iff.2 (Literal.valueOf_uuid id)

/-- **The predicate of an identifier is passed by this identifier alone.** -/
theorem passes_byId (hbase : SchemaDraft.baseFields ⊆ d.fields) (hs : d.build = .ok s) (id : Uuid) :
    ∃ filter, byId s id = .ok filter ∧
      ∀ e, Plan.passes s (some filter) e = (Entity.id e == id) := by
  obtain ⟨-, hfields, -, hnames⟩ := SchemaDraft.of_build_eq_ok hs
  have hmem : ⟨"Id", .required .uuid, fun e => .uuid (Entity.base e).id, none⟩ ∈ s.fields :=
    hfields ▸ hbase List.mem_cons_self
  obtain ⟨i, hi⟩ := List.mem_iff_getElem?.1 hmem
  have hfield := Schema.field_eq (f := ⟨i, "Id"⟩) hi
  refine ⟨.compare ⟨i, "Id"⟩ .equal (.uuid id), ?_, fun e => ?_⟩
  · have hresolve : s.resolve "Id" = .ok ⟨i, "Id"⟩ := Schema.resolve_name hnames hi
    have htype : s.typeOf ⟨i, "Id"⟩ = .required .uuid := by rw [Schema.typeOf, hfield]
    simp only [byId, Predicate.ofFilter, Filter.equal, hresolve, bind, Except.bind, htype]
    show Predicate.compare ⟨i, "Id"⟩ .equal <$> Literal.coerce (.required .uuid) (some id.text) = _
    rw [coerce_text]
    rfl
  · have hread : s.read e ⟨i, "Id"⟩ = .uuid (Entity.id e) := by rw [Schema.read, hfield]; rfl
    rw [Plan.passes, Option.all_some, Predicate.holds, hread, Bool.eq_iff_iff, beq_iff_eq,
      ← Uuid.compare_eq_iff]
    exact beq_iff_eq.trans Option.some_inj

/-! ### Work on the rows -/

omit [Entity E] in
/-- A plan that only filters and includes yields the rows that pass, one by one. -/
lemma execute_filtered (s : Schema E) (includes : List String) (filter : Option Predicate)
    (rows : List E) :
    Plan.execute s { Plan.everything with includes, filter } rows =
      .ok (((rows.filter (Plan.passes s filter)).map (s.unloadExcept includes)).map .entity) :=
  List.mapM_pure

omit [Entity E] in
lemma run_fetched (s : Schema E) (includes : List String) (filter : Option Predicate)
    (rows : List E) :
    (fetched s { Plan.everything with includes, filter } none).run.run rows =
      (.ok (((rows.filter (Plan.passes s filter)).map (s.unloadExcept includes)).map .entity),
        rows) := by
  rw [fetched, run_answered]
  show ((((Plan.execute s { Plan.everything with includes, filter } rows).mapError _).mapError _ :
    Except StorageError (List (Hit E))), rows) = _
  rw [execute_filtered]
  rfl

omit [Entity E] in
lemma run_search_passing (s : Schema E) (includes : List String) (filter : Predicate) (id : Uuid)
    (rows : List E) :
    (fetched s { Plan.everything with includes, filter := some filter } none >>= fun hits =>
      orNotFound s id (hits.head?.bind Hit.entity?)).run.run rows =
      (match rows.find? (Plan.passes s (some filter)) with
        | some e => .ok (s.unloadExcept includes e)
        | none => .error (notFound s id), rows) := by
  rw [run_bind, run_fetched]
  simp only [List.head?_map, List.head?_filter]
  cases rows.find? (Plan.passes s (some filter)) <;> rfl

/-- A search by identifier finds the first row that has it. -/
lemma run_search {filter : Predicate} {id : Uuid}
    (hpasses : ∀ e, Plan.passes s (some filter) e = (Entity.id e == id)) (includes : List String)
    (rows : List E) :
    (fetched s { Plan.everything with includes, filter := some filter } none >>= fun hits =>
      orNotFound s id (hits.head?.bind Hit.entity?)).run.run rows =
      (match rows.find? fun e => Entity.id e == id with
        | some e => .ok (s.unloadExcept includes e)
        | none => .error (notFound s id), rows) := by
  rw [run_search_passing, funext hpasses]

/-- How a write with candidate rows ends for the caller. -/
def concluded (s : Schema E) (rows candidate : List E) (changed : List ℕ) (x : α) :
    Except StorageError α × List E :=
  match Rows.clash? s candidate changed with
  | some key => (.error (.conflict s.name key), rows)
  | none => (.ok x, candidate)

lemma run_settled (s : Schema E) (rows candidate : List E) (changed : List ℕ) (x : α) :
    ((MemoryStore.settled s rows candidate changed x).1.mapError (outcome false),
      (MemoryStore.settled s rows candidate changed x).2) =
      concluded s rows candidate changed x := by
  unfold MemoryStore.settled concluded
  cases Rows.clash? s candidate changed <;> rfl

/-- What follows a write that succeeds may change its result. -/
lemma run_bind_of_concluded {β : Type} {work : Action (List E) α} {next : α → Action (List E) β}
    {rows candidate : List E} {changed : List ℕ} {x : α} {y : β}
    (hwork : work.run.run rows = concluded s rows candidate changed x)
    (hnext : (next x).run.run candidate = (.ok y, candidate)) :
    (work >>= next).run.run rows = concluded s rows candidate changed y := by
  rw [run_bind, hwork]
  unfold concluded
  cases Rows.clash? s candidate changed with
  | some key => rfl
  | none => exact hnext

lemma run_appended (s : Schema E) (new rows : List E) :
    (appended s new).run.run rows =
      concluded s rows (rows ++ new) (List.range' rows.length new.length) () := by
  rw [← run_settled, ← MemoryStore.insert_eq]
  rfl

lemma run_replaced (s : Schema E) {rows : List E} {e : E} {i : ℕ}
    (h : rows.findIdx? (fun r => Entity.id r == Entity.id e) = some i) :
    (replaced s e).run.run rows = concluded s rows (rows.set i e) [i] true := by
  have heq : MemoryStore.replace s e rows = MemoryStore.settled s rows (rows.set i e) [i] true := by
    rw [MemoryStore.replace_eq, h]
  rw [← run_settled, ← heq]
  rfl

/-! ### Operations -/

/-- A result and the rows it comes with, in the store. -/
def inStore (m : MemoryStore E) (r : Except StorageError α × List E) :
    Except StorageError α × MemoryStore E :=
  (r.1, { m with rows := r.2 })

variable {m : MemoryStore E} (settings : RepositorySettings)

omit [Entity E] in
lemma run_pooled_of_free (hfree : m.free ≠ 0) (work : Action (List E) α) :
    (pooled work).run.run m = inStore m (work.run.run m.rows) := by
  rw [run_pooled, if_neg hfree]
  rfl

lemma run_bulkInsert (hfree : m.free ≠ 0) (now : Instant) (fresh : ℕ → Uuid) (new : List E) :
    ((MemoryStore.repository s settings).bulkInsert now fresh new).run.run m =
      let new := new.mapIdx fun i e => stamped now (fresh i) e
      inStore m
        (concluded s m.rows (m.rows ++ new) (List.range' m.rows.length new.length) new) := by
  rw [bulkInsert_eq, run_pooled_of_free hfree]
  exact congrArg (inStore m) (run_bind_of_concluded (run_appended s _ m.rows) rfl)

lemma run_insert (hfree : m.free ≠ 0) (now : Instant) (fresh : Uuid) (e : E) :
    ((MemoryStore.repository s settings).insert now fresh e).run.run m =
      inStore m (concluded s m.rows (m.rows ++ [stamped now fresh e])
        (List.range' m.rows.length 1) (stamped now fresh e)) := by
  rw [insert_eq, run_pooled_of_free hfree]
  exact congrArg (inStore m) (run_bind_of_concluded (run_appended s _ m.rows) rfl)

/-- **The entity that is got** is the row with the identifier. -/
theorem run_get (hd : d.KeepsBase) (hs : d.build = .ok s) (hfree : m.free ≠ 0) (id : Uuid)
    {names included : List String} (hincluded : s.includes names = .ok included) :
    ((MemoryStore.repository s settings).get id names).run.run m =
      (match m.rows.find? fun e => Entity.id e == id with
        | some e => .ok (s.unloadExcept included e)
        | none => .error (notFound s id), m) := by
  obtain ⟨filter, hfilter, hpasses⟩ := passes_byId hd.declared hs id
  rw [get_eq, hfilter, hincluded, resolved_ok_bind, resolved_ok_bind, run_pooled_of_free hfree,
    run_search hpasses]
  rfl

/-- An entity that replaces another takes its base fields, whether the navigations of the other are
loaded or not. -/
lemma inPlaceOf_unloadExcept (hd : d.KeepsBase) (hs : d.build = .ok s) (now : Instant) (id : Uuid)
    (included : List String) (stored e : E) :
    inPlaceOf now id (s.unloadExcept included stored) e = inPlaceOf now id stored e := by
  obtain ⟨-, -, hnavigations, -⟩ := SchemaDraft.of_build_eq_ok hs
  have hbase : Entity.base (s.unloadExcept included stored) = Entity.base stored :=
    Schema.unloadExcept_induction (P := fun e => Entity.base e = Entity.base stored)
      (fun n hn e he => (hd.base_unload n (hnavigations ▸ hn) e).trans he) included rfl
  rw [inPlaceOf, inPlaceOf, hbase]

/-- An update puts the new entity in the place of the one that a search by identifier finds, and
takes the base fields of this one as it is without its navigations. -/
lemma run_update_of_fetched (hbase : SchemaDraft.baseFields ⊆ d.fields) (hs : d.build = .ok s)
    (hfree : m.free ≠ 0) (now : Instant) (id : Uuid) (e : E) :
    ((MemoryStore.repository s settings).update now id e).run.run m =
      match m.rows.find? fun r => Entity.id r == id with
      | some stored =>
        let new := inPlaceOf now id (s.unloadExcept [] stored) e
        inStore m ((replaced s new >>= fun found =>
          if found then pure new else throw (notFound s id)).run.run m.rows)
      | none => (.error (notFound s id), m) := by
  obtain ⟨filter, hfilter, hpasses⟩ := passes_byId hbase hs id
  have hsearch : (fetched s { Plan.everything with filter := some filter } none >>= fun hits =>
      orNotFound s id (hits.head?.bind Hit.entity?)).run.run m.rows = _ :=
    run_search hpasses [] m.rows
  rw [update_eq, hfilter, resolved_ok_bind, run_pooled_of_free hfree, ← bind_assoc, run_bind,
    hsearch]
  cases m.rows.find? fun r => Entity.id r == id <;> rfl

lemma run_update_of_find? (hd : d.KeepsBase) (hs : d.build = .ok s) (hfree : m.free ≠ 0)
    (now : Instant) (id : Uuid) (e : E) :
    ((MemoryStore.repository s settings).update now id e).run.run m =
      match m.rows.find? fun r => Entity.id r == id with
      | some stored =>
        let new := inPlaceOf now id stored e
        inStore m ((replaced s new >>= fun found =>
          if found then pure new else throw (notFound s id)).run.run m.rows)
      | none => (.error (notFound s id), m) := by
  rw [run_update_of_fetched settings hd.declared hs hfree]
  cases m.rows.find? fun r => Entity.id r == id with
  | none => rfl
  | some stored => simp only [inPlaceOf_unloadExcept hd hs]

/-- The first row with the identifier gives its place to the new entity. -/
lemma run_update_of_split (hbase : SchemaDraft.baseFields ⊆ d.fields) (hs : d.build = .ok s)
    (hlens : ∀ (e : E) (b : BaseFields), Entity.base (Entity.withBase e b) = b)
    (hfree : m.free ≠ 0) (now : Instant) (e : E) {before after : List E} {stored : E}
    (hrows : m.rows = before ++ stored :: after)
    (hbefore : ∀ r ∈ before, Entity.id r ≠ Entity.id stored) :
    ((MemoryStore.repository s settings).update now (Entity.id stored) e).run.run m =
      let new := inPlaceOf now (Entity.id stored) (s.unloadExcept [] stored) e
      inStore m (concluded s m.rows (before ++ new :: after) [before.length] new) := by
  have hfind : (m.rows.find? fun r => Entity.id r == Entity.id stored) = some stored :=
    List.find?_eq_some_iff_append.2 ⟨by simp, before, after, hrows, by simpa using hbefore⟩
  have hid (base : E) :
      Entity.id (inPlaceOf now (Entity.id stored) base e) = Entity.id stored := by
    rw [inPlaceOf, Entity.id, hlens]
  have hindex (base : E) : (m.rows.findIdx? fun r =>
      Entity.id r == Entity.id (inPlaceOf now (Entity.id stored) base e)) =
      some before.length := by
    rw [hid, hrows, List.findIdx?_append, List.findIdx?_eq_none_iff.2 (by simpa using hbefore)]
    simp [List.findIdx?_cons]
  have hset (new : E) : m.rows.set before.length new = before ++ new :: after := by
    rw [hrows, Rows.set_middle]
  have hreplaced := run_replaced s (hindex (s.unloadExcept [] stored))
  rw [hset] at hreplaced
  rw [run_update_of_fetched settings hbase hs hfree, hfind]
  exact congrArg (inStore m) (run_bind_of_concluded hreplaced rfl)

/-- **An update** puts the new entity in the place of the row with the identifier. -/
theorem run_update (hd : d.KeepsBase) (hs : d.build = .ok s) (hfree : m.free ≠ 0) (now : Instant)
    (e : E) {before after : List E} {stored : E} (hrows : m.rows = before ++ stored :: after)
    (hbefore : ∀ r ∈ before, Entity.id r ≠ Entity.id stored) :
    ((MemoryStore.repository s settings).update now (Entity.id stored) e).run.run m =
      let new := inPlaceOf now (Entity.id stored) stored e
      inStore m (concluded s m.rows (before ++ new :: after) [before.length] new) := by
  rw [run_update_of_split settings hd.declared hs hd.base_withBase hfree now e hrows hbefore]
  simp only [inPlaceOf_unloadExcept hd hs]

/-- **A deletion** removes the rows with the identifier, unless there is none. -/
theorem run_delete (hd : d.KeepsBase) (hs : d.build = .ok s) (hfree : m.free ≠ 0) (id : Uuid) :
    ((MemoryStore.repository s settings).delete id).run.run m =
      (if ∃ e ∈ m.rows, Entity.id e = id then .ok () else .error (notFound s id),
        { m with rows := m.rows.filter fun e => Entity.id e != id }) := by
  obtain ⟨filter, hfilter, hpasses⟩ := passes_byId hd.declared hs id
  rw [delete_eq, hfilter, resolved_ok_bind, run_pooled_of_free hfree, run_bind, run_answered,
    MemoryStore.deleteWhere_eq, funext hpasses]
  show inStore m ((if m.rows.countP (fun e => Entity.id e == id) = 0 then throw (notFound s id)
    else pure () : Action (List E) Unit).run.run (m.rows.filter fun e => Entity.id e != id)) = _
  have hcount : m.rows.countP (fun e => Entity.id e == id) = 0 ↔
      ¬ ∃ e ∈ m.rows, Entity.id e = id := by
    simp [List.countP_eq_zero]
  by_cases h : ∃ e ∈ m.rows, Entity.id e = id
  · rw [if_neg (by rw [hcount]; exact not_not.2 h), if_pos h]
    rfl
  · rw [if_pos (hcount.2 h), if_neg h]
    rfl

end Repository

end EntityQuery
