import EntityQuery.Proofs.Repository.Atomicity
import EntityQuery.Proofs.Store.Uniqueness

/-!
Operations of a repository, and runs of them. A step *maintains* a property of the state and of
errors if it keeps the one and fails with the other only; steps in sequence maintain what each of
them does. On the store in memory every operation keeps what the four session writes keep, and no
clash leaves it in the words of the backend. Main statements: `maintains_run` for one operation,
`rows_leaving` for all runs, and `Reachable.distinct`.
-/

namespace EntityQuery

variable {E σ α β : Type}

/-- Whether an error is a clash in the words of a backend. -/
def StorageError.isViolation : StorageError → Bool
  | .backend (.uniqueViolation ..) => true
  | _ => false

/-- What the writes of a session keep of the rows, whether they succeed or fail. -/
structure MemoryStore.KeptByWrites [Entity E] (s : Schema E) (R : List E → Prop) : Prop where
  insert : ∀ new rows, R rows → R (MemoryStore.insert s new rows).2
  replace : ∀ e rows, R rows → R (MemoryStore.replace s e rows).2
  updateWhere : ∀ filter m cancel rows, R rows →
    R (MemoryStore.updateWhere s filter m cancel rows).2
  deleteWhere : ∀ filter cancel rows, R rows → R (MemoryStore.deleteWhere s filter cancel rows).2

lemma MemoryStore.keptByWrites_distinct [Entity E] (s : Schema E) :
    MemoryStore.KeptByWrites s (Rows.Distinct s) where
  insert new _ h := distinct_insert h new
  replace e _ h := distinct_replace h e
  updateWhere filter m cancel _ h := distinct_updateWhere h filter m cancel
  deleteWhere filter cancel _ h := distinct_deleteWhere h filter cancel

namespace Repository

/-! ### Steps -/

section Steps

variable {P : σ → Prop} {Q : StorageError → Prop}

/-- A step that keeps a property of the state, and whose errors have another. -/
def Maintains (P : σ → Prop) (Q : StorageError → Prop) (a : Action σ α) : Prop :=
  ∀ m, P m → P (a.run.run m).2 ∧ ∀ e, (a.run.run m).1 = .error e → Q e

lemma Maintains.bind {a : Action σ α} {next : α → Action σ β} (ha : Maintains P Q a)
    (hnext : ∀ x, Maintains P Q (next x)) : Maintains P Q (a >>= next) := by
  intro m hm
  obtain ⟨hP, hQ⟩ := ha m hm
  rw [run_bind]
  cases hrun : a.run.run m with
  | mk r m' =>
    rw [hrun] at hP hQ
    cases r with
    | ok x => exact hnext x m' hP
    | error e =>
      refine ⟨hP, fun e' he' => ?_⟩
      cases he'
      exact hQ e rfl

lemma maintains_pure (x : α) : Maintains P Q (pure x : Action σ α) :=
  fun m hm => ⟨hm, fun e he => by cases he⟩

lemma maintains_throw {e : StorageError} (he : Q e) : Maintains P Q (throw e : Action σ α) := by
  refine fun m hm => ⟨hm, fun e' he' => ?_⟩
  cases he'
  exact he

lemma maintains_resolved (hQ : ∀ e, Q (.query e)) (r : Except QueryError α) :
    Maintains P Q (resolved r : Action σ α) := by
  cases r with
  | ok x => exact maintains_pure x
  | error e => exact maintains_throw (hQ e)

lemma Maintains.discard {a : Action σ α} (ha : Maintains P Q a) :
    Maintains P Q (Functor.discard a) :=
  ha.bind fun _ => maintains_pure ()

end Steps

/-! ### Work on rows -/

/-- An error that is no clash in the words of a backend. -/
def Classified (e : StorageError) : Prop := e.isViolation = false

lemma classified_outcome (signalled : Bool) (e : StorageError) :
    Classified (outcome signalled e) := by
  cases signalled with
  | true => rfl
  | false =>
    cases e with
    | backend b => cases b <;> rfl
    | _ => rfl

variable {R : List E → Prop}

lemma maintains_pooled {work : Action (List E) α} (h : Maintains R Classified work) :
    Maintains (fun m : MemoryStore E => R m.rows) Classified (pooled work) := by
  intro m hm
  rw [run_pooled]
  by_cases hfree : m.free = 0
  · rw [if_pos hfree]
    refine ⟨hm, fun e he => ?_⟩
    cases he
    rfl
  · rw [if_neg hfree]
    exact h m.rows hm

lemma maintains_answered {work : List E → Answer α × List E}
    (h : ∀ rows, R rows → R (work rows).2) : Maintains R Classified (answered work) := by
  refine fun rows hrows => ⟨h rows hrows, fun e he => ?_⟩
  rw [run_answered] at he
  cases hr : (work rows).1.result with
  | ok x => rw [hr] at he; cases he
  | error p =>
    rw [hr] at he
    cases he
    exact classified_outcome _ p

lemma maintains_fetched (s : Schema E) (p : Plan) (cancel : Option (Handle E)) :
    Maintains R Classified (fetched s p cancel) :=
  maintains_answered fun _ h => h

lemma maintains_orNotFound {P : σ → Prop} (s : Schema E) (id : Uuid) (x : Option α) :
    Maintains P Classified (orNotFound s id x : Action σ α) := by
  cases x with
  | some x => exact maintains_pure x
  | none => exact maintains_throw rfl

lemma maintains_query [Entity E] (s : Schema E) (settings : RepositorySettings) (p : Plan)
    (cancel : Option (Handle E)) :
    Maintains (fun m : MemoryStore E => R m.rows) Classified
      ((MemoryStore.repository s settings).query p cancel) := by
  rw [query_eq]
  exact (maintains_resolved (fun _ => rfl) _).bind fun _ =>
    maintains_pooled (maintains_fetched s p cancel)

end Repository

/-! ### Operations -/

/-- An operation of a repository, with all its arguments. -/
inductive Operation (E : Type) where
  | write (w : Write E)
  | query (p : Plan) (cancel : Option (Handle E))
  | queryItems (l : Listing) (cancel : Option (Handle E))
  | getItems (request : ListingRequest) (cancel : Option (Handle E))
  | groupByDistinct (request : GroupingRequest) (cancel : Option (Handle E))
  | get (id : Uuid) (includes : List String)
  | getSelect (id : Uuid) (request : EntityRequest)
  | getAll (cancel : Option (Handle E))
  | first (filters : Option FilterList) (cancel : Option (Handle E))
  | count (filters : Option FilterList) (cancel : Option (Handle E))

variable [Entity E]

open Repository

namespace Write

/-- What a write does beyond the writes of the session keeps the rows as they are. -/
lemma maintains_run {s : Schema E} {R : List E → Prop} (hR : MemoryStore.KeptByWrites s R)
    (settings : RepositorySettings) (w : Write E) :
    Maintains (fun m : MemoryStore E => R m.rows) Classified
      (w.run (MemoryStore.repository s settings)) := by
  have happended (new : List E) : Maintains R Classified (appended s new) :=
    maintains_answered fun rows => hR.insert new rows
  have hchanged (c : BulkChange) (cancel : Option (Handle E)) : Maintains R Classified
      (answered (MemoryStore.updateWhere s c.filter c.mutation cancel)) :=
    maintains_answered fun rows => hR.updateWhere _ _ cancel rows
  have hdeleted (filter : Option Predicate) (cancel : Option (Handle E)) : Maintains R Classified
      (answered (MemoryStore.deleteWhere s filter cancel)) :=
    maintains_answered fun rows => hR.deleteWhere filter cancel rows
  cases w with
  | insert now fresh e =>
    rw [run, insert_eq]
    exact (maintains_pooled ((happended _).bind fun _ => maintains_pure _)).discard
  | bulkInsert now fresh new =>
    rw [run, bulkInsert_eq]
    exact (maintains_pooled ((happended _).bind fun _ => maintains_pure _)).discard
  | update now id e =>
    rw [run, update_eq]
    refine ((maintains_resolved (fun _ => rfl) _).bind fun filter => maintains_pooled ?_).discard
    refine (maintains_fetched s _ none).bind fun hits => (maintains_orNotFound s id _).bind
      fun stored => ?_
    have hreplaced : Maintains R Classified (replaced s (inPlaceOf now id stored e)) :=
      maintains_answered fun rows => hR.replace _ rows
    refine hreplaced.bind fun found => ?_
    cases found with
    | true => exact maintains_pure _
    | false => exact maintains_throw rfl
  | updateWhere request cancel =>
    rw [run, updateWhere_eq]
    exact ((maintains_resolved (fun _ => rfl) _).bind fun c =>
      maintains_pooled (hchanged c cancel)).discard
  | executeUpdate c cancel =>
    rw [run, executeUpdate_eq]
    exact (maintains_pooled (hchanged c cancel)).discard
  | delete id =>
    rw [run, delete_eq]
    refine (maintains_resolved (fun _ => rfl) _).bind fun filter => maintains_pooled ?_
    refine (hdeleted _ none).bind fun n => ?_
    split
    · exact maintains_throw rfl
    · exact maintains_pure ()
  | deleteWhere filters cancel =>
    rw [run, deleteWhere_eq]
    exact ((maintains_resolved (fun _ => rfl) _).bind fun filter =>
      maintains_pooled (hdeleted filter cancel)).discard

end Write

namespace Operation

/-- An operation as a step, its result left out. -/
def run (r : Repository E σ) : Operation E → Action σ Unit
  | .write w => w.run r
  | .query p cancel => Functor.discard (r.query p cancel)
  | .queryItems l cancel => Functor.discard (r.queryItems l cancel)
  | .getItems request cancel => Functor.discard (r.getItems request cancel)
  | .groupByDistinct request cancel => Functor.discard (r.groupByDistinct request cancel)
  | .get id includes => Functor.discard (r.get id includes)
  | .getSelect id request => Functor.discard (r.getSelect id request)
  | .getAll cancel => Functor.discard (r.getAll cancel)
  | .first filters cancel => Functor.discard (r.first filters cancel)
  | .count filters cancel => Functor.discard (r.count filters cancel)

/-- **An operation keeps of the rows what the writes of a session keep, and no clash comes out of
it in the words of the backend.** -/
theorem maintains_run {s : Schema E} {R : List E → Prop} (hR : MemoryStore.KeptByWrites s R)
    (settings : RepositorySettings) (op : Operation E) :
    Maintains (fun m : MemoryStore E => R m.rows) Classified
      (op.run (MemoryStore.repository s settings)) := by
  have hquery (p : Plan) (cancel : Option (Handle E)) :=
    maintains_query (R := R) s settings p cancel
  cases op with
  | write w => exact w.maintains_run hR settings
  | query p cancel => exact (hquery p cancel).discard
  | queryItems l cancel => exact (hquery _ cancel).discard
  | getItems request cancel =>
    exact ((maintains_resolved (fun _ => rfl) _).bind fun l => hquery _ cancel).discard
  | groupByDistinct request cancel =>
    exact ((maintains_resolved (fun _ => rfl) _).bind fun g => hquery _ cancel).discard
  | get id includes =>
    refine ((maintains_resolved (fun _ => rfl) _).bind fun filter =>
      (maintains_resolved (fun _ => rfl) _).bind fun included =>
        (hquery _ none).bind fun hits => ?_).discard
    exact maintains_orNotFound s id _
  | getSelect id request =>
    refine ((maintains_resolved (fun _ => rfl) _).bind fun lookup =>
      (maintains_resolved (fun _ => rfl) _).bind fun filter =>
        (hquery _ none).bind fun hits => ?_).discard
    exact maintains_orNotFound s id _
  | getAll cancel => exact ((hquery _ cancel).bind fun hits => maintains_pure _).discard
  | first filters cancel =>
    exact ((maintains_resolved (fun _ => rfl) _).bind fun filter =>
      (hquery _ cancel).bind fun hits => maintains_pure _).discard
  | count filters cancel =>
    rw [run, count_eq]
    exact ((maintains_resolved (fun _ => rfl) _).bind fun filter =>
      maintains_pooled (maintains_answered fun _ h => h)).discard

/-- The state that some operations leave, one after the other, each succeeding or failing. -/
def leaving (r : Repository E σ) (m : σ) (ops : List (Operation E)) : σ :=
  ops.foldl (fun m op => ((op.run r).run.run m).2) m

/-- **What the writes of a session keep of the rows, every run of operations keeps.** -/
theorem rows_leaving {s : Schema E} {R : List E → Prop} (hR : MemoryStore.KeptByWrites s R)
    (settings : RepositorySettings) {m : MemoryStore E} (hm : R m.rows) (ops : List (Operation E)) :
    R (leaving (MemoryStore.repository s settings) m ops).rows := by
  induction ops generalizing m with
  | nil => exact hm
  | cons op ops ih => exact ih (maintains_run hR settings op m hm).1

/-- A store that some operations leave behind which started without entities. -/
def Reachable (s : Schema E) (settings : RepositorySettings) (m : MemoryStore E) : Prop :=
  ∃ storeSettings ops,
    leaving (MemoryStore.repository s settings) (MemoryStore.empty storeSettings) ops = m

lemma Reachable.distinct {s : Schema E} {settings : RepositorySettings} {m : MemoryStore E}
    (h : Reachable s settings m) : Rows.Distinct s m.rows := by
  obtain ⟨storeSettings, ops, rfl⟩ := h
  exact rows_leaving (MemoryStore.keptByWrites_distinct s) settings (Rows.distinct_nil s) ops

end Operation

end EntityQuery
