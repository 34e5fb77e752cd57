import EntityQuery.Proofs.Results
import EntityQuery.Repository
import EntityQuery.Store.Memory
import Mathlib.Tactic.Common

/-!
A repository on the store in memory. What an operation does there is work on the rows, done in one
session: without a free session nothing happens, and afterwards as many are free as before. Each
operation is brought into this form, `pooled` work after the resolution of its request.
-/

namespace EntityQuery

variable {E α β : Type}

/-- A repository on the store in memory. -/
def MemoryStore.repository [Entity E] (s : Schema E) (settings : RepositorySettings) :
    Repository E (MemoryStore E) :=
  ⟨s, MemoryStore.backend s, settings⟩

namespace Repository

/-! ### Steps -/

section Steps

variable {σ : Type}

lemma run_bind (a : Action σ α) (next : α → Action σ β) (m : σ) :
    (a >>= next).run.run m =
      match a.run.run m with
      | (.ok x, m) => (next x).run.run m
      | (.error e, m) => (.error e, m) := by
  simp only [bind, ExceptT.bind, ExceptT.bindCont, ExceptT.mk, StateT.bind, ExceptT.run,
    StateT.run]
  cases a m with
  | mk r m => cases r <;> rfl

lemma resolved_ok_bind (x : α) (next : α → Action σ β) : (resolved (.ok x) >>= next) = next x := rfl

end Steps

/-! ### Work on rows -/

/-- Work on rows as a step of the store that holds them. -/
def onRows (work : Action (List E) α) : Action (MemoryStore E) α := ExceptT.mk fun m =>
  let (result, rows) := work.run.run m.rows
  (result, { m with rows })

/-- Work on rows in a session of the store that holds them. -/
def pooled (work : Action (List E) α) : Action (MemoryStore E) α := ExceptT.mk fun m =>
  if m.free = 0 then (.error (.backend (.poolExhausted MemoryStore.name)), m)
  else (onRows work).run.run m

/-- What the caller gets of an answer of the store. -/
def answered (work : List E → Answer α × List E) : Action (List E) α := ExceptT.mk fun rows =>
  let (answer, rows) := work rows
  (answer.result.mapError (outcome answer.signalled), rows)

/-- The results of a plan. -/
def fetched (s : Schema E) (p : Plan) (cancel : Option (Handle E)) :
    Action (List E) (List (Hit E)) :=
  answered fun rows => (MemoryStore.fetch s rows p cancel, rows)

/-- The number of entities that pass a filter. -/
def counted (s : Schema E) (filter : Option Predicate) (cancel : Option (Handle E)) :
    Action (List E) Nat :=
  answered fun rows => (MemoryStore.count s rows filter cancel, rows)

/-- New entities at the end. -/
def appended [Entity E] (s : Schema E) (new : List E) : Action (List E) Unit :=
  answered fun rows => let (result, rows) := MemoryStore.insert s new rows; (⟨result, false⟩, rows)

/-- An entity in the place of the one with its identifier. -/
def replaced [Entity E] (s : Schema E) (e : E) : Action (List E) Bool :=
  answered fun rows => let (result, rows) := MemoryStore.replace s e rows; (⟨result, false⟩, rows)

lemma run_onRows (work : Action (List E) α) (m : MemoryStore E) :
    (onRows work).run.run m =
      ((work.run.run m.rows).1, { m with rows := (work.run.run m.rows).2 }) := rfl

lemma run_pooled (work : Action (List E) α) (m : MemoryStore E) :
    (pooled work).run.run m =
      if m.free = 0 then (.error (.backend (.poolExhausted MemoryStore.name)), m)
      else ((work.run.run m.rows).1, { m with rows := (work.run.run m.rows).2 }) := rfl

lemma run_answered (work : List E → Answer α × List E) (rows : List E) :
    (answered work).run.run rows =
      ((work rows).1.result.mapError (outcome (work rows).1.signalled), (work rows).2) := rfl

lemma of_run_pooled_ok {work : Action (List E) α} {m m' : MemoryStore E} {x : α}
    (h : (pooled work).run.run m = (.ok x, m')) :
    ∃ rows, work.run.run m.rows = (.ok x, rows) ∧ m' = { m with rows } := by
  rw [run_pooled] at h
  split at h
  · cases h
  · rw [Prod.mk.injEq] at h
    exact ⟨_, Prod.ext h.1 rfl, h.2.symm⟩

lemma of_run_answered_ok {work : List E → Answer α × List E} {rows rows' : List E} {x : α}
    (h : (answered work).run.run rows = (.ok x, rows')) :
    (work rows).1.result = .ok x ∧ rows' = (work rows).2 := by
  rw [run_answered, Prod.mk.injEq, Result.mapError_eq_ok_iff] at h
  exact ⟨h.1, h.2.symm⟩

lemma of_run_answered_error {work : List E → Answer α × List E} {rows : List E} {e : StorageError}
    (h : ((answered work).run.run rows).1 = .error e) :
    ∃ p, (work rows).1.result = .error p := by
  rw [run_answered] at h
  cases hr : (work rows).1.result with
  | error p => exact ⟨p, rfl⟩
  | ok y => rw [hr] at h; cases h

lemma onRows_bind (work : Action (List E) α) (next : α → Action (List E) β) :
    (onRows work >>= fun x => onRows (next x)) = onRows (work >>= next) := by
  refine ExceptT.ext (funext fun m => ?_)
  show (onRows work >>= fun x => onRows (next x)).run.run m = (onRows (work >>= next)).run.run m
  rw [run_bind, run_onRows, run_onRows, run_bind]
  cases work.run.run m.rows with
  | mk r rows => cases r <;> rfl

/-- What follows a session on the rows is work of the session itself. -/
lemma pooled_bind (work : Action (List E) α) (next : α → Action (List E) β) :
    (pooled work >>= fun x => onRows (next x)) = pooled (work >>= next) := by
  refine ExceptT.ext (funext fun m => ?_)
  show (pooled work >>= fun x => onRows (next x)).run.run m = (pooled (work >>= next)).run.run m
  rw [run_bind, run_pooled, run_pooled, run_bind]
  by_cases hfree : m.free = 0
  · rw [if_pos hfree, if_pos hfree]
  · rw [if_neg hfree, if_neg hfree]
    cases work.run.run m.rows with
    | mk r rows => cases r <;> rfl

/-! ### Capabilities -/

section Capabilities

variable {σ : Type} {r : Repository E σ} {needed : List Capability}

lemma require_of_supported (h : ∀ c ∈ needed, r.backend.supports c) :
    r.require needed = pure () := by
  have hnone : needed.find? (fun c => !r.backend.supports c) = none :=
    List.find?_eq_none.2 fun c hc => by simp [h c hc]
  rw [require, hnone]

lemma require_of_unsupported (h : ¬ ∀ c ∈ needed, r.backend.supports c) :
    ∃ e, r.require needed = throw e := by
  cases hfind : needed.find? fun c => !r.backend.supports c with
  | none =>
    refine absurd (fun c hc => ?_) h
    simpa using List.find?_eq_none.1 hfind c hc
  | some c => exact ⟨_, by rw [require, hfind]⟩

end Capabilities

/-! ### Sessions -/

lemma run_inSession {σ : Type} (r : Repository E σ) (work : Action σ α) (m : σ) :
    (r.inSession work).run.run m =
      match r.backend.acquire.run m with
      | (.error e, m) => (.error (.backend e), m)
      | (.ok (), m) => ((work.run.run m).1, (r.backend.release.run (work.run.run m).2).2) := by
  show (r.backend.acquire >>= _).run m = _
  rw [StateT.run_bind]
  cases r.backend.acquire.run m with
  | mk acquired m => cases acquired <;> rfl

lemma run_acquire (m : MemoryStore E) :
    MemoryStore.acquire.run m =
      if m.free = 0 then (.error (.poolExhausted MemoryStore.name), m)
      else (.ok (), { m with held := m.held + 1 }) := by
  unfold MemoryStore.acquire
  rw [StateT.run_bind]
  show (if m.free = 0 then _ else _ : StateM (MemoryStore E) (Except BackendError Unit)).run m = _
  by_cases hfree : m.free = 0
  · rw [if_pos hfree, if_pos hfree]
    rfl
  · rw [if_neg hfree, if_neg hfree]
    rfl

variable [Entity E] (s : Schema E) (settings : RepositorySettings)

lemma inSession_onRows (work : Action (List E) α) :
    (MemoryStore.repository s settings).inSession (onRows work) = pooled work := by
  refine ExceptT.ext (funext fun m => ?_)
  show ((MemoryStore.repository s settings).inSession (onRows work)).run.run m =
    (pooled work).run.run m
  have acquire : (MemoryStore.repository s settings).backend.acquire.run m = _ := run_acquire m
  rw [run_inSession, run_pooled, acquire]
  by_cases hfree : m.free = 0
  · rw [if_pos hfree, if_pos hfree]
  · rw [if_neg hfree, if_neg hfree]
    rfl

/-! ### Operations -/

lemma require_eq (needed : List Capability) :
    (MemoryStore.repository s settings).require needed = pure () :=
  require_of_supported fun _ _ => rfl

lemma query_eq (p : Plan) (cancel : Option (Handle E)) :
    (MemoryStore.repository s settings).query p cancel =
      (resolved p.validate >>= fun _ => pooled (fetched s p cancel)) := by
  unfold query
  simp only [require_eq, pure_bind]
  exact congrArg _ (funext fun _ => inSession_onRows s settings (fetched s p cancel))

omit [Entity E] in
lemma onRows_orNotFound (id : Uuid) (x : Option α) :
    (onRows (orNotFound s id x) : Action (MemoryStore E) α) = orNotFound s id x := by
  cases x <;> rfl

lemma get_eq (id : Uuid) (includes : List String) :
    (MemoryStore.repository s settings).get id includes =
      (resolved (byId s id) >>= fun filter => resolved (s.includes includes) >>= fun includes =>
        pooled (fetched s { Plan.everything with includes, filter := some filter } none >>=
          fun hits => orNotFound s id (hits.head?.bind Hit.entity?))) := by
  unfold get
  simp only [query_eq, bind_assoc, ← pooled_bind, onRows_orNotFound]
  rfl

lemma count_eq (filters : Option FilterList) (cancel : Option (Handle E)) :
    (MemoryStore.repository s settings).count filters cancel =
      (resolved (filters.mapM (Predicate.ofList s)) >>= fun filter =>
        pooled (counted s filter cancel)) := by
  unfold count
  simp only [require_eq, pure_bind]
  exact congrArg _ (funext fun filter => inSession_onRows s settings (counted s filter cancel))

lemma executeUpdate_eq (c : BulkChange) (cancel : Option (Handle E)) :
    (MemoryStore.repository s settings).executeUpdate c cancel =
      pooled (answered (MemoryStore.updateWhere s c.filter c.mutation cancel)) := by
  unfold executeUpdate
  rw [require_eq, pure_bind]
  exact inSession_onRows s settings
    (answered (MemoryStore.updateWhere s c.filter c.mutation cancel))

lemma updateWhere_eq (request : ChangeRequest) (cancel : Option (Handle E)) :
    (MemoryStore.repository s settings).updateWhere request cancel =
      (resolved (BulkChange.ofRequest s request) >>= fun c =>
        pooled (answered (MemoryStore.updateWhere s c.filter c.mutation cancel))) := by
  unfold updateWhere
  simp only [executeUpdate_eq]
  rfl

lemma deleteWhere_eq (filters : Option FilterList) (cancel : Option (Handle E)) :
    (MemoryStore.repository s settings).deleteWhere filters cancel =
      (resolved (filters.mapM (Predicate.ofList s)) >>= fun filter =>
        pooled (answered (MemoryStore.deleteWhere s filter cancel))) := by
  unfold deleteWhere
  simp only [require_eq, pure_bind]
  exact congrArg _ (funext fun filter =>
    inSession_onRows s settings (answered (MemoryStore.deleteWhere s filter cancel)))

lemma delete_eq (id : Uuid) :
    (MemoryStore.repository s settings).delete id =
      (resolved (byId s id) >>= fun filter =>
        pooled (answered (MemoryStore.deleteWhere s (some filter) none) >>= fun n =>
          if n = 0 then throw (notFound s id) else pure ())) := by
  unfold delete
  refine congrArg _ (funext fun filter => ?_)
  rw [← pooled_bind, ← inSession_onRows s settings]
  refine congrArg _ (funext fun n => ?_)
  split <;> rfl

lemma bulkInsert_eq (now : Instant) (fresh : ℕ → Uuid) (new : List E) :
    (MemoryStore.repository s settings).bulkInsert now fresh new =
      pooled (appended s (new.mapIdx fun i e => stamped now (fresh i) e) >>= fun _ =>
        pure (new.mapIdx fun i e => stamped now (fresh i) e)) := by
  rw [← pooled_bind, ← inSession_onRows s settings]
  rfl

lemma insert_eq (now : Instant) (fresh : Uuid) (e : E) :
    (MemoryStore.repository s settings).insert now fresh e =
      pooled (appended s [stamped now fresh e] >>= fun _ => pure (stamped now fresh e)) := by
  unfold insert
  rw [bulkInsert_eq, ← pooled_bind, ← pooled_bind, bind_assoc]
  rfl

lemma update_eq (now : Instant) (id : Uuid) (e : E) :
    (MemoryStore.repository s settings).update now id e =
      (resolved (byId s id) >>= fun filter =>
        pooled (fetched s { Plan.everything with filter := some filter } none >>= fun hits =>
          orNotFound s id (hits.head?.bind Hit.entity?) >>= fun stored =>
            replaced s (inPlaceOf now id stored e) >>= fun found =>
              if found then pure (inPlaceOf now id stored e) else throw (notFound s id))) := by
  unfold update
  refine congrArg _ (funext fun filter => ?_)
  rw [← inSession_onRows s settings]
  simp only [← onRows_bind, onRows_orNotFound]
  refine congrArg _ (congrArg _ (funext fun hits => congrArg _ (funext fun stored =>
    congrArg _ (funext fun found => ?_))))
  cases found <;> rfl

end Repository

end EntityQuery
