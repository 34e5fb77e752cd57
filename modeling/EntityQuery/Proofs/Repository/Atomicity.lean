import EntityQuery.Proofs.Repository.Sessions
import EntityQuery.Proofs.Store.Writes
import EntityQuery.Slots

/-!
Failing writes. A step is *atomic* if it leaves the state as it was wherever it fails. The writes of
the store are, because they undo what they did; a repository's are, because what follows the write
of the store fails only where that write changed nothing. Main statement: `store_of_error`.
-/

namespace EntityQuery

variable {E α β : Type}

namespace MemoryStore

variable {s : Schema E} {rows : List E} {e : StorageError}

lemma deleteWhere_of_error {filter : Option Predicate} {cancel : Option (Handle E)}
    (h : (deleteWhere s filter cancel rows).1.result = .error e) :
    (deleteWhere s filter cancel rows).2 = rows := by
  rw [deleteWhere_eq] at h ⊢
  cases hw : watch cancel (Plan.matchingEvents s filter rows) with
  | error p => rfl
  | ok after =>
    rw [hw] at h
    cases h

lemma deleteWhere_of_zero {filter : Option Predicate} {cancel : Option (Handle E)}
    (h : (deleteWhere s filter cancel rows).1.result = .ok 0) :
    (deleteWhere s filter cancel rows).2 = rows := by
  rw [deleteWhere_eq] at h ⊢
  cases hw : watch cancel (Plan.matchingEvents s filter rows) with
  | error p => rfl
  | ok after =>
    rw [hw] at h
    simp only [Except.ok.injEq, List.countP_eq_zero] at h
    exact List.filter_eq_self.2 fun e he => by simpa using h e he

variable [Entity E]

lemma insert_of_error {new : List E} (h : (insert s new rows).1 = .error e) :
    (insert s new rows).2 = rows := by
  rw [insert_eq] at h ⊢
  exact settled_of_error h

lemma replace_of_error {new : E} (h : (replace s new rows).1 = .error e) :
    (replace s new rows).2 = rows := by
  rw [replace_eq] at h ⊢
  cases hf : rows.findIdx? fun r => Entity.id r == Entity.id new with
  | none => rfl
  | some i =>
    rw [hf] at h
    exact settled_of_error h

lemma replace_of_false {new : E} (h : (replace s new rows).1 = .ok false) :
    (replace s new rows).2 = rows := by
  rw [replace_eq] at h ⊢
  cases hf : rows.findIdx? fun r => Entity.id r == Entity.id new with
  | none => rfl
  | some i =>
    rw [hf] at h
    simp only [settled] at h ⊢
    split at h <;> cases h

lemma update_of_error {filter : Option Predicate} {m : Mutation}
    (h : (update s m (Rows.positions s filter rows) rows).1 = .error e) :
    (update s m (Rows.positions s filter rows) rows).2 = rows := by
  rw [update_eq] at h ⊢
  cases hm : Rows.mutated s filter m rows with
  | error p => rfl
  | ok candidate =>
    rw [hm] at h
    exact settled_of_error h

lemma updateWhere_of_error {filter : Option Predicate} {m : Mutation} {cancel : Option (Handle E)}
    (h : (updateWhere s filter m cancel rows).1.result = .error e) :
    (updateWhere s filter m cancel rows).2 = rows := by
  have heq := updateWhere_eq s filter m cancel rows
  have hresult := congrArg Prod.fst heq
  have hrows := congrArg Prod.snd heq
  simp only at hresult hrows
  rw [hresult] at h
  rw [hrows]
  cases hw : watch cancel (Plan.matchingEvents s filter rows) with
  | error p => rfl
  | ok after =>
    rw [hw] at h
    exact update_of_error h

end MemoryStore

namespace Repository

/-! ### Atomic steps -/

section Steps

variable {σ : Type}

/-- A step that leaves the state as it was where it fails. -/
def Atomic (a : Action σ α) : Prop :=
  ∀ m e, (a.run.run m).1 = .error e → (a.run.run m).2 = m

/-- A second step may fail where the first one left the state alone. -/
lemma Atomic.bind {a : Action σ α} {next : α → Action σ β} (ha : Atomic a)
    (hnext : ∀ x m m' e, a.run.run m = (.ok x, m') → ((next x).run.run m').1 = .error e →
      ((next x).run.run m').2 = m) : Atomic (a >>= next) := by
  intro m e h
  rw [run_bind] at h ⊢
  cases hrun : a.run.run m with
  | mk r m' =>
    rw [hrun] at h
    cases r with
    | error p => exact (congrArg Prod.snd hrun).symm.trans (ha m p (congrArg Prod.fst hrun))
    | ok x => exact hnext x m m' e hrun h

/-- A step that only reads may stand in front. -/
lemma Atomic.after_read {a : Action σ α} {next : α → Action σ β}
    (ha : ∀ m, (a.run.run m).2 = m) (hnext : ∀ x, Atomic (next x)) : Atomic (a >>= next) :=
  Atomic.bind (fun m _ _ => ha m) fun x m m' e hrun h => by
    rw [hnext x m' e h, ← ha m, hrun]

lemma Atomic.after_resolved {r : Except QueryError α} {next : α → Action σ β}
    (hnext : ∀ x, Atomic (next x)) : Atomic (resolved r >>= next) :=
  Atomic.after_read (fun _ => rfl) hnext

/-- A step that cannot fail may stand behind. -/
lemma Atomic.before_pure {a : Action σ α} (ha : Atomic a) (f : α → β) :
    Atomic (a >>= fun x => pure (f x)) :=
  Atomic.bind ha fun x m m' e _ h => by cases h

end Steps

lemma atomic_pooled {work : Action (List E) α} (h : Atomic work) : Atomic (pooled work) := by
  intro m e he
  rw [run_pooled] at he ⊢
  by_cases hfree : m.free = 0
  · rw [if_pos hfree]
  · rw [if_neg hfree] at he ⊢
    simp only [h m.rows e he]

lemma atomic_answered {work : List E → Answer α × List E}
    (h : ∀ rows e, (work rows).1.result = .error e → (work rows).2 = rows) :
    Atomic (answered work) := by
  intro rows e he
  obtain ⟨p, hp⟩ := of_run_answered_error he
  exact h rows p hp

/-! ### Operations -/

section Operations

variable [Entity E] (s : Schema E) (settings : RepositorySettings)

lemma atomic_appended (new : List E) : Atomic (appended s new) :=
  atomic_answered fun _ _ h => MemoryStore.insert_of_error h

lemma atomic_bulkInsert (now : Instant) (fresh : ℕ → Uuid) (new : List E) :
    Atomic ((MemoryStore.repository s settings).bulkInsert now fresh new) := by
  rw [bulkInsert_eq]
  exact atomic_pooled ((atomic_appended s _).before_pure _)

lemma atomic_insert (now : Instant) (fresh : Uuid) (e : E) :
    Atomic ((MemoryStore.repository s settings).insert now fresh e) := by
  rw [insert_eq]
  exact atomic_pooled ((atomic_appended s _).before_pure _)

/-- An entity that is not there when it is replaced was not there when it was fetched. -/
lemma atomic_update (now : Instant) (id : Uuid) (e : E) :
    Atomic ((MemoryStore.repository s settings).update now id e) := by
  rw [update_eq]
  refine Atomic.after_resolved fun filter => atomic_pooled ?_
  refine Atomic.after_read (fun _ => rfl) fun hits => ?_
  refine Atomic.after_read (fun _ => ?_) fun stored => ?_
  · cases hits.head?.bind Hit.entity? <;> rfl
  · have replacing : Atomic (replaced s (inPlaceOf now id stored e)) :=
      atomic_answered fun _ _ h => MemoryStore.replace_of_error h
    refine replacing.bind fun found rows rows' err hrun h => ?_
    cases found with
    | true => cases h
    | false =>
      obtain ⟨hfalse, rfl⟩ := of_run_answered_ok hrun
      exact MemoryStore.replace_of_false hfalse

lemma atomic_executeUpdate (c : BulkChange) (cancel : Option (Handle E)) :
    Atomic ((MemoryStore.repository s settings).executeUpdate c cancel) := by
  rw [executeUpdate_eq]
  exact atomic_pooled (atomic_answered fun _ _ h => MemoryStore.updateWhere_of_error h)

lemma atomic_updateWhere (request : ChangeRequest) (cancel : Option (Handle E)) :
    Atomic ((MemoryStore.repository s settings).updateWhere request cancel) := by
  rw [updateWhere_eq]
  refine Atomic.after_resolved fun c => ?_
  exact atomic_pooled (atomic_answered fun _ _ h => MemoryStore.updateWhere_of_error h)

lemma atomic_deleteWhere (filters : Option FilterList) (cancel : Option (Handle E)) :
    Atomic ((MemoryStore.repository s settings).deleteWhere filters cancel) := by
  rw [deleteWhere_eq]
  refine Atomic.after_resolved fun filter => ?_
  exact atomic_pooled (atomic_answered fun _ _ h => MemoryStore.deleteWhere_of_error h)

/-- The identifier is unknown only if nothing was deleted. -/
lemma atomic_delete (id : Uuid) : Atomic ((MemoryStore.repository s settings).delete id) := by
  rw [delete_eq]
  refine Atomic.after_resolved fun filter => atomic_pooled ?_
  have deleting : Atomic (answered (MemoryStore.deleteWhere s (some filter) none)) :=
    atomic_answered fun _ _ h => MemoryStore.deleteWhere_of_error h
  refine deleting.bind fun n rows rows' err hrun h => ?_
  by_cases hn : n = 0
  · subst hn
    obtain ⟨hzero, rfl⟩ := of_run_answered_ok hrun
    exact MemoryStore.deleteWhere_of_zero hzero
  · rw [if_neg hn] at h
    cases h

end Operations

end Repository

/-! ### Writes -/

/-- A write of a repository, with all its arguments. -/
inductive Write (E : Type) where
  | insert (now : Instant) (fresh : Uuid) (e : E)
  | bulkInsert (now : Instant) (fresh : ℕ → Uuid) (new : List E)
  | update (now : Instant) (id : Uuid) (e : E)
  | updateWhere (request : ChangeRequest) (cancel : Option (Handle E))
  | executeUpdate (change : BulkChange) (cancel : Option (Handle E))
  | delete (id : Uuid)
  | deleteWhere (filters : Option FilterList) (cancel : Option (Handle E))

namespace Write

variable [Entity E]

/-- A write as a step, its result left out. -/
def run {σ : Type} (r : Repository E σ) : Write E → Action σ Unit
  | .insert now fresh e => Functor.discard (r.insert now fresh e)
  | .bulkInsert now fresh new => Functor.discard (r.bulkInsert now fresh new)
  | .update now id e => Functor.discard (r.update now id e)
  | .updateWhere request cancel => Functor.discard (r.updateWhere request cancel)
  | .executeUpdate change cancel => Functor.discard (r.executeUpdate change cancel)
  | .delete id => r.delete id
  | .deleteWhere filters cancel => Functor.discard (r.deleteWhere filters cancel)

lemma atomic_run (s : Schema E) (settings : RepositorySettings) (w : Write E) :
    Repository.Atomic (w.run (MemoryStore.repository s settings)) := by
  cases w with
  | insert now fresh e => exact (Repository.atomic_insert s settings now fresh e).before_pure _
  | bulkInsert now fresh new =>
    exact (Repository.atomic_bulkInsert s settings now fresh new).before_pure _
  | update now id e => exact (Repository.atomic_update s settings now id e).before_pure _
  | updateWhere request cancel =>
    exact (Repository.atomic_updateWhere s settings request cancel).before_pure _
  | executeUpdate change cancel =>
    exact (Repository.atomic_executeUpdate s settings change cancel).before_pure _
  | delete id => exact Repository.atomic_delete s settings id
  | deleteWhere filters cancel =>
    exact (Repository.atomic_deleteWhere s settings filters cancel).before_pure _

/-- **A write that fails, for whatever reason, leaves the store as it was**: the same entities in
the same order, and the same number of free sessions. -/
theorem store_of_error {s : Schema E} {settings : RepositorySettings} {w : Write E}
    {m : MemoryStore E} {e : StorageError}
    (h : ((w.run (MemoryStore.repository s settings)).run.run m).1 = .error e) :
    ((w.run (MemoryStore.repository s settings)).run.run m).2 = m :=
  atomic_run s settings w m e h

/-- Two new entities with one identifier, refused after both were put behind the stored one. -/
theorem store_of_twins :
    let plain (n : BitVec 128) : Slots :=
      ⟨{ BaseFields.fresh Uuid.nil Instant.epoch with id := ⟨n⟩ }, [], [], none⟩
    let r := MemoryStore.repository (⟨"City", [], [], [], none⟩ : Schema Slots) .usual
    let m : MemoryStore Slots := ⟨[plain 1], .usual, 0⟩
    let w : Write Slots := .bulkInsert Instant.epoch (fun _ => Uuid.nil) [plain 2, plain 2]
    ((w.run r).run.run m).1 = .error (.conflict "City" "PRIMARY") ∧
      ((w.run r).run.run m).2 = m := by
  refine ⟨rfl, ?_⟩
  exact store_of_error (w := .bulkInsert _ _ _) (e := .conflict "City" "PRIMARY") rfl

end Write

end EntityQuery
