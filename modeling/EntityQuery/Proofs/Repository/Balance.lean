import EntityQuery.Proofs.Repository.OneSession
import EntityQuery.Slots

/-!
Sessions in balance. A caller may take sessions and give them back between its operations, which
succeed or fail. At every point the sessions that are free and those that the caller holds are all
there are, and an operation lacks a session exactly if none is free. Main statements:
`balanced_leaving` and `free_add_held_leaving`.
-/

namespace EntityQuery.Caller

open Repository

variable {E : Type} [Entity E] {s : Schema E} {settings : RepositorySettings}
  {supports : Capability → Bool}

/-- A store, and the number of its sessions that the caller holds. -/
structure State (E : Type) where
  store : MemoryStore E
  held : ℕ

/-- What a caller may do: an operation of a repository, or a session taken or given back. -/
inductive Step (E : Type) where
  | operation (op : Operation E)
  | acquire
  | release

/-- One step of a caller. Operations may fail, and so may the request for a session; without one
there is nothing to give back. -/
def step (r : Repository E (MemoryStore E)) (c : State E) : Step E → State E
  | .operation op => { c with store := ((op.run r).run.run c.store).2 }
  | .acquire =>
    match r.backend.acquire.run c.store with
    | (.ok (), store) => ⟨store, c.held + 1⟩
    | (.error _, store) => { c with store }
  | .release =>
    if c.held = 0 then c else ⟨(r.backend.release.run c.store).2, c.held - 1⟩

/-- The state that the steps of a caller lead to, one after the other. -/
def leaving (r : Repository E (MemoryStore E)) (c : State E) (steps : List (Step E)) : State E :=
  steps.foldl (step r) c

/-- The sessions in use are those that the caller holds, and there are as many. -/
structure Balanced (t : StoreSettings) (c : State E) : Prop where
  settings : c.store.settings = t
  inUse : c.store.held = c.held
  le : c.held ≤ t.maxSessions.toNat

omit [Entity E] in
lemma Balanced.free_add_held {t : StoreSettings} {c : State E} (h : Balanced t c) :
    c.store.free + c.held = t.maxSessions.toNat := by
  rw [MemoryStore.free, h.settings, h.inUse]
  exact Nat.sub_add_cancel h.le

lemma Balanced.step {t : StoreSettings} {c : State E} (h : Balanced t c) (move : Step E) :
    Balanced t (step (MemoryStore.limited s settings supports) c move) := by
  cases move with
  | operation op =>
    by_cases hop : op.Admitted s settings supports
    · obtain ⟨work, -, hrun⟩ := Operation.exists_pooled hop
      rw [Caller.step, hrun, run_pooled]
      split
      · exact h
      · exact ⟨h.settings, h.inUse, h.le⟩
    · obtain ⟨e, he⟩ := Operation.refused_of_not_admitted hop
      rw [Caller.step, he]
      exact h
  | acquire =>
    have hacquire : (MemoryStore.limited s settings supports).backend.acquire.run c.store = _ :=
      run_acquire c.store
    rw [Caller.step, hacquire]
    by_cases hfree : c.store.free = 0
    · rw [if_pos hfree]
      exact h
    · rw [if_neg hfree]
      have hroom := h.free_add_held
      exact ⟨h.settings, congrArg (· + 1) h.inUse, by simp only; omega⟩
  | release =>
    rw [Caller.step]
    split
    · exact h
    · exact ⟨h.settings, congrArg (· - 1) h.inUse, (Nat.sub_le _ _).trans h.le⟩

/-- **No run upsets the balance.** -/
theorem balanced_leaving {t : StoreSettings} {c : State E} (h : Balanced t c)
    (steps : List (Step E)) :
    Balanced t (leaving (MemoryStore.limited s settings supports) c steps) :=
  List.foldlRecOn steps _ h fun _ hc move _ => hc.step move

/-- **Sessions are never lost, and never needed twice.** Whatever a caller did with a store none of
whose sessions was in use, the free sessions and those that the caller holds are all there are. An
operation that resolves and finds the capabilities it needs lacks a session exactly if none is free;
and if one is, it ends and leaves the rows as it would with any number of free sessions. -/
theorem free_add_held_leaving (s : Schema E) (settings : RepositorySettings)
    (supports : Capability → Bool) (rows : List E) (t : StoreSettings) (steps : List (Step E)) :
    let r := MemoryStore.limited s settings supports
    let c := leaving r ⟨⟨rows, t, 0⟩, 0⟩ steps
    c.store.free + c.held = t.maxSessions.toNat ∧
      ∀ op : Operation E, op.Admitted s settings supports →
        (((op.run r).run.run c.store).1 = .error MemoryStore.exhausted ↔ c.store.free = 0) ∧
        (c.store.free ≠ 0 → ∀ m : MemoryStore E, m.rows = c.store.rows → m.free ≠ 0 →
          ((op.run r).run.run m).1 = ((op.run r).run.run c.store).1 ∧
          ((op.run r).run.run m).2.rows = ((op.run r).run.run c.store).2.rows) := by
  intro r c
  have hempty : Balanced t (⟨⟨rows, t, 0⟩, 0⟩ : State E) := ⟨rfl, rfl, Nat.zero_le _⟩
  refine ⟨(balanced_leaving hempty steps).free_add_held, fun op hop => ?_⟩
  obtain ⟨work, hwork, hrun⟩ := Operation.exists_pooled hop
  rw [hrun]
  refine ⟨⟨fun hexhausted => ?_, fun hfree => ?_⟩, fun hfree m hrows hm => ?_⟩
  · by_contra hfree
    rw [run_pooled, if_neg hfree] at hexhausted
    exact (hwork c.store.rows trivial).2 _ hexhausted rfl
  · rw [run_pooled_of_exhausted hfree]
  · rw [run_pooled, run_pooled, if_neg hfree, if_neg hm, hrows]
    exact ⟨rfl, rfl⟩

/-- A store with one session, which a caller takes and gives back: in the meantime an update is
refused, and afterwards it is done, though it fetches before it writes. -/
theorem free_add_held_of_one_session :
    let s : Schema Slots := ⟨"Note", SchemaDraft.baseFields, [], [], none⟩
    let note (id : BitVec 128) : Slots :=
      ⟨{ BaseFields.fresh Uuid.nil Instant.epoch with id := ⟨id⟩ }, [], [], none⟩
    let supports (c : Capability) : Bool := c ≠ .grouping
    let r := MemoryStore.limited s .usual supports
    let op : Operation Slots := .write (.update Instant.epoch ⟨1⟩ (note 0))
    let before : State Slots := ⟨⟨[note 1], ⟨1, 0⟩, 0⟩, 0⟩
    let holding := leaving r before [.acquire]
    let after := leaving r before [.acquire, .operation op, .release]
    op.Admitted s .usual supports ∧
      holding.store.free + holding.held = 1 ∧
      ((op.run r).run.run holding.store).1 = .error MemoryStore.exhausted ∧
      after.store.free + after.held = 1 ∧ after.store.free = 1 ∧
      ((op.run r).run.run after.store).1 = .ok () := by
  intro s note supports r op before holding after
  have admitted : op.Admitted s .usual supports := by
    refine ⟨?_, fun needed hneeded => ?_⟩
    · exact op.fails_resolution_iff.not.1 (Result.not_fails_iff.2 ⟨(), rfl⟩)
    · cases hneeded
      rintro c ⟨⟩
  have taken := free_add_held_leaving s .usual supports [note 1] ⟨1, 0⟩ [.acquire]
  have returned := free_add_held_leaving s .usual supports [note 1] ⟨1, 0⟩
    [.acquire, .operation op, .release]
  exact ⟨admitted, taken.1, ((taken.2 op admitted).1).2 rfl, returned.1, rfl, rfl⟩

end EntityQuery.Caller
