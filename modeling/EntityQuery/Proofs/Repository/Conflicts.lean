import EntityQuery.Proofs.Repository.Operations
import EntityQuery.Proofs.Repository.Refinement
import EntityQuery.Proofs.Store.Silence

/-!
Conflicts. A write that finds everything it needs would leave certain rows behind, its candidate. On
a store whose rows are distinct it ends in a conflict exactly if two rows of the candidate share
something, in the name of something they share; otherwise the candidate becomes the store. Main
statement: `conflict_iff_shared`.
-/

namespace EntityQuery

variable {E : Type} [Entity E]

open Repository

/-! ### Changes of many rows -/

namespace Repository

/-- A change that nobody interrupts and no field refuses ends as its candidate rows do. -/
lemma run_executeUpdate {s : Schema E} {m : MemoryStore E} (settings : RepositorySettings)
    (hfree : m.free ≠ 0) {c : BulkChange} {cancel : Option (Handle E)} {candidate : List E}
    (hsilent : ∀ h ∈ cancel,
      h.Silent (MemoryStore.changeEvents s c.filter c.mutation m.rows))
    (hmutated : Rows.mutated s c.filter c.mutation m.rows = .ok candidate) :
    ((MemoryStore.repository s settings).executeUpdate c cancel).run.run m =
      inStore m (concluded s m.rows candidate (Rows.positions s c.filter m.rows)
        (m.rows.countP (Plan.passes s c.filter))) := by
  rw [executeUpdate_eq, run_pooled_of_free hfree, run_answered,
    MemoryStore.updateWhere_of_silent hsilent, MemoryStore.update_eq, hmutated]
  exact congrArg (inStore m) (run_settled s m.rows candidate _ _)

lemma updateWhere_of_compiled {s : Schema E} (settings : RepositorySettings)
    {request : ChangeRequest} {c : BulkChange} (hc : BulkChange.ofRequest s request = .ok c)
    (cancel : Option (Handle E)) :
    (MemoryStore.repository s settings).updateWhere request cancel =
      (MemoryStore.repository s settings).executeUpdate c cancel := by
  rw [updateWhere_eq, hc, resolved_ok_bind, executeUpdate_eq]

lemma run_discard_of_concluded {α : Type} {s : Schema E} {m : MemoryStore E}
    {a : Action (MemoryStore E) α} {candidate : List E} {changed : List ℕ} {x : α}
    (ha : a.run.run m = inStore m (concluded s m.rows candidate changed x)) :
    (Functor.discard a).run.run m = inStore m (concluded s m.rows candidate changed ()) := by
  show (a >>= fun _ => pure ()).run.run m = _
  rw [run_bind, ha]
  unfold inStore concluded
  cases Rows.clash? s candidate changed <;> rfl

end Repository

/-! ### Candidates -/

/-- The rows after a change: those that pass the filter are mutated, and the others are as they
were. -/
def Rows.Rewrites (s : Schema E) (c : BulkChange) (rows new : List E) : Prop :=
  List.Forall₂
    (fun e e' => if Plan.passes s c.filter e then c.mutation.apply s e = .ok e' else e' = e)
    rows new

omit [Entity E] in
lemma Rows.Rewrites.mutated_eq {s : Schema E} {c : BulkChange} {rows new : List E}
    (h : Rewrites s c rows new) : mutated s c.filter c.mutation rows = .ok new := by
  refine Result.mapM_eq_ok_iff.2 (h.imp fun e e' hstep => ?_)
  split at hstep
  · rwa [if_pos ‹_›]
  · rw [if_neg ‹_›, hstep]

lemma Repository.inPlaceOf_eq_revision {now : Instant} {id : Uuid} {stored read e : E}
    (h : Entity.base read = { Entity.base stored with id }) :
    inPlaceOf now id stored e = Ledger.revision now read e := by
  rw [inPlaceOf, Ledger.revision, h]

namespace Write

/-- The rows that a write would leave if nothing clashed in them: the arrivals behind the old rows,
a revision in the place of the entity with its identifier, or the changed rows in their places. What
is revised is the stored entity as it is read without navigations. -/
inductive Yields (s : Schema E) (rows : List E) : Write E → List E → Prop
  | insert (now : Instant) (fresh : Uuid) (e : E) :
      Yields s rows (.insert now fresh e) (rows ++ [Ledger.arrival now fresh e])
  | bulkInsert (now : Instant) (fresh : ℕ → Uuid) (new : List E) :
      Yields s rows (.bulkInsert now fresh new) (rows ++ Ledger.arrivals now fresh new)
  | update {d : SchemaDraft E} {before after : List E} {stored read : E}
      (hbase : SchemaDraft.baseFields ⊆ d.fields) (hs : d.build = .ok s)
      (hlens : ∀ (e : E) (b : BaseFields), Entity.base (Entity.withBase e b) = b)
      (hrows : rows = before ++ stored :: after)
      (hread : Entity.base read = { Entity.base (s.view [] stored) with id := Entity.id stored })
      (now : Instant) (e : E) :
      Yields s rows (.update now (Entity.id stored) e)
        (before ++ Ledger.revision now read e :: after)
  | executeUpdate {c : BulkChange} {cancel : Option (Handle E)} {candidate : List E}
      (hsilent : ∀ h ∈ cancel, h.Silent (MemoryStore.changeEvents s c.filter c.mutation rows))
      (hrewrites : Rows.Rewrites s c rows candidate) :
      Yields s rows (.executeUpdate c cancel) candidate
  | updateWhere {request : ChangeRequest} {c : BulkChange} {cancel : Option (Handle E)}
      {candidate : List E} (hc : BulkChange.ofRequest s request = .ok c)
      (hsilent : ∀ h ∈ cancel, h.Silent (MemoryStore.changeEvents s c.filter c.mutation rows))
      (hrewrites : Rows.Rewrites s c rows candidate) :
      Yields s rows (.updateWhere request cancel) candidate

variable {s : Schema E} {m : MemoryStore E} {candidate : List E}

/-- A write on distinct rows looks for clashes where its candidate differs from them. -/
lemma run_of_yields (settings : RepositorySettings) (hdistinct : Rows.Distinct s m.rows)
    (hfree : m.free ≠ 0) {w : Write E} (hw : w.Yields s m.rows candidate) :
    ∃ changed, (∀ i, i ∉ changed → ∀ a, candidate[i]? = some a → m.rows[i]? = some a) ∧
      (w.run (MemoryStore.repository s settings)).run.run m =
        inStore m (concluded s m.rows candidate changed ()) := by
  have hchanged {c : BulkChange} (hrewrites : Rows.Rewrites s c m.rows candidate) (i : ℕ)
      (hi : i ∉ Rows.positions s c.filter m.rows) (a : E) (ha : candidate[i]? = some a) :
      m.rows[i]? = some a := by
    rwa [Rows.getElem?_of_notMem_positions hrewrites.mutated_eq hi] at ha
  cases hw with
  | insert now fresh e =>
    have hrun := run_insert (s := s) settings hfree now fresh e
    rw [Call.stamped_eq_arrival] at hrun
    exact ⟨_, fun i hi a ha => Rows.getElem?_of_append _ [Ledger.arrival now fresh e] hi ha,
      run_discard_of_concluded hrun⟩
  | bulkInsert now fresh new =>
    have hrun := run_bulkInsert (s := s) settings hfree now fresh new
    simp only [Call.stamped_eq_arrival] at hrun
    exact ⟨_, fun i hi a ha => Rows.getElem?_of_append _ _ hi ha, run_discard_of_concluded hrun⟩
  | @update d before after stored read hbase hs hlens hrows hread now e =>
    -- the row that the search finds first is the only one with the identifier
    have hbefore : ∀ r ∈ before, Entity.id r ≠ Entity.id stored := by
      have hpair := Rows.distinct_iff_pairwise.1 hdistinct
      rw [hrows, List.pairwise_append] at hpair
      exact fun r hr => (hpair.2.2 r hr stored List.mem_cons_self).id_ne
    have hview : s.unloadExcept [] stored = s.view [] stored :=
      Schema.unloadExcept_eq_view (fun _ => rfl) stored
    have hrun := run_update_of_split settings hbase hs hlens hfree now e hrows hbefore
    rw [hview, inPlaceOf_eq_revision hread] at hrun
    refine ⟨[before.length], fun i hi a ha => ?_, run_discard_of_concluded hrun⟩
    rw [← Rows.set_middle before after stored,
      List.getElem?_set_ne (by simpa [eq_comm] using hi), ← hrows] at ha
    exact ha
  | executeUpdate hsilent hrewrites =>
    have hrun := run_executeUpdate settings hfree hsilent hrewrites.mutated_eq
    exact ⟨_, hchanged hrewrites, run_discard_of_concluded hrun⟩
  | updateWhere hc hsilent hrewrites =>
    have hrun := run_executeUpdate settings hfree hsilent hrewrites.mutated_eq
    rw [← updateWhere_of_compiled settings hc] at hrun
    exact ⟨_, hchanged hrewrites, run_discard_of_concluded hrun⟩

/-- **A write on a reachable store ends in a conflict exactly if two rows of its candidate share
something**, the conflict names something that they share, and without conflict the candidate
becomes the store. No operation, on whatever store, lets a clash out in the words of the backend. -/
theorem conflict_iff_shared {settings : RepositorySettings} (hm : Operation.Reachable s settings m)
    (hfree : m.free ≠ 0) {w : Write E} (hw : w.Yields s m.rows candidate) :
    let r := MemoryStore.repository s settings
    ((∃ entity name, ((w.run r).run.run m).1 = .error (.conflict entity name)) ↔
      ∃ name, Rows.Shared s candidate name) ∧
    (∀ entity name, ((w.run r).run.run m).1 = .error (.conflict entity name) →
      Rows.Shared s candidate name) ∧
    ((∀ name, ¬ Rows.Shared s candidate name) →
      (w.run r).run.run m = (.ok (), { m with rows := candidate })) ∧
    ∀ (op : Operation E) (m' : MemoryStore E) (backend entity name : String),
      ((op.run r).run.run m').1 ≠ .error (.backend (.uniqueViolation backend entity name)) := by
  intro r
  obtain ⟨changed, hsame, hrun⟩ := run_of_yields settings hm.distinct hfree hw
  have hclassified (op : Operation E) (m' : MemoryStore E) (backend entity name : String) :
      ((op.run r).run.run m').1 ≠ .error (.backend (.uniqueViolation backend entity name)) := by
    have hkept : MemoryStore.KeptByWrites s fun _ : List E => True := by constructor <;> simp
    intro h
    have hfalse := (Operation.maintains_run hkept settings op m' trivial).2 _ h
    cases hfalse
  rw [hrun]
  unfold inStore concluded
  cases hclash : Rows.clash? s candidate changed with
  | some name =>
    have hshared := Rows.shared_of_clash?_eq_some hclash
    refine ⟨⟨fun _ => ⟨name, hshared⟩, fun _ => ⟨s.name, name, rfl⟩⟩, fun entity name' h => ?_,
      fun h => absurd hshared (h name), hclassified⟩
    cases h
    exact hshared
  | none =>
    have hdistinct := Rows.distinct_of_clash?_eq_none hm.distinct hclash hsame
    refine ⟨⟨?_, ?_⟩, ?_, fun _ => rfl, hclassified⟩
    · rintro ⟨entity, name, h⟩
      cases h
    · rintro ⟨name, h⟩
      exact absurd h (hdistinct.not_shared name)
    · intro entity name h
      cases h

/-- Of two notes one is marked; marking all of them makes them share what no two notes may share. -/
theorem conflict_of_marked_notes :
    let s : Schema Slots :=
      ⟨"Note", SchemaDraft.baseFields, [], [⟨"ux_deleted", [⟨1, "IsDeleted"⟩]⟩], none⟩
    let note (deleted : Bool) : Slots :=
      ⟨{ BaseFields.fresh Uuid.nil Instant.epoch with deleted }, [], [], none⟩
    let stored (id : Uuid) (deleted : Bool) : Slots :=
      { note deleted with base := { (note deleted).base with id } }
    let r := MemoryStore.repository s .usual
    let m := Operation.leaving r (.empty .usual)
      [.write (.insert Instant.epoch ⟨7⟩ (note false)),
        .write (.insert Instant.epoch ⟨8⟩ (note true))]
    let w : Write Slots :=
      .executeUpdate ⟨none, ⟨[⟨⟨1, "IsDeleted"⟩, .bool true⟩]⟩⟩ (some Handle.quiet)
    let candidate := [stored ⟨7⟩ true, stored ⟨8⟩ true]
    Operation.Reachable s .usual m ∧ m.free ≠ 0 ∧ w.Yields s m.rows candidate ∧
      ∃ entity name, ((w.run r).run.run m).1 = .error (.conflict entity name) := by
  intro s note stored r m w candidate
  have reachable : Operation.Reachable s .usual m := ⟨_, _, rfl⟩
  have free : m.free ≠ 0 := by decide
  have yields : w.Yields s m.rows candidate :=
    .executeUpdate (fun h hh => by cases hh; exact ⟨rfl, fun _ _ _ => rfl⟩)
      (.cons rfl (.cons rfl .nil))
  have shared : Rows.Shared s candidate "ux_deleted" := by
    refine ⟨0, 1, stored ⟨7⟩ true, stored ⟨8⟩ true, by decide, rfl, rfl, Or.inr ?_⟩
    refine ⟨_, List.mem_singleton_self _, rfl, ?_, ?_, ?_⟩ <;>
      · intro f hf
        obtain rfl := List.mem_singleton.1 hf
        rfl
  exact ⟨reachable, free, yields, (conflict_iff_shared reachable free yields).1.2 ⟨_, shared⟩⟩

end Write

end EntityQuery
