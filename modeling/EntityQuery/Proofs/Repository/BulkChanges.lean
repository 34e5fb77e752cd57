import EntityQuery.Proofs.Mutation.Effects
import EntityQuery.Proofs.Plan.Resolution
import EntityQuery.Proofs.Repository.Sessions
import EntityQuery.Proofs.Store.Writes
import EntityQuery.Samples

/-!
Changes of many rows. A change that succeeds tells how many rows passed its filter before it, and
has changed what it names in these rows and nothing else anywhere. Main statement:
`changed_of_updateWhere`.
-/

namespace EntityQuery

variable {E : Type} [Entity E]

open Repository

namespace ChangeRequest

/-- **A bulk change changes exactly what it names.** It tells how many rows passed its filter before
it; each of these differs in the named fields only, which read as their literals; every other row
is the same; all rows keep their places, and identity and origin where base fields hold them.
Whether the filter reads what is changed makes no difference. -/
theorem changed_of_updateWhere {Valid : E → Prop} {s : Schema E} (hs : s.Independent Valid)
    {m m' : MemoryStore E} (hrows : ∀ e ∈ m.rows, Valid e) {request : ChangeRequest}
    {c : BulkChange} (hc : BulkChange.ofRequest s request = .ok c) {settings : RepositorySettings}
    {cancel : Option (Handle E)} {n : ℕ}
    (h : ((MemoryStore.repository s settings).updateWhere request cancel).run.run m =
      (.ok n, m')) :
    n = m.rows.countP (Plan.passes s c.filter) ∧
      List.Forall₂ (fun e e' =>
        if Plan.passes s c.filter e then PropertyChange.Changed s Valid request.changes e e'
        else e' = e) m.rows m'.rows ∧
      (SchemaDraft.baseFields ⊆ s.fields → List.Forall₂ (fun e e' =>
        Entity.id e' = Entity.id e ∧ (Entity.base e').creator = (Entity.base e).creator)
        m.rows m'.rows) := by
  obtain ⟨-, hchanges⟩ := ofChanges_of_ofRequest hc
  rw [updateWhere_eq, hc, resolved_ok_bind] at h
  obtain ⟨rows, hrun, rfl⟩ := of_run_pooled_ok h
  obtain ⟨hresult, rfl⟩ := of_run_answered_ok hrun
  obtain ⟨hmutated, hn⟩ := MemoryStore.mutated_of_updateWhere_ok hresult
  have hsteps := (List.forall₂_and_left _ _).2 ⟨hrows, Rows.forall₂_of_mutated_eq_ok hmutated⟩
  refine ⟨hn, hsteps.imp fun e e' hstep => ?_, fun hbase => hsteps.imp fun e e' hstep => ?_⟩
  · obtain ⟨he, hstep⟩ := hstep
    split at hstep
    · rename_i hpasses
      rw [if_pos hpasses]
      exact Mutation.changed_of_apply hs he hchanges hstep
    · rename_i hpasses
      rw [if_neg hpasses]
      exact (Except.ok.inj hstep).symm
  · obtain ⟨he, hstep⟩ := hstep
    split at hstep
    · exact (Mutation.changed_of_apply hs he hchanges hstep).identity hchanges hbase
    · cases hstep
      exact ⟨rfl, rfl⟩

/-- A change of the tasks that are not done makes them done and takes their owners away. -/
theorem changed_of_open_tasks :
    let s : Schema Slots :=
      { name := "Task"
        fields := Samples.task.draft.fields
        navigations := Samples.task.draft.navigations
        unique := [⟨"ux_task_title", [⟨5, "Title"⟩]⟩,
          ⟨"ux_task_cost", [⟨6, "Owner"⟩, ⟨8, "Cost"⟩]⟩]
        modifiedAt := some ⟨4, "ModifiedAt"⟩ }
    let task (id : BitVec 128) (title : String) (owner : Value) (done : Bool) : Slots :=
      ⟨{ BaseFields.fresh Uuid.nil Instant.epoch with id := ⟨id⟩ },
        [.text title, owner, .null, .null, .null, .bool done], [["step"], []], none⟩
    let m : MemoryStore Slots :=
      ⟨[task 1 "sow" (.text "Ada") false, task 2 "mow" (.text "Bob") true,
        task 3 "reap" .null false], .usual, 0⟩
    let m' : MemoryStore Slots :=
      ⟨[task 1 "sow" .null true, task 2 "mow" (.text "Bob") true, task 3 "reap" .null true],
        .usual, 0⟩
    let request : ChangeRequest :=
      ⟨some (.all [.equal "done" "false"]), [⟨"Done", some " TRUE "⟩, ⟨"owner", none⟩]⟩
    Samples.task.draft.build = .ok s ∧ s.Independent Samples.task.Fits ∧
      (∀ e ∈ m.rows, Samples.task.Fits e) ∧ ∃ c, BulkChange.ofRequest s request = .ok c ∧
        ((MemoryStore.repository s .usual).updateWhere request none).run.run m = (.ok 2, m') ∧
        2 = m.rows.countP (Plan.passes s c.filter) := by
  intro s task m m' request
  have hbuild : Samples.task.draft.build = .ok s := rfl
  have hs : s.Independent Samples.task.Fits := Samples.task.independent_slots hbuild
  have hrows : ∀ e ∈ m.rows, Samples.task.Fits e := by
    simp only [m, List.mem_cons, List.not_mem_nil, or_false, forall_eq_or_imp, forall_eq]
    decide
  have hc : BulkChange.ofRequest s request = .ok _ := rfl
  have hrun : ((MemoryStore.repository s .usual).updateWhere request none).run.run m =
      (.ok 2, m') := rfl
  exact ⟨hbuild, hs, hrows, _, hc, hrun, (changed_of_updateWhere hs hrows hc hrun).1⟩

end ChangeRequest

end EntityQuery
