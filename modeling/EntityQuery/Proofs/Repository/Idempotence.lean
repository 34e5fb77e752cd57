import EntityQuery.Proofs.Repository.Atomicity
import EntityQuery.Proofs.Repository.BulkChanges
import EntityQuery.Proofs.Repository.Cancellations
import EntityQuery.Proofs.Schema.References
import EntityQuery.Proofs.Store.Silence
import Mathlib.Data.List.Perm.Subperm

/-!
Bulk changes that are repeated. A field is *steady* if it takes a value again where it already
stands. What a mutation of steady and independent fields has made of an entity, it leaves alone;
so no row begins to pass the filter of a change that has been made, the rows that still pass stay
as they are, and nothing new can clash. Main statements: `apply_again`, `mutated_again` and
`executeUpdate_again`.
-/

namespace EntityQuery

variable {E : Type}

open Result Repository

/-! ### Steady fields -/

/-- A value that the field has taken, it takes again where it already stands, and this changes
nothing. -/
def Field.Steady (Valid : E → Prop) (f : Field E) : Prop :=
  ∀ e v e', Valid e → f.write e v = .ok e' →
    ∀ d, Valid d → f.read d = v → f.write d v = .ok d

lemma SchemaDraft.steady_baseFields [Entity E] {Valid : E → Prop}
    (hown : ∀ e : E, Entity.withBase e (Entity.base e) = e) {f : Field E} (hf : f ∈ baseFields) :
    f.Steady Valid := by
  intro e v e' _ h d _ hread
  simp only [baseFields, List.mem_cons, List.not_mem_nil, or_false] at hf
  rcases hf with rfl | rfl | rfl | rfl | rfl <;>
    first
    | cases h
    | obtain rfl := hread
      exact congrArg Except.ok (hown d)

lemma Slots.put_get (e : Slots) (i : ℕ) : e.put i (e.get i) = e := by
  have hset : e.values.set i (e.values.getD i .null) = e.values := by
    rw [List.getD_eq_getElem?_getD]
    rcases Nat.lt_or_ge i e.values.length with hlt | hge
    · rw [List.getElem?_eq_getElem hlt, Option.getD_some, List.set_getElem_self]
    · exact List.set_eq_of_length_le hge
  rw [put, get, hset]

namespace SlotType

variable {t : SlotType} {i : ℕ} {e e' : Slots} {v : Value}

/-- Whether a slot takes a value depends on the value alone. -/
lemma write_eq_put (h : (t.field i).write e v = .ok e') (d : Slots) :
    (t.field i).write d v = .ok (d.put i v) := by
  unfold Field.write field at h ⊢
  split at h
  · rename_i hset
    split at hset
    · cases hset
    · cases hset
      obtain ⟨w, hw, -⟩ := map_eq_ok_iff.1 h
      show d.put i <$> t.storage.store t.type.nullable v = _
      rw [hw, Storage.eq_of_store_eq_ok hw]
      rfl
  · cases h

lemma steady_field (t : SlotType) (i : ℕ) (Valid : Slots → Prop) : (t.field i).Steady Valid := by
  intro e v e' _ h d _ hread
  obtain rfl : d.get i = v := hread
  rw [write_eq_put h, d.put_get]

end SlotType

/-- The fields of entities of slots are steady. -/
theorem SlotsType.steady_slots (t : SlotsType) {s : Schema Slots} (hs : t.draft.build = .ok s) :
    ∀ f ∈ s.fields, f.Steady t.Fits := by
  obtain ⟨base, hsub, -, hfields⟩ := t.exists_fields hs
  intro f hf
  rw [hfields, List.mem_append] at hf
  rcases hf with hf | hf
  · exact SchemaDraft.steady_baseFields (fun _ => rfl) (hsub hf)
  · obtain ⟨i, hi, rfl⟩ := List.mem_mapIdx.1 hf
    exact SlotType.steady_field _ i _

/-! ### Mutations -/

namespace Mutation

variable {s : Schema E} {Valid : E → Prop} {m : Mutation} {e e' : E}

lemma nodup_of_compiled (h : (Expression.mutation m).Compiled s) : m.fields.Nodup := by
  cases h with
  | mutation h => exact (ofChanges_eq_ok_iff.1 h).2.2
  | assignments h =>
    obtain ⟨as, -, -, hnodup⟩ := (foldlM_set_eq_ok_iff (m := .empty) List.nodup_nil).1 h
    exact hnodup

variable (hs : s.Independent Valid) (hsteady : ∀ f ∈ s.fields, f.Steady Valid)

include hs

lemma valid_of_run {as : List Assignment} (he : Valid e) (hdeclared : ∀ a ∈ as, s.Declares a.field)
    (h : run s e as = .ok e') : Valid e' := by
  induction as generalizing e with
  | nil =>
    cases h
    exact he
  | cons a as ih =>
    rw [List.forall_mem_cons] at hdeclared
    obtain ⟨e₁, hwrite, hrest⟩ := run_cons_eq_ok_iff.1 h
    exact ih (hs.keeps _ hdeclared.1.mem e _ e₁ he hwrite).1 hdeclared.2 hrest

include hsteady

/-- Assignments that some entity has taken change nothing where the fields read as assigned. -/
lemma run_of_read {as : List Assignment} (he : Valid e) (hdeclared : ∀ a ∈ as, s.Declares a.field)
    (h : run s e as = .ok e') {d : E} (hd : Valid d)
    (hread : ∀ a ∈ as, s.read d a.field = a.value) : run s d as = .ok d := by
  induction as generalizing e with
  | nil => rfl
  | cons a as ih =>
    rw [List.forall_mem_cons] at hdeclared hread
    obtain ⟨e₁, hwrite, hrest⟩ := run_cons_eq_ok_iff.1 h
    have hmem := hdeclared.1.mem
    have hstands := hsteady _ hmem e _ e₁ he hwrite d hd hread.1
    exact run_cons_eq_ok_iff.2 ⟨d, hstands,
      ih (hs.keeps _ hmem e _ e₁ he hwrite).1 hdeclared.2 hrest hread.2⟩

/-- **What a mutation has made of an entity, it leaves alone.** -/
theorem apply_again (hm : (Expression.mutation m).Compiled s) (he : Valid e)
    (h : m.apply s e = .ok e') : m.apply s e' = .ok e' := by
  have hdeclared : ∀ a ∈ m.assignments, s.Declares a.field :=
    fun a ha => hm.declares a.field (List.mem_map_of_mem ha)
  have hrun := apply_eq_ok_iff.1 h
  exact apply_eq_ok_iff.2 (run_of_read hs hsteady he hdeclared hrun
    (valid_of_run hs he hdeclared hrun)
    fun a ha => read_of_run hs he hdeclared (nodup_of_compiled hm) hrun ha)

end Mutation

/-! ### Rows -/

namespace Rows

variable {s : Schema E} {Valid : E → Prop} {filter : Option Predicate} {m : Mutation}
  {rows new : List E}

/-- **After a change no other rows pass than before it.** -/
lemma positions_subset_of_mutated (h : mutated s filter m rows = .ok new) :
    positions s filter new ⊆ positions s filter rows := by
  intro i hi
  by_contra hnot
  obtain ⟨e, he, hpasses⟩ := (mem_positions s filter).1 hi
  rw [getElem?_of_notMem_positions h hnot] at he
  exact hnot ((mem_positions s filter).2 ⟨e, he, hpasses⟩)

lemma countP_le_of_mutated (h : mutated s filter m rows = .ok new) :
    new.countP (Plan.passes s filter) ≤ rows.countP (Plan.passes s filter) := by
  rw [← length_positions, ← length_positions]
  exact ((nodup_positions s filter new).subperm (positions_subset_of_mutated h)).length_le

/-- **A change of rows that it has been made to changes nothing.** -/
theorem mutated_again (hs : s.Independent Valid) (hsteady : ∀ f ∈ s.fields, f.Steady Valid)
    (hm : (Expression.mutation m).Compiled s) (hrows : ∀ e ∈ rows, Valid e)
    (h : mutated s filter m rows = .ok new) : mutated s filter m new = .ok new := by
  refine mapM_eq_ok_iff.2 (List.forall₂_same.2 fun e' he' => ?_)
  obtain ⟨e, he, hstep⟩ := exists_of_forall₂ (forall₂_of_mutated_eq_ok h).flip he'
  by_cases hpasses' : Plan.passes s filter e'
  · rw [if_pos hpasses']
    -- an entity that passes afterwards has passed before, as the others are left alone
    by_cases hpasses : Plan.passes s filter e
    · rw [if_pos hpasses] at hstep
      exact Mutation.apply_again hs hsteady hm (hrows e he) hstep
    · rw [if_neg hpasses] at hstep
      cases hstep
      exact absurd hpasses' hpasses
  · rw [if_neg hpasses']

lemma clash?_again [Entity E] (h : mutated s filter m rows = .ok new)
    (hclash : clash? s new (positions s filter rows) = none) :
    clash? s new (positions s filter new) = none := by
  rw [clash?, List.findSome?_eq_none_iff] at hclash ⊢
  exact fun i hi => hclash i (positions_subset_of_mutated h hi)

end Rows

/-! ### The store -/

namespace MemoryStore

variable [Entity E] {s : Schema E} {filter : Option Predicate} {m : Mutation}
  {cancel : Option (Handle E)} {rows new : List E} {n : ℕ}

/-- What is known of a change that succeeds, and what it takes to succeed. -/
lemma updateWhere_eq_ok_iff :
    (updateWhere s filter m cancel rows).1.result = .ok n ∧
        (updateWhere s filter m cancel rows).2 = new ↔
      (∃ after, watch cancel (Plan.matchingEvents s filter rows) = .ok after) ∧
        Rows.mutated s filter m rows = .ok new ∧
        Rows.clash? s new (Rows.positions s filter rows) = none ∧
        n = rows.countP (Plan.passes s filter) := by
  rw [← Prod.mk.injEq, updateWhere_eq]
  cases watch cancel (Plan.matchingEvents s filter rows) with
  | error e => simp
  | ok after =>
    simp only [update_eq]
    cases Rows.mutated s filter m rows with
    | error e => simp
    | ok candidate =>
      simp only [settled]
      constructor
      · intro h
        split at h
        · cases h
        · rename_i hclash
          cases h
          exact ⟨⟨after, rfl⟩, rfl, hclash, rfl⟩
      · rintro ⟨-, hcandidate, hclash, rfl⟩
        cases hcandidate
        rw [hclash]

omit [Entity E] in
/-- A search that a handle lets pass, it lets pass again on as many rows: a signalled handle stops
the search at the first row, and no other handle is signalled on the way. -/
lemma watch_again (hcancel : ∀ h ∈ cancel, ∀ e f, h.trips e f = false)
    (h : ∃ after, watch cancel (Plan.matchingEvents s filter rows) = .ok after)
    (hlength : rows.length = new.length) :
    ∃ after, watch cancel (Plan.matchingEvents s filter new) = .ok after := by
  by_cases hsignalled : ∃ h ∈ cancel, h.signalled
  · obtain ⟨handle, rfl, hsignalled⟩ := hsignalled
    have hrows : rows = [] := by
      by_contra hrows
      obtain ⟨after, h⟩ := h
      have hstop := watch_of_signalled hsignalled hrows s filter []
      rw [List.append_nil, h] at hstop
      cases hstop
    rw [hrows, List.length_nil, eq_comm, List.length_eq_zero_iff] at hlength
    rw [hlength]
    exact ⟨_, rfl⟩
  · refine ⟨cancel, watch_of_silent fun h hh => ⟨?_, fun e f _ => hcancel h hh e f⟩⟩
    exact Bool.eq_false_iff.2 fun hsignal => hsignalled ⟨h, hh, hsignal⟩

variable {Valid : E → Prop} (hs : s.Independent Valid) (hsteady : ∀ f ∈ s.fields, f.Steady Valid)
  (hm : (Expression.mutation m).Compiled s) (hrows : ∀ e ∈ rows, Valid e)
  (h : (updateWhere s filter m cancel rows).1.result = .ok n ∧
    (updateWhere s filter m cancel rows).2 = new)

include hs hsteady hm hrows h

/-- **Where a change succeeds twice**, it finds no more rows the second time and leaves all of them
as they are. -/
theorem updateWhere_twice {k : ℕ} {new' : List E}
    (hagain : (updateWhere s filter m cancel new).1.result = .ok k ∧
      (updateWhere s filter m cancel new).2 = new') : new' = new ∧ k ≤ n := by
  obtain ⟨-, hmutated, -, rfl⟩ := updateWhere_eq_ok_iff.1 h
  obtain ⟨-, hmutated', -, rfl⟩ := updateWhere_eq_ok_iff.1 hagain
  have hfixed := Rows.mutated_again hs hsteady hm hrows hmutated
  exact ⟨Except.ok.inj (hmutated'.symm.trans hfixed), Rows.countP_le_of_mutated hmutated⟩

lemma updateWhere_again (hcancel : ∀ h ∈ cancel, ∀ e f, h.trips e f = false) :
    ∃ k, (updateWhere s filter m cancel new).1.result = .ok k ∧
      (updateWhere s filter m cancel new).2 = new := by
  obtain ⟨hwatch, hmutated, hclash, -⟩ := updateWhere_eq_ok_iff.1 h
  have hlength := (Rows.forall₂_of_mutated_eq_ok hmutated).length_eq
  exact ⟨_, updateWhere_eq_ok_iff.2 ⟨watch_again hcancel hwatch hlength,
    Rows.mutated_again hs hsteady hm hrows hmutated, Rows.clash?_again hmutated hclash, rfl⟩⟩

end MemoryStore

/-! ### The repository -/

namespace BulkChange

variable [Entity E] {s : Schema E} {settings : RepositorySettings} {c : BulkChange}
  {cancel : Option (Handle E)} {m m' : MemoryStore E} {n : ℕ}

lemma executeUpdate_eq_ok_iff :
    ((MemoryStore.repository s settings).executeUpdate c cancel).run.run m = (.ok n, m') ↔
      m.free ≠ 0 ∧ ∃ new, ((MemoryStore.updateWhere s c.filter c.mutation cancel m.rows).1.result =
        .ok n ∧ (MemoryStore.updateWhere s c.filter c.mutation cancel m.rows).2 = new) ∧
        m' = { m with rows := new } := by
  rw [executeUpdate_eq, run_pooled, run_answered]
  by_cases hfree : m.free = 0
  · rw [if_pos hfree]
    exact iff_of_false (fun h => nomatch congrArg Prod.fst h) fun h => h.1 hfree
  · rw [if_neg hfree, Prod.mk.injEq, mapError_eq_ok_iff]
    constructor
    · rintro ⟨hresult, rfl⟩
      exact ⟨hfree, _, ⟨hresult, rfl⟩, rfl⟩
    · rintro ⟨-, _, ⟨hresult, rfl⟩, rfl⟩
      exact ⟨hresult, rfl⟩

/-- **Making a bulk change twice is making it once**, whether or not it assigns what its filter
reads: the second time it leaves the store as it finds it, fails in the same way where it failed,
and finds no more rows than the first time where that succeeded and no handle is signalled on the
way. -/
theorem executeUpdate_again {Valid : E → Prop} (hs : s.Independent Valid)
    (hsteady : ∀ f ∈ s.fields, f.Steady Valid) (hrows : ∀ e ∈ m.rows, Valid e)
    (hc : (Expression.mutation c.mutation).Compiled s) :
    let change := (MemoryStore.repository s settings).executeUpdate c cancel
    let once := change.run.run m
    let twice := change.run.run once.2
    twice.2 = once.2 ∧ (∀ e, once.1 = .error e → twice.1 = .error e) ∧
      ((∀ h ∈ cancel, ∀ e f, h.trips e f = false) →
        ∀ n, once.1 = .ok n → ∃ k ≤ n, twice.1 = .ok k) := by
  intro change once twice
  have hatomic := atomic_executeUpdate s settings c cancel
  cases honce : once.1 with
  | error e =>
    have hsame : once.2 = m := hatomic m e honce
    have htwice : twice = once := congrArg change.run.run hsame
    rw [htwice, honce]
    exact ⟨rfl, fun _ h => h, fun _ n h => (nomatch h)⟩
  | ok n =>
    obtain ⟨hfree, new, hnew, hm'⟩ := executeUpdate_eq_ok_iff.1
      (show change.run.run m = (.ok n, once.2) from Prod.ext honce rfl)
    -- of the second time it takes only that it succeeds, whatever the handle does meanwhile
    have hkept {k : ℕ} (hk : twice.1 = .ok k) : twice.2 = once.2 ∧ k ≤ n := by
      obtain ⟨-, new', hnew', htwice⟩ := executeUpdate_eq_ok_iff.1
        (show change.run.run once.2 = (.ok k, twice.2) from Prod.ext hk rfl)
      rw [hm'] at hnew' htwice
      obtain ⟨rfl, hle⟩ := MemoryStore.updateWhere_twice hs hsteady hc hrows hnew hnew'
      exact ⟨htwice.trans hm'.symm, hle⟩
    refine ⟨?_, fun e h => (nomatch h), fun hcancel n' hn => ?_⟩
    · cases htwice : twice.1 with
      | error e => exact hatomic once.2 e htwice
      | ok k => exact (hkept htwice).1
    · cases hn
      obtain ⟨k, hk⟩ := MemoryStore.updateWhere_again hs hsteady hc hrows hnew hcancel
      have htwice : twice = (.ok k, once.2) :=
        executeUpdate_eq_ok_iff.2 (hm' ▸ ⟨hfree, new, hk, rfl⟩)
      have hsucceeds : twice.1 = .ok k := congrArg Prod.fst htwice
      exact ⟨k, (hkept hsucceeds).2, hsucceeds⟩

/-- A change that makes open tasks done and takes their owners away finds two of them; made again,
it finds no more and changes nothing. -/
theorem executeUpdate_again_of_open_tasks :
    let s : Schema Slots :=
      { name := "Task"
        fields := Samples.task.draft.fields
        navigations := Samples.task.draft.navigations
        unique := [⟨"ux_task_title", [⟨5, "Title"⟩]⟩,
          ⟨"ux_task_cost", [⟨6, "Owner"⟩, ⟨8, "Cost"⟩]⟩]
        modifiedAt := some ⟨4, "ModifiedAt"⟩ }
    let task (id : BitVec 128) (title : String) (owner : Value) (done : Bool) : Slots :=
      ⟨{ BaseFields.fresh Uuid.nil Instant.epoch with id := ⟨id⟩ },
        [.text title, owner, .null, .null, .null, .bool done], [["step"], []], none⟩
    let m : MemoryStore Slots :=
      ⟨[task 1 "sow" (.text "Ada") false, task 2 "mow" (.text "Bob") true,
        task 3 "reap" .null false], .usual, 0⟩
    let c : BulkChange :=
      ⟨some (.compare ⟨10, "Done"⟩ .equal (.bool false)),
        ⟨[⟨⟨10, "Done"⟩, .bool true⟩, ⟨⟨6, "Owner"⟩, .null⟩]⟩⟩
    let change := (MemoryStore.repository s .usual).executeUpdate c (some .quiet)
    let once := change.run.run m
    let twice := change.run.run once.2
    s.Independent Samples.task.Fits ∧ (∀ f ∈ s.fields, f.Steady Samples.task.Fits) ∧
      (∀ e ∈ m.rows, Samples.task.Fits e) ∧ (Expression.mutation c.mutation).Compiled s ∧
      (∀ h ∈ some (Handle.quiet : Handle Slots), ∀ e f, h.trips e f = false) ∧
      once.1 = .ok 2 ∧ twice.2 = once.2 ∧ ∃ k ≤ 2, twice.1 = .ok k := by
  intro s task m c change once twice
  have hbuild : Samples.task.draft.build = .ok s := rfl
  have hs : s.Independent Samples.task.Fits := Samples.task.independent_slots hbuild
  have hsteady : ∀ f ∈ s.fields, f.Steady Samples.task.Fits := Samples.task.steady_slots hbuild
  have hrows : ∀ e ∈ m.rows, Samples.task.Fits e := by
    simp only [m, List.mem_cons, List.not_mem_nil, or_false, forall_eq_or_imp, forall_eq]
    decide
  have hc : (Expression.mutation c.mutation).Compiled s :=
    .mutation
      (show Mutation.ofChanges s [⟨"Done", some " TRUE "⟩, ⟨"owner", none⟩] = .ok _ from rfl)
  have hcancel : ∀ h ∈ some (Handle.quiet : Handle Slots), ∀ e f, h.trips e f = false := by
    rintro h ⟨⟩ e f
    rfl
  have honce : once.1 = .ok 2 := rfl
  obtain ⟨hsame, -, hagain⟩ := executeUpdate_again hs hsteady hrows hc
  exact ⟨hs, hsteady, hrows, hc, hcancel, honce, hsame, hagain hcancel 2 honce⟩

end BulkChange

end EntityQuery
