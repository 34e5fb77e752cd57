import EntityQuery.Proofs.Repository.Limits

/-!
Deleting. The rows that pass a filter go, and the others stay as they are and in their order. The
number that is told is that of the rows that went, and it is also what counting, listing everything
and a change that succeeds come to before the deletion; afterwards they come to nothing. Main
statement: `removes_deleteWhere`.
-/

namespace EntityQuery

variable {E : Type} {s : Schema E} {filter : Option Predicate} {cancel : Option (Handle E)}

/-! ### Listing everything -/

namespace Plan

lemma length_arrange (s : Schema E) (key : Option SortKey) (es : List E) :
    (arrange s key es).length = es.length := by
  cases key with
  | none => rfl
  | some k => exact (k.sort_perm s es).length_eq

/-- A plan that lists everything that passes a filter, in whatever order. -/
structure ListsAll (p : Plan) (filter : Option Predicate) : Prop where
  filters : p.filter = filter
  sorted : ∃ key, p.arrangement = .sorted key
  whole : p.page.isUnbounded

lemma ListsAll.length_apply {p : Plan} (hp : p.ListsAll filter) (rows : List E) :
    (p.page.apply (p.chosen s rows)).length = rows.countP (passes s filter) := by
  obtain ⟨rfl, ⟨key, harrangement⟩, hwhole⟩ := hp
  rw [Page.apply_of_isUnbounded hwhole, chosen, harrangement]
  simp only [length_arrange, kept, List.length_map, List.countP_eq_length_filter]

lemma ListsAll.effectiveProjection {p : Plan} (hp : p.ListsAll filter) :
    p.effectiveProjection = p.projection := by
  obtain ⟨key, harrangement⟩ := hp.sorted
  rw [Plan.effectiveProjection, harrangement]

end Plan

/-! ### Searching fewer rows -/

lemma Event.read_mem_loop {α : Type} {body : α → List (Event E)} {items : List α} {e : E}
    {f : FieldRef} : .read e f ∈ loop body items ↔ ∃ x ∈ items, .read e f ∈ body x := by
  have hbody (i : ℕ) (x : α) :
      .read e f ∈ (if i % checkInterval = 0 then .checkpoint :: body x else body x) ↔
        .read e f ∈ body x := by
    split <;> simp
  simp only [loop, List.mem_flatten, List.mem_mapIdx, List.mem_iff_getElem (l := items)]
  constructor
  · rintro ⟨_, ⟨i, hi, rfl⟩, hread⟩
    exact ⟨items[i], ⟨i, hi, rfl⟩, (hbody i _).1 hread⟩
  · rintro ⟨_, ⟨i, hi, rfl⟩, hread⟩
    exact ⟨_, ⟨i, hi, rfl⟩, (hbody i _).2 hread⟩

namespace MemoryStore

variable {m : MemoryStore E}

/-- No handle is signalled while the rows that pass a filter are looked for. -/
def Undisturbed (s : Schema E) (filter : Option Predicate) (m : MemoryStore E)
    (cancel : Option (Handle E)) : Prop :=
  ∀ h ∈ cancel, h.Silent (Plan.matchingEvents s filter m.rows)

/-- The store without the rows that pass a filter. The others stay in their order. -/
def without (s : Schema E) (filter : Option Predicate) (m : MemoryStore E) : MemoryStore E :=
  { m with rows := m.rows.filter fun e => !Plan.passes s filter e }

lemma Undisturbed.without (h : Undisturbed s filter m cancel) :
    Undisturbed s filter (m.without s filter) cancel := by
  intro handle hhandle
  obtain ⟨hsignalled, htrips⟩ := h handle hhandle
  refine ⟨hsignalled, fun e f hread => htrips e f ?_⟩
  obtain ⟨row, hrow, hread⟩ := Event.read_mem_loop.1 hread
  exact Event.read_mem_loop.2 ⟨row, (List.mem_filter.1 hrow).1, hread⟩

lemma length_without (s : Schema E) (filter : Option Predicate) (m : MemoryStore E) :
    (m.without s filter).rows.length + m.rows.countP (Plan.passes s filter) = m.rows.length := by
  rw [List.length_eq_countP_add_countP (Plan.passes s filter) (l := m.rows), Nat.add_comm]
  simp only [without, ← List.countP_eq_length_filter, Bool.not_eq_true, Bool.decide_eq_false]

lemma countP_without (s : Schema E) (filter : Option Predicate) (m : MemoryStore E) :
    (m.without s filter).rows.countP (Plan.passes s filter) = 0 := by
  refine List.countP_eq_zero.2 fun e he => ?_
  simpa using (List.mem_filter.1 he).2

lemma without_without : (m.without s filter).without s filter = m.without s filter := by
  simp only [without, List.filter_filter, Bool.and_self]

lemma count_of_undisturbed (h : Undisturbed s filter m cancel) :
    count s m.rows filter cancel = ⟨.ok (m.rows.countP (Plan.passes s filter)), false⟩ := by
  unfold count matching
  rw [watch_of_silent h]
  show (⟨.ok (Rows.positions s filter m.rows).length, cancel.any Handle.signalled⟩ : Answer ℕ) = _
  rw [Rows.length_positions, any_signalled_of_silent h]

lemma deleteWhere_of_undisturbed (h : Undisturbed s filter m cancel) :
    deleteWhere s filter cancel m.rows =
      (⟨.ok (m.rows.countP (Plan.passes s filter)), false⟩, (m.without s filter).rows) := by
  rw [deleteWhere_eq, watch_of_silent h]
  simp only [any_signalled_of_silent h, without]

variable [Entity E]

/-! ### Sessions -/

/-- A number that all work in a session comes to that looks for the rows that pass a filter. -/
structure Tallies (s : Schema E) (filter : Option Predicate) (m : MemoryStore E) (n : ℕ) :
    Prop where
  deleted : ∀ cancel, Undisturbed s filter m cancel →
    ((backend s).deleteWhere filter cancel).run m = (⟨.ok n, false⟩, m.without s filter)
  counted : ∀ cancel, Undisturbed s filter m cancel →
    ((backend s).count filter cancel).run m = (⟨.ok n, false⟩, m)
  listed : ∀ (p : Plan) cancel hits, p.ListsAll filter →
    (((backend s).fetch p cancel).run m).1.result = .ok hits → hits.length = n
  /-- A listing of whole entities is answered. -/
  answered : ∀ (p : Plan) cancel, p.ListsAll filter → p.projection = none →
    (∀ h ∈ cancel, h.Silent (p.events s m.rows)) →
    ∃ hits, ((backend s).fetch p cancel).run m = (⟨.ok hits, false⟩, m)
  changed : ∀ mutation cancel k,
    (((backend s).updateWhere filter mutation cancel).run m).1.result = .ok k → k = n

lemma tallies (s : Schema E) (filter : Option Predicate) (m : MemoryStore E) :
    Tallies s filter m (m.rows.countP (Plan.passes s filter)) where
  deleted := by
    intro cancel hcancel
    show onRows (deleteWhere s filter cancel) m = _
    simp only [onRows, deleteWhere_of_undisturbed hcancel]
    rfl
  counted := by
    intro cancel hcancel
    show (count s m.rows filter cancel, m) = _
    rw [count_of_undisturbed hcancel]
  listed := by
    intro p cancel hits hp hhits
    obtain ⟨hvalid, hexecute⟩ := execute_of_fetch_eq_ok hhits
    rw [Plan.execute_eq s hvalid] at hexecute
    rw [← (Result.mapM_eq_ok_iff.1 hexecute).length_eq, hp.length_apply]
  answered := by
    intro p cancel hp hplain hcancel
    have hunprojected := hp.effectiveProjection.trans hplain
    refine ⟨p.page.apply ((p.chosen s m.rows).map .entity), ?_⟩
    show (fetch s m.rows p cancel, m) = _
    rw [fetch, Plan.validate_of_unprojected hunprojected,
      Plan.execute_of_unprojected s hunprojected]
    show (watched cancel _ _, m) = _
    rw [watched_of_silent hcancel]
    rfl
  changed := by
    intro mutation cancel k hk
    exact (mutated_of_updateWhere_ok hk).2

/-! ### Requests -/

open Repository

/-- A number that the requests to a repository come to whose filters resolve to a filter. -/
structure Totals (s : Schema E) (settings : RepositorySettings) (filters : Option FilterList)
    (filter : Option Predicate) (m : MemoryStore E) (n : ℕ) : Prop where
  deleted : ∀ cancel, Undisturbed s filter m cancel →
    ((repository s settings).deleteWhere filters cancel).run.run m = (.ok n, m.without s filter)
  counted : ∀ cancel, Undisturbed s filter m cancel →
    ((repository s settings).count filters cancel).run.run m = (.ok n, m)
  listed : ∀ request l cancel hits m', Listing.ofRequest s request = .ok l →
    (l.plan s settings).ListsAll filter →
    ((repository s settings).getItems request cancel).run.run m = (.ok hits, m') →
    hits.length = n
  changed : ∀ (request : ChangeRequest) cancel k m', request.filters = filters →
    ((repository s settings).updateWhere request cancel).run.run m = (.ok k, m') → k = n

/-- Work in a session is what requests come to, once they are resolved and a session is free. -/
lemma totals {settings : RepositorySettings} {filters : Option FilterList}
    (hfilters : filters.mapM (Predicate.ofList s) = .ok filter) (hfree : m.free ≠ 0) :
    Totals s settings filters filter m (m.rows.countP (Plan.passes s filter)) where
  deleted := by
    intro cancel hcancel
    rw [Repository.deleteWhere_eq, hfilters, resolved_ok_bind, run_pooled, if_neg hfree,
      run_answered, deleteWhere_of_undisturbed hcancel]
    rfl
  counted := by
    intro cancel hcancel
    rw [count_eq, hfilters, resolved_ok_bind, run_pooled, if_neg hfree, counted, run_answered,
      count_of_undisturbed hcancel]
    rfl
  listed := by
    intro request l cancel hits m' hl hall h
    rw [getItems_of_resolved (r := repository s settings) hl cancel] at h
    rw [← (Paged.forall₂_of_query h).length_eq]
    exact hall.length_apply m.rows
  changed := by
    rintro request cancel k m' rfl h
    rw [Repository.updateWhere_eq] at h
    cases hc : BulkChange.ofRequest s request with
    | error e => rw [hc] at h; cases h
    | ok c =>
      rw [hc, resolved_ok_bind] at h
      obtain ⟨hfilter, -⟩ := ChangeRequest.ofChanges_of_ofRequest hc
      obtain rfl := Except.ok.inj (hfilters.symm.trans hfilter)
      obtain ⟨rows, hwork, -⟩ := of_run_pooled_ok h
      exact (mutated_of_updateWhere_ok (of_run_answered_ok hwork).1).2

/-- **Deleting removes exactly the rows that pass.** The number that is told is that of the rows
that went. Counting, listing everything and a change that succeeds come to the same number before,
and to nothing after that, when there is nothing left to delete either; so do requests. -/
theorem removes_deleteWhere (hcancel : Undisturbed s filter m cancel) :
    ∃ n, ((backend s).deleteWhere filter cancel).run m = (⟨.ok n, false⟩, m.without s filter) ∧
      (m.without s filter).rows.length + n = m.rows.length ∧
      Tallies s filter m n ∧ Tallies s filter (m.without s filter) 0 ∧
      ((backend s).deleteWhere filter cancel).run (m.without s filter) =
        (⟨.ok 0, false⟩, m.without s filter) ∧
      ∀ settings filters, filters.mapM (Predicate.ofList s) = .ok filter → m.free ≠ 0 →
        Totals s settings filters filter m n ∧
          Totals s settings filters filter (m.without s filter) 0 := by
  have hbefore := tallies s filter m
  have hafter := tallies s filter (m.without s filter)
  have hagain := hafter.deleted cancel hcancel.without
  rw [without_without] at hagain
  rw [countP_without] at hafter hagain
  refine ⟨_, hbefore.deleted cancel hcancel, length_without s filter m, hbefore, hafter, hagain,
    fun settings filters hfilters hfree => ⟨totals hfilters hfree, ?_⟩⟩
  rw [← countP_without s filter m]
  exact totals hfilters hfree

/-- Of three tasks the two that are done are deleted, and nothing is done then. -/
theorem removes_done_tasks :
    let s : Schema Slots := ⟨"Task", Samples.task.draft.fields, [], [], none⟩
    let task (title : String) (done : Bool) : Slots :=
      ⟨.fresh Uuid.nil Instant.epoch, [.text title, .null, .null, .null, .null, .bool done], [],
        none⟩
    let m : MemoryStore Slots :=
      ⟨[task "sow" true, task "mow" false, task "dig" true], .usual, 0⟩
    let filters : Option FilterList := some (.all [.equal "done" "true"])
    let filter : Option Predicate := some (.compare ⟨10, "Done"⟩ .equal (.bool true))
    let left : MemoryStore Slots := { m with rows := [task "mow" false] }
    filters.mapM (Predicate.ofList s) = .ok filter ∧ m.free ≠ 0 ∧
      Undisturbed s filter m (some .quiet) ∧
      ((backend s).deleteWhere filter (some .quiet)).run m = (⟨.ok 2, false⟩, left) ∧
      Tallies s filter m 2 ∧ Tallies s filter left 0 ∧
      Totals s .usual filters filter m 2 ∧ Totals s .usual filters filter left 0 := by
  intro s task m filters filter left
  have resolved : filters.mapM (Predicate.ofList s) = .ok filter := rfl
  have free : m.free ≠ 0 := by decide
  have undisturbed : Undisturbed s filter m (some .quiet) := by
    rintro h ⟨⟩
    exact ⟨rfl, fun _ _ _ => rfl⟩
  have removed : m.without s filter = left := rfl
  obtain ⟨n, run, length, before, after, -, requests⟩ := removes_deleteWhere undisturbed
  obtain ⟨totals, totals'⟩ := requests .usual filters resolved free
  obtain rfl : n = 2 := by
    have hlength : 1 + n = 3 := length
    omega
  rw [removed] at run after totals'
  exact ⟨resolved, free, undisturbed, run, before, after, totals, totals'⟩

end MemoryStore

end EntityQuery
