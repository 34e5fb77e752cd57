import EntityQuery.Proofs.Plan.Execution
import EntityQuery.Proofs.Repository.Resolution
import EntityQuery.Slots

/-!
Operations whose handle is signalled beforehand. Each operation that takes a handle begins with a
search of the rows, and the search looks at the handle in front of the first row. So the operation
is cancelled before it does anything, unless there are no rows: then nobody looks, and it has its
usual answer. Main statement: `cancelled_of_signalled`.
-/

namespace EntityQuery

variable {E α β : Type}

open Result Repository

/-! ### The first checkpoint -/

lemma Handle.follow_loop_of_signalled {h : Handle E} (hh : h.signalled) {body : α → List (Event E)}
    {items : List α} (hitems : items ≠ []) (rest : List (Event E)) :
    h.follow (Event.loop body items ++ rest) = none := by
  obtain ⟨x, items, rfl⟩ := List.exists_cons_of_ne_nil hitems
  rw [Event.loop, List.mapIdx_cons, if_pos (Nat.zero_mod _), List.flatten_cons]
  exact if_pos hh

namespace Plan

lemma page_nil (p : Page) : p.apply ([] : List α) = [] := by
  unfold Page.apply
  split <;> simp

lemma events_nil (s : Schema E) (p : Plan) : p.events s [] = [] := by
  obtain ⟨includes, filter, arrangement, projection, page⟩ := p
  have hloop {α : Type} {body : α → List (Event E)} {ends : α → Bool} :
      Event.loop body (Event.upTo ends (page.apply [])) = [] := by
    rw [page_nil]
    rfl
  rcases arrangement with (_ | key) | ⟨key, r⟩
  · exact hloop
  · exact hloop
  · exact hloop

lemma execute_nil (s : Schema E) {p : Plan} (hp : p.validate = .ok ()) :
    p.execute s [] = .ok [] := by
  have hchosen : p.chosen s [] = [] := by
    unfold chosen
    rcases p.arrangement with (_ | key) | ⟨key, r⟩ <;> rfl
  rw [execute_eq s hp, hchosen, page_nil]
  rfl

end Plan

namespace MemoryStore

variable {h : Handle E} {rows : List E}

lemma watch_of_signalled (hh : h.signalled) (hrows : rows ≠ []) (s : Schema E)
    (filter : Option Predicate) (rest : List (Event E)) :
    watch (some h) (Plan.matchingEvents s filter rows ++ rest) = .error interrupted := by
  rw [watch, Plan.matchingEvents, Handle.follow_loop_of_signalled hh hrows]

lemma matching_of_signalled (hh : h.signalled) (hrows : rows ≠ []) (s : Schema E)
    (filter : Option Predicate) : matching s rows filter (some h) = .error interrupted := by
  have hwatch := watch_of_signalled hh hrows s filter []
  rw [List.append_nil] at hwatch
  rw [matching, hwatch]
  rfl

end MemoryStore

namespace Repository

/-! ### Work on rows -/

/-- How work ends that looks at a signalled handle in front of the first row. -/
def stopped (rows : List E) : Except StorageError Unit :=
  if rows.isEmpty then .ok () else .error .cancelled

/-- Work that a signalled handle stops in front of the first row. In any case it leaves the rows
alone. -/
def Stops (work : Action (List E) α) : Prop :=
  ∀ rows, (Functor.discard work).run.run rows = (stopped rows, rows)

lemma run_discard_of_ok {σ : Type} {a : Action σ α} {m m' : σ} {x : α}
    (h : a.run.run m = (.ok x, m')) : (Functor.discard a).run.run m = (.ok (), m') := by
  show (a >>= fun _ => pure ()).run.run m = _
  rw [run_bind, h]
  rfl

lemma stops_answered {work : List E → Answer α × List E} {x : α}
    (hrows : ∀ rows, rows ≠ [] → work rows = (⟨.error MemoryStore.interrupted, true⟩, rows))
    (hnil : (work []).1.result = .ok x ∧ (work []).2 = []) : Stops (answered work) := by
  intro rows
  cases rows with
  | nil =>
    refine run_discard_of_ok (x := x) ?_
    rw [run_answered, hnil.1, hnil.2]
    rfl
  | cons e rows =>
    refine run_discard_of_error ?_
    rw [run_answered, hrows _ (List.cons_ne_nil e rows)]
    rfl

section Work

variable {h : Handle E} (hh : h.signalled) (s : Schema E)

include hh

lemma stops_fetched {p : Plan} (hp : p.validate = .ok ()) : Stops (fetched s p (some h)) := by
  refine stops_answered (x := []) (fun rows hrows => ?_) ⟨?_, rfl⟩
  · rw [MemoryStore.fetch, hp]
    -- the search comes first, so what a plan makes of the rows does not matter
    show (MemoryStore.watched (some h) (p.events s rows) _, rows) = _
    rw [MemoryStore.watched, Plan.events, MemoryStore.watch_of_signalled hh hrows]
  · rw [MemoryStore.fetch, hp]
    show (MemoryStore.watched (some h) (p.events s []) _).result = _
    rw [Plan.events_nil, Plan.execute_nil s hp]
    rfl

lemma stops_counted (filter : Option Predicate) : Stops (counted s filter (some h)) := by
  refine stops_answered (x := 0) (fun rows hrows => ?_) ⟨rfl, rfl⟩
  rw [MemoryStore.count, MemoryStore.matching_of_signalled hh hrows]

lemma stops_deleted (filter : Option Predicate) :
    Stops (answered (MemoryStore.deleteWhere s filter (some h))) := by
  refine stops_answered (x := 0) (fun rows hrows => ?_) ⟨rfl, rfl⟩
  rw [MemoryStore.deleteWhere, MemoryStore.matching_of_signalled hh hrows]

lemma stops_updated [Entity E] (c : BulkChange) :
    Stops (answered (MemoryStore.updateWhere s c.filter c.mutation (some h))) := by
  refine stops_answered (x := 0) (fun rows hrows => ?_) ⟨rfl, rfl⟩
  rw [MemoryStore.updateWhere, MemoryStore.matching_of_signalled hh hrows]

end Work

/-! ### In the store -/

lemma Stops.run_pooled {work : Action (List E) α} (hwork : Stops work) {m : MemoryStore E}
    (hm : m.free ≠ 0) : (Functor.discard (pooled work)).run.run m = (stopped m.rows, m) := by
  have hdiscard : Functor.discard (pooled work) = pooled (Functor.discard work) := by
    exact pooled_bind work fun _ => pure ()
  rw [hdiscard, Repository.run_pooled, if_neg hm, hwork]

lemma run_discard_resolved {σ : Type} {x : Except QueryError α} {next : α → Action σ β} {a : α}
    (h : x = .ok a) (m : σ) :
    (Functor.discard (resolved x >>= next)).run.run m = (Functor.discard (next a)).run.run m := by
  rw [h]
  rfl

/-- What is made of a result does not matter where the result is left out. -/
lemma run_discard_bind_pure {σ : Type} (a : Action σ α) (f : α → β) (m : σ) :
    (Functor.discard (a >>= fun x => pure (f x))).run.run m = (Functor.discard a).run.run m := by
  show (a >>= (fun x => pure (f x)) >>= fun _ => pure ()).run.run m = _
  rw [bind_assoc]
  rfl

lemma run_query_of_signalled [Entity E] {s : Schema E} (settings : RepositorySettings) {p : Plan}
    (hp : p.validate = .ok ()) {h : Handle E} (hh : h.signalled) {m : MemoryStore E}
    (hm : m.free ≠ 0) :
    (Functor.discard ((MemoryStore.repository s settings).query p (some h))).run.run m =
      (stopped m.rows, m) := by
  rw [query_eq, run_discard_resolved hp]
  exact (stops_fetched hh s hp).run_pooled hm

end Repository

/-! ### Operations -/

/-- The handle that a write is given. -/
def Write.handle? : Write E → Option (Handle E)
  | .updateWhere _ cancel | .executeUpdate _ cancel | .deleteWhere _ cancel => cancel
  | .insert .. | .bulkInsert .. | .update .. | .delete _ => none

lemma Write.run_of_signalled [Entity E] {s : Schema E} (settings : RepositorySettings)
    {w : Write E} (hw : w.resolution s = .ok ()) {h : Handle E} (hhandle : w.handle? = some h)
    (hh : h.signalled) {m : MemoryStore E} (hm : m.free ≠ 0) :
    (w.run (MemoryStore.repository s settings)).run.run m = (stopped m.rows, m) := by
  cases w with
  | updateWhere request cancel =>
    obtain rfl : cancel = some h := hhandle
    obtain ⟨c, hc, -⟩ := map_eq_ok_iff.1 hw
    rw [run, updateWhere_eq, run_discard_resolved hc]
    exact (stops_updated hh s c).run_pooled hm
  | executeUpdate c cancel =>
    obtain rfl : cancel = some h := hhandle
    rw [run, executeUpdate_eq]
    exact (stops_updated hh s c).run_pooled hm
  | deleteWhere filters cancel =>
    obtain rfl : cancel = some h := hhandle
    obtain ⟨filter, hfilter, -⟩ := map_eq_ok_iff.1 hw
    rw [run, deleteWhere_eq, run_discard_resolved hfilter]
    exact (stops_deleted hh s filter).run_pooled hm
  | insert | bulkInsert | update | delete => cases hhandle

namespace Operation

/-- The handle that an operation is given. -/
def handle? : Operation E → Option (Handle E)
  | .write w => w.handle?
  | .query _ cancel | .queryItems _ cancel | .getItems _ cancel | .groupByDistinct _ cancel
  | .getAll cancel | .first _ cancel | .count _ cancel => cancel
  | .get .. | .getSelect .. => none

variable [Entity E] {s : Schema E} (settings : RepositorySettings)

/-- **A handle that is signalled beforehand cancels the operation it is given to** if there is a row
to look at, and then nothing is done: the operation may be any that takes a handle, its request any
that resolves. Without rows nobody looks at the handle, and the operation ends well. -/
theorem cancelled_of_signalled {op : Operation E} (hop : ¬ op.Malformed s) {h : Handle E}
    (hhandle : op.handle? = some h) (hh : h.signalled) {m : MemoryStore E} (hm : m.free ≠ 0) :
    (op.run (MemoryStore.repository s settings)).run.run m =
      (if m.rows.isEmpty then .ok () else .error .cancelled, m) := by
  rw [← op.fails_resolution_iff, not_fails_iff] at hop
  obtain ⟨_, hop⟩ := hop
  change _ = (stopped m.rows, m)
  have hquery {p : Plan} (hp : p.validate = .ok ()) :=
    run_query_of_signalled (s := s) settings hp hh hm
  cases op with
  | write w => exact w.run_of_signalled settings hop hhandle hh hm
  | query p cancel =>
    obtain rfl : cancel = some h := hhandle
    exact hquery hop
  | queryItems l cancel =>
    obtain rfl : cancel = some h := hhandle
    exact hquery rfl
  | getItems request cancel =>
    obtain rfl : cancel = some h := hhandle
    obtain ⟨l, hl, -⟩ := map_eq_ok_iff.1 hop
    exact (run_discard_resolved hl m).trans (hquery rfl)
  | groupByDistinct request cancel =>
    obtain rfl : cancel = some h := hhandle
    obtain ⟨g, hg, -⟩ := map_eq_ok_iff.1 hop
    exact (run_discard_resolved hg m).trans (hquery (if_neg fun h => nomatch h.2))
  | getAll cancel =>
    obtain rfl : cancel = some h := hhandle
    exact (run_discard_bind_pure _ _ m).trans (hquery rfl)
  | first filters cancel =>
    obtain rfl : cancel = some h := hhandle
    obtain ⟨filter, hfilter, -⟩ := map_eq_ok_iff.1 hop
    refine (run_discard_resolved hfilter m).trans ?_
    exact (run_discard_bind_pure _ _ m).trans (hquery rfl)
  | count filters cancel =>
    obtain rfl : cancel = some h := hhandle
    obtain ⟨filter, hfilter, -⟩ := map_eq_ok_iff.1 hop
    rw [run, count_eq, run_discard_resolved hfilter]
    exact (stops_counted hh s filter).run_pooled hm
  | get | getSelect => cases hhandle

/-- A deletion of all notes, signalled beforehand, is cancelled and leaves both of them. -/
theorem cancelled_of_two_notes :
    let s : Schema Slots := ⟨"Note", SchemaDraft.baseFields, [], [], none⟩
    let note (id : BitVec 128) : Slots :=
      ⟨{ BaseFields.fresh Uuid.nil Instant.epoch with id := ⟨id⟩ }, [], [], none⟩
    let m : MemoryStore Slots := ⟨[note 1, note 2], .usual, 0⟩
    let op : Operation Slots := .write (.deleteWhere none (some .raised))
    ¬ op.Malformed s ∧ op.handle? = some .raised ∧ Handle.signalled (.raised : Handle Slots) ∧
      m.free ≠ 0 ∧
      (op.run (MemoryStore.repository s .usual)).run.run m = (.error .cancelled, m) := by
  intro s note m op
  have resolves : ¬ op.Malformed s := not_fails_iff.2 ⟨none, rfl⟩
  have free : m.free ≠ 0 := by decide
  exact ⟨resolves, rfl, rfl, free, cancelled_of_signalled .usual resolves rfl rfl free⟩

/-- Where there are no notes, a listing that is signalled beforehand is not cancelled. -/
theorem not_cancelled_of_no_notes :
    let s : Schema Slots := ⟨"Note", SchemaDraft.baseFields, [], [], none⟩
    let m : MemoryStore Slots := .empty .usual
    let op : Operation Slots := .getItems { ListingRequest.usual with take := 1 } (some .raised)
    ¬ op.Malformed s ∧ op.handle? = some .raised ∧ Handle.signalled (.raised : Handle Slots) ∧
      m.free ≠ 0 ∧
      (op.run (MemoryStore.repository s .usual)).run.run m = (.ok (), m) ∧
      (op.run (MemoryStore.repository s .usual)).run.run m ≠ (.error .cancelled, m) := by
  intro s m op
  have resolves : ¬ op.Malformed s := op.fails_resolution_iff.not.1 (not_fails_iff.2 ⟨(), rfl⟩)
  have done : (op.run (MemoryStore.repository s .usual)).run.run m = (.ok (), m) := rfl
  refine ⟨resolves, rfl, rfl, by decide, done, ?_⟩
  rw [done]
  rintro ⟨⟩

end Operation

end EntityQuery
