import EntityQuery.Proofs.Repository.Operations

/-!
What operations resolve before they ask a backend for anything. An operation is malformed if a part
of its request does not resolve, or if its plan contradicts itself; then it ends with this error of
the description, and the state of the backend stays as it was. Main statements:
`fails_resolution_iff` and `run_of_resolution_eq_error`.
-/

namespace EntityQuery

variable {E σ α β : Type}

open Result Repository

namespace Repository

lemma run_resolved_of_error {x : Except QueryError α} {next : α → Action σ β} {e : QueryError}
    (h : Functor.discard x = .error e) (m : σ) :
    (resolved x >>= next).run.run m = (.error (.query e), m) := by
  rw [map_eq_error_iff.1 h]
  rfl

lemma run_resolved_of_ok {x : Except QueryError α} {next : α → Action σ β} {a : α}
    (h : x = .ok a) (m : σ) : (resolved x >>= next).run.run m = (next a).run.run m := by
  rw [h]
  rfl

lemma run_bind_of_error {a : Action σ α} {next : α → Action σ β} {m m' : σ} {e : StorageError}
    (h : a.run.run m = (.error e, m')) : (a >>= next).run.run m = (.error e, m') := by
  rw [run_bind, h]

lemma run_discard_of_error {a : Action σ α} {m m' : σ} {e : StorageError}
    (h : a.run.run m = (.error e, m')) : (Functor.discard a).run.run m = (.error e, m') := by
  show (a >>= fun _ => pure ()).run.run m = _
  exact run_bind_of_error h

end Repository

namespace Write

/-- Some part of the write does not resolve. -/
def Malformed (s : Schema E) : Write E → Prop
  | .update _ id _ | .delete id => Fails (byId s id)
  | .updateWhere request _ =>
    Fails (request.filters.mapM (Predicate.ofList s)) ∨ Fails (Mutation.ofChanges s request.changes)
  | .deleteWhere filters _ => Fails (filters.mapM (Predicate.ofList s))
  | .insert .. | .bulkInsert .. | .executeUpdate .. => False

/-- What a write resolves before it asks the backend for anything. -/
def resolution (s : Schema E) : Write E → Except QueryError Unit
  | .update _ id _ | .delete id => Functor.discard (byId s id)
  | .updateWhere request _ => Functor.discard (BulkChange.ofRequest s request)
  | .deleteWhere filters _ => Functor.discard (filters.mapM (Predicate.ofList s))
  | .insert .. | .bulkInsert .. | .executeUpdate .. => pure ()

end Write

namespace Operation

/-- Some part of the operation does not resolve, or its plan contradicts itself. -/
def Malformed (s : Schema E) : Operation E → Prop
  | .write w => w.Malformed s
  | .query p _ => Fails p.validate
  | .getItems request _ =>
    Fails (Listing.predicate s request) ∨ Fails (s.includes (request.includes.getD [])) ∨
      Fails (request.order.mapM (SortKey.ofRule s)) ∨
      Fails (request.selection.mapM (Projection.ofSelection s))
  | .groupByDistinct request _ =>
    Fails (request.filters.mapM (Predicate.ofList s)) ∨
      Fails (GroupKey.ofName s request.group.property) ∨
      Fails (request.group.order.mapM (SortKey.ofRule s)) ∨
      Fails (request.group.selection.mapM (Projection.ofSelection s))
  | .get id includes => Fails (byId s id) ∨ Fails (s.includes includes)
  | .getSelect id request =>
    Fails (s.includes (request.includes.getD [])) ∨
      Fails (request.selection.mapM (Projection.ofSelection s)) ∨ Fails (byId s id)
  | .first filters _ | .count filters _ => Fails (filters.mapM (Predicate.ofList s))
  | .queryItems .. | .getAll _ => False

/-- What an operation resolves before it asks the backend for anything. -/
def resolution (s : Schema E) : Operation E → Except QueryError Unit
  | .write w => w.resolution s
  | .query p _ => p.validate
  | .getItems request _ => Functor.discard (Listing.ofRequest s request)
  | .groupByDistinct request _ => Functor.discard (Grouping.ofRequest s request)
  | .get id includes => do
    Functor.discard (byId s id)
    Functor.discard (s.includes includes)
  | .getSelect id request => do
    Functor.discard (Lookup.ofRequest s request)
    Functor.discard (byId s id)
  | .first filters _ | .count filters _ =>
    Functor.discard (filters.mapM (Predicate.ofList s))
  | .queryItems .. | .getAll _ => pure ()

end Operation

/-! ### Parts -/

variable {s : Schema E}

lemma Write.fails_resolution_iff (w : Write E) : Fails (w.resolution s) ↔ w.Malformed s := by
  cases w with
  | update | delete | deleteWhere => exact fails_map_iff
  | updateWhere => exact fails_map_iff.trans (fails_bind_iff fun _ => fails_map_iff)
  | insert | bulkInsert | executeUpdate => exact fails_pure_iff

/-- An operation resolves if each of its parts does, in whatever order they are looked at. -/
lemma Operation.fails_resolution_iff (op : Operation E) :
    Fails (op.resolution s) ↔ op.Malformed s := by
  cases op with
  | write w => exact w.fails_resolution_iff
  | query => exact Iff.rfl
  | getItems =>
    exact fails_map_iff.trans (fails_bind_iff fun _ => fails_bind_iff fun _ =>
      fails_bind_iff fun _ => fails_map_iff)
  | groupByDistinct =>
    exact fails_map_iff.trans (fails_bind_iff fun _ => fails_bind_iff fun _ =>
      fails_map_iff.trans (fails_bind_iff fun _ => fails_map_iff))
  | get => exact (fails_bind_iff fun _ => fails_map_iff).trans (or_congr_left fails_map_iff)
  | getSelect id request =>
    have hlookup : Fails (Functor.discard (Lookup.ofRequest s request)) ↔
        Fails (s.includes (request.includes.getD [])) ∨
          Fails (request.selection.mapM (Projection.ofSelection s)) :=
      fails_map_iff.trans (fails_bind_iff fun _ => fails_map_iff)
    exact (fails_bind_iff fun _ => fails_map_iff).trans ((or_congr_left hlookup).trans or_assoc)
  | first | count => exact fails_map_iff
  | queryItems | getAll => exact fails_pure_iff

/-! ### Refusals -/

section Refusals

variable [Entity E] (backend : Backend E σ) (settings : RepositorySettings)

lemma Write.run_of_resolution_eq_error {w : Write E} {e : QueryError}
    (h : w.resolution s = .error e) (m : σ) :
    (w.run ⟨s, backend, settings⟩).run.run m = (.error (.query e), m) := by
  cases w with
  | update | updateWhere | deleteWhere => exact run_discard_of_error (run_resolved_of_error h m)
  | delete id => exact run_resolved_of_error h m
  | insert | bulkInsert | executeUpdate => cases h

lemma Operation.run_of_resolution_eq_error {op : Operation E} {e : QueryError}
    (h : op.resolution s = .error e) (m : σ) :
    (op.run ⟨s, backend, settings⟩).run.run m = (.error (.query e), m) := by
  cases op with
  | write w => exact w.run_of_resolution_eq_error backend settings h m
  | query p cancel => exact run_discard_of_error (run_resolved_of_error (congrArg _ h) m)
  | getItems | groupByDistinct | first | count =>
    exact run_discard_of_error (run_resolved_of_error h m)
  | get id includes =>
    refine run_discard_of_error ?_
    rcases bind_eq_error_iff.1 h with hid | ⟨_, hid, hincludes⟩
    · exact run_resolved_of_error hid m
    · obtain ⟨filter, hfilter, -⟩ := map_eq_ok_iff.1 hid
      exact (run_resolved_of_ok hfilter m).trans (run_resolved_of_error hincludes m)
  | getSelect id request =>
    refine run_discard_of_error ?_
    rcases bind_eq_error_iff.1 h with hlookup | ⟨_, hlookup, hid⟩
    · exact run_resolved_of_error hlookup m
    · obtain ⟨lookup, hok, -⟩ := map_eq_ok_iff.1 hlookup
      exact (run_resolved_of_ok hok m).trans (run_resolved_of_error hid m)
  | queryItems | getAll => cases h

end Refusals

end EntityQuery
