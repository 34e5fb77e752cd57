import EntityQuery.Proofs.Repository.OneSession

/-!
Requests that mean nothing. An operation whose request does not resolve, or whose plan contradicts
itself, is refused with an error of the description. Whatever the backend, its state and the
caller's handle are, the error is the same and the state stays as it was; and no other operation
is refused in this way. Main statement: `malformed_iff_refused`.
-/

namespace EntityQuery

variable {E : Type} {s : Schema E}

open Result

/-- The write with another handle, if it takes one. -/
def Write.watchedBy (cancel : Option (Handle E)) : Write E → Write E
  | .updateWhere request _ => .updateWhere request cancel
  | .executeUpdate change _ => .executeUpdate change cancel
  | .deleteWhere filters _ => .deleteWhere filters cancel
  | w => w

/-- The operation with another handle, if it takes one. -/
def Operation.watchedBy (cancel : Option (Handle E)) : Operation E → Operation E
  | .write w => .write (w.watchedBy cancel)
  | .query p _ => .query p cancel
  | .queryItems l _ => .queryItems l cancel
  | .getItems request _ => .getItems request cancel
  | .groupByDistinct request _ => .groupByDistinct request cancel
  | .get id includes => .get id includes
  | .getSelect id request => .getSelect id request
  | .getAll _ => .getAll cancel
  | .first filters _ => .first filters cancel
  | .count filters _ => .count filters cancel

lemma Operation.resolution_watchedBy (op : Operation E) (cancel : Option (Handle E)) :
    (op.watchedBy cancel).resolution s = op.resolution s := by
  cases op with
  | write w => cases w <;> rfl
  | _ => rfl

/-- **An operation is malformed exactly if one error of its description refuses it everywhere: on
every backend, whatever state it is in, under all settings and with any handle; and the state
stays as it was.** -/
theorem Operation.malformed_iff_refused [Entity E] {op : Operation E} :
    op.Malformed s ↔ ∃ e : QueryError, ∀ (σ : Type) (backend : Backend E σ)
      (settings : RepositorySettings) (cancel : Option (Handle E)) (m : σ),
      ((op.watchedBy cancel).run ⟨s, backend, settings⟩).run.run m = (.error (.query e), m) := by
  rw [← op.fails_resolution_iff]
  constructor
  · rintro ⟨e, he⟩
    refine ⟨e, fun σ backend settings cancel m => ?_⟩
    exact run_of_resolution_eq_error backend settings ((op.resolution_watchedBy cancel).trans he) m
  · rintro ⟨e, he⟩
    by_contra hfine
    obtain ⟨_, hok⟩ := not_fails_iff.1 hfine
    -- a store whose sessions are all in use refuses an operation that resolves in its own words
    let exhausted : MemoryStore E := MemoryStore.empty ⟨0, 0⟩
    have hpool := (op.watchedBy none).run_of_exhausted .usual
      ((op.resolution_watchedBy none).trans hok) (m := exhausted) rfl
    have hrefused := he _ (MemoryStore.backend s) .usual none exhausted
    rw [MemoryStore.repository, hrefused] at hpool
    cases hpool

end EntityQuery
