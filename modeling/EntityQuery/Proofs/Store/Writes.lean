import EntityQuery.Store.Memory
import EntityQuery.Proofs.Store.Positions

/-!
The writes of the store in closed form: a write has candidate rows and the positions it changed,
and ends with the candidate if no changed entity clashes in it, and with the old rows otherwise.
Whatever a write did to the rows before it failed is undone.
-/

namespace EntityQuery.MemoryStore

variable {E : Type} [Entity E]

/-- How a write with candidate rows ends. -/
def settled {α : Type} (s : Schema E) (rows candidate : List E) (changed : List ℕ) (x : α) :
    Except StorageError α × List E :=
  match Rows.clash? s candidate changed with
  | some key => (.error (violation s key), rows)
  | none => (.ok x, candidate)

lemma settled_of_error {α : Type} {s : Schema E} {rows candidate : List E} {changed : List ℕ}
    {x : α} {e : StorageError} (h : (settled s rows candidate changed x).1 = .error e) :
    (settled s rows candidate changed x).2 = rows := by
  unfold settled at h ⊢
  split at h
  · rfl
  · cases h

variable (s : Schema E)

/-- Cutting back what was appended leaves the old rows. -/
theorem insert_eq (new rows : List E) :
    insert s new rows =
      settled s rows (rows ++ new) (List.range' rows.length new.length) () := by
  cases hclash : Rows.clash? s (rows ++ new) (List.range' rows.length new.length) with
  | none => simp only [insert, settled, hclash]
  | some key => simp only [insert, settled, hclash, List.take_left' rfl]

/-- The displaced entity returns to its place. -/
theorem replace_eq (e : E) (rows : List E) :
    replace s e rows =
      match rows.findIdx? fun r => Entity.id r == Entity.id e with
      | none => (.ok false, rows)
      | some i => settled s rows (rows.set i e) [i] true := by
  unfold replace
  cases h : rows.findIdx? fun r => Entity.id r == Entity.id e with
  | none => rfl
  | some i =>
    obtain ⟨hi, -⟩ := List.findIdx?_eq_some_iff_getElem.1 h
    have back := Rows.place_exchange rows [(i, e)] (by simp) (by simpa using hi)
    simp only [List.map_cons, List.map_nil, Rows.exchange_snd] at back
    simp only [settled, Rows.exchange_snd, back]
    rfl

/-- The displaced entities return to their places. -/
theorem update_eq (filter : Option Predicate) (m : Mutation) (rows : List E) :
    update s m (Rows.positions s filter rows) rows =
      match Rows.mutated s filter m rows with
      | .error e => (.error (.query e), rows)
      | .ok candidate =>
        settled s rows candidate (Rows.positions s filter rows)
          (rows.countP (Plan.passes s filter)) := by
  unfold update
  rw [← Rows.place_rewritten]
  cases h : Rows.rewritten s m rows (Rows.positions s filter rows) with
  | error e => rfl
  | ok updated =>
    have hlen : (Rows.positions s filter rows).length = updated.length := by
      rw [Rows.rewritten_positions, Result.mapM_eq_ok_iff] at h
      rw [Rows.length_positions, List.countP_eq_length_filter, h.length_eq]
    have hfst : ((Rows.positions s filter rows).zip updated).map Prod.fst =
        Rows.positions s filter rows := List.map_fst_zip (Nat.le_of_eq hlen)
    have back := Rows.place_exchange rows ((Rows.positions s filter rows).zip updated)
      (by rw [hfst]; exact Rows.nodup_positions s filter rows)
      (by rw [hfst]; exact fun i hi => Rows.lt_length_of_mem_positions s filter hi)
    rw [hfst, Rows.exchange_snd] at back
    simp only [settled, Rows.exchange_snd, back, Rows.length_positions]
    rfl

omit [Entity E] in
/-- The search for the rows decides whether anything is deleted. -/
theorem deleteWhere_eq (filter : Option Predicate) (cancel : Option (Handle E)) (rows : List E) :
    deleteWhere s filter cancel rows =
      match watch cancel (Plan.matchingEvents s filter rows) with
      | .error e => (⟨.error e, true⟩, rows)
      | .ok cancel =>
        (⟨.ok (rows.countP (Plan.passes s filter)), cancel.any Handle.signalled⟩,
          rows.filter fun e => !Plan.passes s filter e) := by
  unfold deleteWhere matching
  cases watch cancel (Plan.matchingEvents s filter rows) with
  | error e => rfl
  | ok cancel =>
    rw [← Rows.length_positions, ← Rows.remove_positions]
    rfl

/-- The rows and the result of a change are those of the update of the rows that pass, unless the
search for them is interrupted. -/
theorem updateWhere_eq (filter : Option Predicate) (m : Mutation) (cancel : Option (Handle E))
    (rows : List E) :
    ((updateWhere s filter m cancel rows).1.result, (updateWhere s filter m cancel rows).2) =
      match watch cancel (Plan.matchingEvents s filter rows) with
      | .error e => (.error e, rows)
      | .ok _ => update s m (Rows.positions s filter rows) rows := by
  unfold updateWhere matching
  cases watch cancel (Plan.matchingEvents s filter rows) <;> rfl

variable {s}

lemma mutated_of_updateWhere_ok {filter : Option Predicate} {m : Mutation}
    {cancel : Option (Handle E)} {rows : List E} {n : ℕ}
    (h : (updateWhere s filter m cancel rows).1.result = .ok n) :
    Rows.mutated s filter m rows = .ok (updateWhere s filter m cancel rows).2 ∧
      n = rows.countP (Plan.passes s filter) := by
  have heq := updateWhere_eq s filter m cancel rows
  rw [h] at heq
  split at heq
  · cases heq
  · rw [update_eq] at heq
    cases hmutated : Rows.mutated s filter m rows with
    | error e => rw [hmutated] at heq; cases heq
    | ok candidate =>
      rw [hmutated] at heq
      simp only [settled] at heq
      split at heq
      · cases heq
      · rw [Prod.mk.injEq, Except.ok.injEq] at heq
        exact ⟨congrArg Except.ok heq.2.symm, heq.1⟩

end EntityQuery.MemoryStore
