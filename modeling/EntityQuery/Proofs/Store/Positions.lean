import EntityQuery.Store.Rows
import EntityQuery.Proofs.Results

/-!
The positions of the rows that pass a filter, and what is done with them: the rows at these
positions are the rows that pass, removing them leaves the others, and exchanging them can be
undone. Main statements: `remove_positions`, `place_exchange` and `place_rewritten`.
-/

namespace EntityQuery.Rows

variable {E : Type}

/-! ### Selection -/

section Selection

variable (s : Schema E) (filter : Option Predicate)

lemma positions_cons (e : E) (rows : List E) :
    positions s filter (e :: rows) =
      (if Plan.passes s filter e then [0] else []) ++ (positions s filter rows).map (· + 1) := by
  unfold positions
  rw [List.length_cons, List.range_succ_eq_map, List.filter_cons, List.filter_map]
  have tail : ((fun i => (e :: rows)[i]?.any (Plan.passes s filter)) ∘ Nat.succ) =
      fun i => rows[i]?.any (Plan.passes s filter) := by
    funext i
    simp
  rw [tail]
  by_cases h : Plan.passes s filter e <;> simp [h]

lemma mem_positions {rows : List E} {i : ℕ} :
    i ∈ positions s filter rows ↔ ∃ e, rows[i]? = some e ∧ Plan.passes s filter e := by
  unfold positions
  rw [List.mem_filter, List.mem_range, Option.any_eq_true]
  constructor
  · rintro ⟨-, h⟩
    exact h
  · rintro ⟨e, he, h⟩
    exact ⟨(List.getElem?_eq_some_iff.1 he).1, e, he, h⟩

lemma lt_length_of_mem_positions {rows : List E} {i : ℕ} (h : i ∈ positions s filter rows) :
    i < rows.length := by
  obtain ⟨e, he, -⟩ := (mem_positions s filter).1 h
  exact (List.getElem?_eq_some_iff.1 he).1

lemma nodup_positions (rows : List E) : (positions s filter rows).Nodup :=
  List.nodup_range.filter _

lemma length_positions (rows : List E) :
    (positions s filter rows).length = rows.countP (Plan.passes s filter) := by
  induction rows with
  | nil => rfl
  | cons e rows ih =>
    rw [positions_cons, List.length_append, List.length_map, ih, List.countP_cons]
    split <;> simp [Nat.add_comm]

lemma filterMap_positions (rows : List E) :
    (positions s filter rows).filterMap (rows[·]?) = rows.filter (Plan.passes s filter) := by
  induction rows with
  | nil => rfl
  | cons e rows ih =>
    rw [positions_cons, List.filterMap_append, List.filterMap_map, List.filter_cons]
    have tail : (fun i => (e :: rows)[i]?) ∘ (· + 1) = fun i => rows[i]? := by
      funext i
      simp
    rw [tail, ih]
    split <;> simp

/-! ### Removal -/

/-- Removal goes through the rows once, so the positions are counted from where it stands. -/
lemma removeFrom_positions (rows : List E) (i : ℕ) :
    removeFrom i ((positions s filter rows).map (· + i)) rows =
      rows.filter fun e => !Plan.passes s filter e := by
  induction rows generalizing i with
  | nil => cases (positions s filter ([] : List E)).map (· + i) <;> rfl
  | cons e rows ih =>
    have next : ((positions s filter rows).map (· + 1)).map (· + i) =
        (positions s filter rows).map (· + (i + 1)) := by
      rw [List.map_map]
      exact List.map_congr_left fun j _ => by simp only [Function.comp]; omega
    rw [positions_cons, List.map_append, next, List.filter_cons]
    by_cases h : Plan.passes s filter e
    · simpa [h, removeFrom] using ih (i + 1)
    · simp only [h, Bool.false_eq_true, if_false, List.map_nil, List.nil_append, Bool.not_false,
        if_true]
      rw [← ih (i + 1)]
      -- every position that is left lies behind the entity that stays
      cases hp : (positions s filter rows).map (· + (i + 1)) with
      | nil => cases rows <;> rfl
      | cons j rest =>
        have hj : j ∈ (positions s filter rows).map (· + (i + 1)) := by rw [hp]; simp
        obtain ⟨k, -, rfl⟩ := List.mem_map.1 hj
        rw [removeFrom, if_neg (by omega)]

/-- **Removing the selected positions leaves the rows that do not pass, in their order.** -/
theorem remove_positions (rows : List E) :
    remove (positions s filter rows) rows = rows.filter fun e => !Plan.passes s filter e := by
  simpa [remove] using removeFrom_positions s filter rows 0

end Selection

/-! ### Exchange -/

lemma place_cons (rows : List E) (p : ℕ × E) (placed : List (ℕ × E)) :
    place rows (p :: placed) = place (rows.set p.1 p.2) placed := rfl

lemma exchange_snd (rows : List E) (placed : List (ℕ × E)) :
    (exchange rows placed).2 = place rows placed := by
  induction placed generalizing rows with
  | nil => rfl
  | cons p placed ih => exact ih _

lemma place_set (rows : List E) {placed : List (ℕ × E)} {i : ℕ} (e : E)
    (h : i ∉ placed.map Prod.fst) : place (rows.set i e) placed = (place rows placed).set i e := by
  induction placed generalizing rows with
  | nil => rfl
  | cons p placed ih =>
    simp only [List.map_cons, List.mem_cons, not_or] at h
    rw [place_cons, place_cons, List.set_comm _ _ h.1, ih _ h.2]

/-- **An exchange is undone by putting back what it gave**, provided that no position occurs
twice. -/
theorem place_exchange (rows : List E) (placed : List (ℕ × E)) (hd : (placed.map Prod.fst).Nodup)
    (hlt : ∀ i ∈ placed.map Prod.fst, i < rows.length) :
    place (exchange rows placed).2 ((placed.map Prod.fst).zip (exchange rows placed).1) = rows := by
  induction placed generalizing rows with
  | nil => rfl
  | cons p placed ih =>
    obtain ⟨i, e⟩ := p
    simp only [List.map_cons, List.nodup_cons, List.mem_cons, forall_eq_or_imp] at hd hlt
    obtain ⟨hi, hd⟩ := hd
    have back := ih (rows.set i e) hd (by simpa using hlt.2)
    have hi' : i ∉ ((placed.map Prod.fst).zip (exchange (rows.set i e) placed).1).map Prod.fst := by
      intro h
      obtain ⟨q, hq, rfl⟩ := List.mem_map.1 h
      exact hi (List.of_mem_zip hq).1
    simp only [exchange, List.getElem?_eq_getElem hlt.1, Option.toList_some, List.map_cons,
      List.cons_append, List.nil_append, List.zip_cons_cons]
    rw [place_cons, place_set _ _ hi', back, List.set_set, List.set_getElem_self]

/-! ### Changes -/

section Changes

variable (s : Schema E) (filter : Option Predicate) (m : Mutation)

/-- The rows with a mutation applied to those that pass a filter. -/
def mutated (rows : List E) : Except QueryError (List E) :=
  rows.mapM fun e => if Plan.passes s filter e then m.apply s e else .ok e

lemma rewritten_positions (rows : List E) :
    rewritten s m rows (positions s filter rows) =
      (rows.filter (Plan.passes s filter)).mapM (m.apply s) := by
  rw [rewritten, filterMap_positions]

lemma place_cons_map_succ (e : E) (rows updated : List E) (selected : List ℕ) :
    place (e :: rows) ((selected.map (· + 1)).zip updated) =
      e :: place rows (selected.zip updated) := by
  induction selected generalizing rows updated with
  | nil => rfl
  | cons i selected ih =>
    cases updated with
    | nil => rfl
    | cons u updated =>
      rw [List.map_cons, List.zip_cons_cons, List.zip_cons_cons, place_cons, place_cons,
        List.set_cons_succ, ih]

/-- **Rewriting copies of the selected rows and putting them in place is rewriting the rows that
pass**, down to the error. -/
theorem place_rewritten (rows : List E) :
    (fun updated => place rows ((positions s filter rows).zip updated)) <$>
      rewritten s m rows (positions s filter rows) = mutated s filter m rows := by
  rw [rewritten_positions]
  induction rows with
  | nil => rfl
  | cons e rows ih =>
    unfold mutated at ih ⊢
    rw [List.mapM_cons, ← ih, positions_cons, List.filter_cons]
    by_cases h : Plan.passes s filter e
    · simp only [h, if_true, List.mapM_cons]
      cases m.apply s e with
      | error p => rfl
      | ok u =>
        cases (rows.filter (Plan.passes s filter)).mapM (m.apply s) with
        | error p => rfl
        | ok updated => exact congrArg Except.ok (place_cons_map_succ u rows updated _)
    · simp only [h, Bool.false_eq_true, if_false, List.nil_append]
      cases (rows.filter (Plan.passes s filter)).mapM (m.apply s) with
      | error p => rfl
      | ok updated => exact congrArg Except.ok (place_cons_map_succ e rows updated _)

variable {s filter m}

lemma forall₂_of_mutated_eq_ok {rows new : List E} (h : mutated s filter m rows = .ok new) :
    List.Forall₂ (fun e e' => (if Plan.passes s filter e then m.apply s e else .ok e) = .ok e')
      rows new :=
  Result.mapM_eq_ok_iff.1 h

lemma getElem?_of_notMem_positions {rows new : List E} (h : mutated s filter m rows = .ok new)
    {i : ℕ} (hi : i ∉ positions s filter rows) : new[i]? = rows[i]? := by
  have hrel := forall₂_of_mutated_eq_ok h
  rcases Nat.lt_or_ge i rows.length with hlt | hge
  · have hlt' : i < new.length := hrel.length_eq ▸ hlt
    have hstep := hrel.get hlt hlt'
    have hpass : ¬ Plan.passes s filter rows[i] := fun hp =>
      hi ((mem_positions s filter).2 ⟨_, List.getElem?_eq_getElem hlt, hp⟩)
    simp only [List.get_eq_getElem, hpass, Bool.false_eq_true, if_false, Except.ok.injEq] at hstep
    rw [List.getElem?_eq_getElem hlt, List.getElem?_eq_getElem hlt', hstep]
  · rw [List.getElem?_eq_none hge, List.getElem?_eq_none (hrel.length_eq ▸ hge)]

end Changes

end EntityQuery.Rows
