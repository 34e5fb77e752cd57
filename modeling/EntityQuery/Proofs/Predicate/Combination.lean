import EntityQuery.Predicate
import EntityQuery.Proofs.Results
import EntityQuery.Samples

/-!
Filter lists. The filters of a list are compiled one by one from the left. The first that cannot be
compiled makes the error; if there is none, what comes out holds where all of the predicates hold,
or where any of them does, and so neither the order of the filters nor their repetition matters.
Main statement: `combines_ofList`.
-/

namespace EntityQuery.Predicate

variable {E : Type} {s : Schema E} {p q : Predicate} {ps : List Predicate} {c : Connective}
  {list : FilterList}

/-! ### Joining -/

/-- All of some predicates hold of an entity, or any of them does. -/
def HoldsUnder (s : Schema E) (e : E) (ps : List Predicate) : Connective → Prop
  | .and => ∀ p ∈ ps, p.holds s e
  | .or => ∃ p ∈ ps, p.holds s e

lemma holdsUnder_congr {ps' : List Predicate} (h : ∀ q, q ∈ ps ↔ q ∈ ps') {e : E} :
    HoldsUnder s e ps c ↔ HoldsUnder s e ps' c := by
  cases c <;> simp only [HoldsUnder, h]

lemma holdsUnder_join {e : E} :
    HoldsUnder s e (join c p q :: ps) c ↔ HoldsUnder s e (p :: q :: ps) c := by
  cases c <;> simp [HoldsUnder, join, holds, and_assoc, or_assoc]

lemma holds_foldl_join {e : E} :
    (ps.foldl (join c) p).holds s e ↔ HoldsUnder s e (p :: ps) c := by
  induction ps generalizing p with
  | nil => cases c <;> simp [HoldsUnder]
  | cons q ps ih => rw [List.foldl_cons, ih, holdsUnder_join]

lemma fields_foldl_join :
    (ps.foldl (join c) p).fields = (p :: ps).flatMap fields := by
  induction ps generalizing p with
  | nil => simp
  | cons q ps ih =>
    have hjoin : (join c p q).fields = p.fields ++ q.fields := by cases c <;> rfl
    rw [List.foldl_cons, ih, List.flatMap_cons, List.flatMap_cons, List.flatMap_cons, hjoin,
      List.append_assoc]

/-! ### Compiling -/

/-- Predicates joined from the left, if there are any. -/
def joined (c : Connective) : List Predicate → Except QueryError Predicate
  | [] => .error (.invalidArgument .emptyFilterList)
  | p :: ps => .ok (ps.foldl (join c) p)

lemma foldlM_join (filters : List Filter) :
    filters.foldlM (fun p filter => join c p <$> ofFilter s filter) p =
      (fun ps => ps.foldl (join c) p) <$> filters.mapM (ofFilter s) := by
  induction filters generalizing p with
  | nil => rfl
  | cons filter filters ih =>
    rw [List.foldlM_cons, List.mapM_cons]
    cases ofFilter s filter with
    | error e => rfl
    | ok q =>
      show filters.foldlM _ (join c p q) = _
      rw [ih]
      cases filters.mapM (ofFilter s) <;> rfl

/-- Compiling and joining in turn is compiling all and joining them then. -/
lemma ofList_eq (s : Schema E) (list : FilterList) :
    ofList s list = list.filters.mapM (ofFilter s) >>= joined list.connective := by
  obtain ⟨filters, c⟩ := list
  cases filters with
  | nil => rfl
  | cons filter filters =>
    show (ofFilter s filter >>= fun p => filters.foldlM _ p) = _
    simp only [foldlM_join, List.mapM_cons]
    cases ofFilter s filter with
    | error e => rfl
    | ok p => cases filters.mapM (ofFilter s) <;> rfl

/-- The first of some filters that cannot be compiled, with its error. -/
def FirstRefused (s : Schema E) (filters : List Filter) (e : QueryError) : Prop :=
  ∃ before filter after, filters = before ++ filter :: after ∧
    (∀ b ∈ before, ∃ p, ofFilter s b = .ok p) ∧ ofFilter s filter = .error e

lemma ofList_eq_error_iff {e : QueryError} :
    ofList s list = .error e ↔
      list.filters = [] ∧ e = .invalidArgument .emptyFilterList ∨
        FirstRefused s list.filters e := by
  rw [ofList_eq, Result.bind_eq_error_iff, FirstRefused, ← Result.mapM_eq_error_iff, or_comm]
  refine or_congr_left ⟨?_, ?_⟩
  · rintro ⟨ps, hps, h⟩
    cases ps with
    | nil =>
      cases h
      exact ⟨List.forall₂_nil_right_iff.1 (Result.mapM_eq_ok_iff.1 hps), rfl⟩
    | cons p ps => cases h
  · rintro ⟨hempty, rfl⟩
    exact ⟨[], by rw [hempty]; rfl, rfl⟩

lemma ofList_eq_ok_iff :
    ofList s list = .ok p ↔
      ∃ ps, List.Forall₂ (fun filter q => ofFilter s filter = .ok q) list.filters ps ∧
        joined list.connective ps = .ok p := by
  rw [ofList_eq, Result.bind_eq_ok_iff]
  exact exists_congr fun ps => and_congr_left fun _ => Result.mapM_eq_ok_iff

/-! ### Fields -/

lemma fields_of_comparing {f : FieldRef} {type : FieldType} {op : Comparison}
    {literal : Option String} (h : comparing f type op literal = .ok p) : p.fields = [f] := by
  obtain ⟨v, -, rfl⟩ := Result.map_eq_ok_iff.1 h
  rfl

lemma fields_of_build {f : FieldRef} {type : FieldType} {literal : Option String} {op : Operator}
    (h : build f type literal op = .ok p) : p.fields = [f] := by
  cases op with
  | isNull => cases h; rfl
  | isNotNull => cases h; rfl
  | contains =>
    simp only [build] at h
    split at h <;> cases h
    rfl
  | equal => exact fields_of_comparing h
  | notEqual => exact fields_of_comparing h
  | greaterThan => exact fields_of_comparing h
  | greaterThanOrEqual => exact fields_of_comparing h
  | lessThan => exact fields_of_comparing h
  | lessThanOrEqual => exact fields_of_comparing h

lemma fields_of_ofFilter {filter : Filter} (h : ofFilter s filter = .ok p) :
    ∃ f, s.resolve filter.property = .ok f ∧ p.fields = [f] := by
  obtain ⟨f, hf, h⟩ := Result.bind_eq_ok_iff.1 h
  simp only at h
  split at h
  · exact ⟨f, hf, fields_of_build h⟩
  · cases h

lemma resolve_fields {filters : List Filter}
    (h : List.Forall₂ (fun filter q => ofFilter s filter = .ok q) filters ps) :
    List.Forall₂ (fun filter f => s.resolve filter.property = .ok f) filters
      (ps.flatMap fields) := by
  induction h with
  | nil => exact .nil
  | cons hfilter _ ih =>
    obtain ⟨f, hf, hfields⟩ := fields_of_ofFilter hfilter
    rw [List.flatMap_cons, hfields]
    exact .cons hf ih

/-! ### Filter lists -/

/-- A predicate that is put together from those of the filters of a list. -/
structure Combines (s : Schema E) (list : FilterList) (ps : List Predicate) (p : Predicate) :
    Prop where
  /-- Each filter is compiled by itself. -/
  each : List.Forall₂ (fun filter q => ofFilter s filter = .ok q) list.filters ps
  holds : ∀ e, p.holds s e ↔ HoldsUnder s e ps list.connective
  fields : p.fields = ps.flatMap fields
  /-- The fields are those that the filters name, in the order of the list. -/
  named : List.Forall₂ (fun filter f => s.resolve filter.property = .ok f) list.filters p.fields

lemma combines_of_joined
    (hps : List.Forall₂ (fun filter q => ofFilter s filter = .ok q) list.filters ps)
    (h : joined list.connective ps = .ok p) : Combines s list ps p := by
  cases ps with
  | nil => cases h
  | cons q ps =>
    cases h
    refine ⟨hps, fun e => holds_foldl_join, fields_foldl_join, ?_⟩
    rw [fields_foldl_join]
    exact resolve_fields hps

lemma exists_combines (h : ofList s list = .ok p) : ∃ ps, Combines s list ps p := by
  obtain ⟨ps, hps, hjoined⟩ := ofList_eq_ok_iff.1 h
  exact ⟨ps, combines_of_joined hps hjoined⟩

lemma exists_ofList_iff :
    (∃ p, ofList s list = .ok p) ↔
      list.filters ≠ [] ∧ ∀ filter ∈ list.filters, ∃ q, ofFilter s filter = .ok q := by
  constructor
  · rintro ⟨p, hp⟩
    obtain ⟨ps, hps⟩ := exists_combines hp
    refine ⟨fun hempty => ?_, fun filter hfilter => ?_⟩
    · rw [ofList, hempty] at hp
      cases hp
    · obtain ⟨q, -, hq⟩ := Result.exists_of_forall₂ hps.each hfilter
      exact ⟨q, hq⟩
  · rintro ⟨hne, hcompile⟩
    cases h : ofList s list with
    | ok p => exact ⟨p, rfl⟩
    | error e =>
      rcases ofList_eq_error_iff.1 h with ⟨hempty, -⟩ | ⟨before, filter, after, hsplit, -, he⟩
      · exact absurd hempty hne
      · obtain ⟨q, hq⟩ := hcompile filter (by simp [hsplit])
        cases hq.symm.trans he

lemma subset_of_each {filters filters' : List Filter} {ps' : List Predicate}
    (h : List.Forall₂ (fun filter q => ofFilter s filter = .ok q) filters ps)
    (h' : List.Forall₂ (fun filter q => ofFilter s filter = .ok q) filters' ps')
    (hsubset : filters ⊆ filters') : ps ⊆ ps' := by
  intro q hq
  obtain ⟨filter, hfilter, hcompiled⟩ := Result.exists_of_forall₂ h.flip hq
  obtain ⟨q', hq', hcompiled'⟩ := Result.exists_of_forall₂ h' (hsubset hfilter)
  rw [Except.ok.inj (hcompiled.symm.trans hcompiled')]
  exact hq'

/-- Lists of the same filters, in whatever order and however often, hold of the same entities. -/
lemma exists_ofList_of_same_filters {list' : FilterList} (h : ofList s list = .ok p)
    (hconnective : list'.connective = list.connective)
    (hfilters : ∀ filter, filter ∈ list'.filters ↔ filter ∈ list.filters) :
    ∃ p', ofList s list' = .ok p' ∧ ∀ e, p'.holds s e = p.holds s e := by
  obtain ⟨hne, hcompile⟩ := exists_ofList_iff.1 ⟨p, h⟩
  have hne' : list'.filters ≠ [] := by
    obtain ⟨filter, hfilter⟩ := List.exists_mem_of_ne_nil _ hne
    exact List.ne_nil_of_mem ((hfilters filter).2 hfilter)
  obtain ⟨p', hp'⟩ := exists_ofList_iff.2
    ⟨hne', fun filter hfilter => hcompile filter ((hfilters filter).1 hfilter)⟩
  obtain ⟨ps, hps⟩ := exists_combines h
  obtain ⟨ps', hps'⟩ := exists_combines hp'
  refine ⟨p', hp', fun e => Bool.eq_iff_iff.2 ?_⟩
  rw [hps'.holds, hps.holds, hconnective]
  exact holdsUnder_congr fun q =>
    ⟨fun hq => subset_of_each hps'.each hps.each (fun f hf => (hfilters f).1 hf) hq,
      fun hq => subset_of_each hps.each hps'.each (fun f hf => (hfilters f).2 hf) hq⟩

/-- **A filter list is the conjunction or the disjunction of its filters.** It has a predicate
exactly if it is not empty and each filter has one; otherwise the empty list or the first filter
without a predicate makes the error. The predicate holds where those of the filters do, all or any
of them, whatever their order and however often they are repeated. -/
theorem combines_ofList (s : Schema E) (list : FilterList) :
    ((∃ p, ofList s list = .ok p) ↔
        list.filters ≠ [] ∧ ∀ filter ∈ list.filters, ∃ q, ofFilter s filter = .ok q) ∧
      (∀ e, ofList s list = .error e ↔
        list.filters = [] ∧ e = .invalidArgument .emptyFilterList ∨
          FirstRefused s list.filters e) ∧
      ∀ p, ofList s list = .ok p → (∃ ps, Combines s list ps p) ∧
        ∀ list' : FilterList, list'.connective = list.connective →
          (∀ filter, filter ∈ list'.filters ↔ filter ∈ list.filters) →
          ∃ p', ofList s list' = .ok p' ∧ ∀ e, p'.holds s e = p.holds s e := by
  refine ⟨exists_ofList_iff, fun e => ofList_eq_error_iff, fun p h => ⟨exists_combines h, ?_⟩⟩
  intro list' hconnective hfilters
  exact exists_ofList_of_same_filters h hconnective hfilters

/-- Tasks that are done or have no score: a list that names the filters the other way round and one
of them twice finds the same tasks, and a list is refused for the first property that is unknown. -/
theorem combines_of_done_or_unscored :
    let s : Schema Slots := ⟨"Task", Samples.task.draft.fields, [], [], none⟩
    let task (score : Value) (done : Bool) : Slots :=
      ⟨.fresh Uuid.nil Instant.epoch, [.text "dig", .null, score, .null, .null, .bool done], [],
        none⟩
    let two : Value := .float ⟨0x4000000000000000⟩
    let p : Predicate := .or (.isNull ⟨7, "Score"⟩) (.compare ⟨10, "Done"⟩ .equal (.bool true))
    ofList s (.any [.isNull "score", .equal "DONE" "true"]) = .ok p ∧
      (∃ ps, Combines s (.any [.isNull "score", .equal "DONE" "true"]) ps p) ∧
      p.fields = [⟨7, "Score"⟩, ⟨10, "Done"⟩] ∧
      p.holds s (task .null false) ∧ p.holds s (task two true) ∧
      p.holds s (task two false) = false ∧
      (∃ p', ofList s (.any [.equal "DONE" "true", .isNull "score", .equal "DONE" "true"]) =
        .ok p' ∧ ∀ e, p'.holds s e = p.holds s e) ∧
      ofList s (.any [.isNull "score", .isNull "Size", .isNull "Shape"]) =
        .error (.unknownProperty "Task" "Size") := by
  intro s task two p
  have compiled : ofList s (.any [.isNull "score", .equal "DONE" "true"]) = .ok p := rfl
  have first : ofFilter s (.isNull "score") = .ok (.isNull ⟨7, "Score"⟩) := rfl
  obtain ⟨-, -, combined⟩ := combines_ofList s (.any [.isNull "score", .equal "DONE" "true"])
  obtain ⟨combines, same⟩ := combined p compiled
  obtain ⟨-, refused, -⟩ :=
    combines_ofList s (.any [.isNull "score", .isNull "Size", .isNull "Shape"])
  refine ⟨compiled, combines, rfl, by decide, by decide, by decide, same _ rfl ?_,
    (refused _).2 (.inr ⟨[.isNull "score"], .isNull "Size", [.isNull "Shape"], rfl, ?_, rfl⟩)⟩
  · simp [FilterList.any, or_comm]
  · simp [first]

end EntityQuery.Predicate
