import EntityQuery.Proofs.Plan.Execution
import EntityQuery.Proofs.Store.Silence
import EntityQuery.Samples

/-!
Projections come last. Wherever a plan keeps its projection, it yields what the plan without
projection yields, reshaped from the first entity to the last or up to the first that cannot be
reshaped; an entity that is not on the page is never looked at. Main statement:
`fetch_of_projection`.
-/

namespace EntityQuery

variable {E : Type} {s : Schema E}

/-! ### Reshaping -/

namespace Projection

/-- What comes of reshaping entities from left to right: all their rows, or the error of the first
entity that cannot be reshaped. -/
inductive Reshapes (s : Schema E) (q : Projection) :
    List E → Except QueryError (List (Hit E)) → Prop
  | all {es : List E} {rows : List Row}
      (h : List.Forall₂ (fun e row => q.apply s e = .ok row) es rows) :
      Reshapes s q es (.ok (rows.map .row))
  | upTo {before after : List E} {e : E} {error : QueryError}
      (hbefore : ∀ b ∈ before, ∃ row, q.apply s b = .ok row) (he : q.apply s e = .error error) :
      Reshapes s q (before ++ e :: after) (.error error)

lemma present_eq_ok_iff {q : Projection} {e : E} {hit : Hit E} :
    Plan.present s (some q) e = .ok hit ↔ ∃ row, q.apply s e = .ok row ∧ .row row = hit :=
  Result.map_eq_ok_iff

lemma forall₂_row {q : Projection} {es : List E} {hits : List (Hit E)}
    (h : List.Forall₂ (fun e hit => Plan.present s (some q) e = .ok hit) es hits) :
    ∃ rows : List Row, hits = rows.map .row ∧
      List.Forall₂ (fun e row => q.apply s e = .ok row) es rows := by
  induction h with
  | nil => exact ⟨[], rfl, .nil⟩
  | cons hstep _ ih =>
    obtain ⟨row, hrow, rfl⟩ := present_eq_ok_iff.1 hstep
    obtain ⟨rows, rfl, hrows⟩ := ih
    exact ⟨row :: rows, rfl, .cons hrow hrows⟩

/-- Results are made from left to right. -/
lemma reshapes_mapM (s : Schema E) (q : Projection) (es : List E) :
    Reshapes s q es (es.mapM (Plan.present s (some q))) := by
  cases hresult : es.mapM (Plan.present s (some q)) with
  | ok hits =>
    obtain ⟨rows, rfl, hrows⟩ := forall₂_row (Result.mapM_eq_ok_iff.1 hresult)
    exact .all hrows
  | error error =>
    obtain ⟨before, e, after, rfl, hbefore, he⟩ := Result.mapM_eq_error_iff.1 hresult
    refine .upTo (fun b hb => ?_) (Result.map_eq_error_iff.1 he)
    obtain ⟨hit, hhit⟩ := hbefore b hb
    obtain ⟨row, hrow, -⟩ := present_eq_ok_iff.1 hhit
    exact ⟨row, hrow⟩

lemma apply_eq (s : Schema E) (q : Projection) (e : E) :
    q.apply s e = Row.mk <$> q.columns.mapM fun c => (c.key, ·) <$> cell s e c :=
  bind_pure_comp ..

/-- Only a document that cannot be decoded keeps an entity from being reshaped. -/
lemma exists_of_apply_eq_error {q : Projection} {e : E} {error : QueryError}
    (h : q.apply s e = .error error) :
    ∃ c ∈ q.columns, c.structured ∧ ∃ problem, error = .projection c.key problem := by
  rw [apply_eq, Result.map_eq_error_iff, Result.mapM_eq_error_iff] at h
  obtain ⟨before, c, after, hcolumns, -, hc⟩ := h
  have hcell := Result.map_eq_error_iff.1 hc
  unfold cell at hcell
  split at hcell
  · rename_i hstructured
    refine ⟨c, by simp [hcolumns], hstructured, ?_⟩
    unfold decode at hcell
    split at hcell
    · cases hcell
    · obtain ⟨problem, -, rfl⟩ :=
        Result.mapError_eq_error_iff.1 (Result.map_eq_error_iff.1 hcell)
      exact ⟨_, rfl⟩
    · cases hcell
      exact ⟨_, rfl⟩
  · cases hcell

end Projection

/-! ### Plans without projection -/

namespace Plan

/-- The plan without its projection, wherever that is kept. -/
def unprojected (p : Plan) : Plan :=
  { p with
    projection := none
    arrangement := match p.arrangement with
      | .sorted key => .sorted key
      | .grouped key r => .grouped key { r with projection := none } }

lemma page_unprojected (p : Plan) : p.unprojected.page = p.page := rfl

lemma effectiveProjection_unprojected (p : Plan) : p.unprojected.effectiveProjection = none := by
  unfold unprojected effectiveProjection
  cases p.arrangement <;> rfl

lemma chosen_unprojected (s : Schema E) (p : Plan) (es : List E) :
    p.unprojected.chosen s es = p.chosen s es := by
  unfold unprojected chosen
  cases p.arrangement <;> rfl

end Plan

/-! ### Fetching -/

namespace MemoryStore

variable {cancel : Option (Handle E)}

lemma fetch_of_silent {p : Plan} (hvalid : p.validate = .ok ()) {rows : List E}
    (hs : ∀ h ∈ cancel, h.Silent (p.events s rows)) :
    fetch s rows p cancel = ⟨(p.execute s rows).mapError .query, false⟩ := by
  rw [fetch, hvalid]
  exact watched_of_silent hs _

/-- **A projection is applied to what the plan yields without it**: to the entities of the page from
left to right, up to the first that cannot be reshaped, whose error is then the answer; that error
is always one of a document in a structured column. Whether the projection is kept by the plan or by
its representatives makes no difference. -/
theorem fetch_of_projection {rows : List E} {p : Plan} {q : Projection}
    (hvalid : p.validate = .ok ()) (hq : p.effectiveProjection = some q)
    (hcancel : ∀ h ∈ cancel, ∀ events, h.Silent events) :
    (∃ es result, fetch s rows p.unprojected cancel = ⟨.ok (es.map .entity), false⟩ ∧
      q.Reshapes s es result ∧ fetch s rows p cancel = ⟨result.mapError .query, false⟩) ∧
    (∀ error, (fetch s rows p cancel).result = .error error →
      ∃ c ∈ q.columns, c.structured ∧ ∃ problem, error = .query (.projection c.key problem)) ∧
    (∀ p' : Plan, p'.validate = .ok () → p'.unprojected = p.unprojected →
      p'.effectiveProjection = some q → fetch s rows p' cancel = fetch s rows p cancel) := by
  have hfetch {p' : Plan} (hvalid : p'.validate = .ok ()) :
      fetch s rows p' cancel = ⟨(p'.execute s rows).mapError .query, false⟩ :=
    fetch_of_silent hvalid fun h hh => hcancel h hh _
  have hexecute : p.execute s rows =
      (p.page.apply (p.chosen s rows)).mapM (Plan.present s (some q)) := by
    rw [Plan.execute_eq s hvalid, hq]
  have hreshapes := q.reshapes_mapM s (p.page.apply (p.chosen s rows))
  rw [← hexecute] at hreshapes
  refine ⟨⟨p.page.apply (p.chosen s rows), _, ?_, hreshapes, hfetch hvalid⟩,
    fun error herror => ?_, fun p' hvalid' hsame hq' => ?_⟩
  · have hnone := p.effectiveProjection_unprojected
    rw [hfetch (Plan.validate_of_unprojected hnone), Plan.execute_of_unprojected s hnone,
      p.chosen_unprojected s, Page.apply_map]
    rfl
  · rw [hfetch hvalid] at herror
    obtain ⟨problem, hproblem, rfl⟩ := Result.mapError_eq_error_iff.1 herror
    rw [hproblem] at hreshapes
    generalize p.page.apply (p.chosen s rows) = es at hreshapes
    cases hreshapes with
    | upTo _ he =>
      obtain ⟨c, hc, hstructured, problem, rfl⟩ := Projection.exists_of_apply_eq_error he
      exact ⟨c, hc, hstructured, problem, rfl⟩
  · have hpage := congrArg Plan.page hsame
    rw [p'.page_unprojected, p.page_unprojected] at hpage
    have hchosen : p'.chosen s rows = p.chosen s rows := by
      rw [← p'.chosen_unprojected s, hsame, p.chosen_unprojected s]
    rw [hfetch hvalid', hfetch hvalid, Plan.execute_eq s hvalid', hq', hexecute, hpage, hchosen]

/-- The largest cities of each name, without the first: the documents of the first and of the last
are never decoded, and the answer is the error of the one between them. -/
theorem fetch_of_documents :
    let s : Schema Slots := ⟨"City", Samples.city.draft.fields, [], [], none⟩
    let city (name document : String) (population : Int64) : Slots :=
      ⟨.fresh Uuid.nil Instant.epoch, [.text name, .text document, .int population], [], none⟩
    let rows := [city "Oslo" "[" 700, city "Hamar" "\x7b" 30, city "Bergen" "\x7b]" 300,
      city "Hamar" "[1]" 40, city "Moss" "\x7b" 50]
    let q : Projection := ⟨[⟨"region", ⟨1, "Region"⟩, true⟩]⟩
    let key : GroupKey := ⟨⟨0, "Name"⟩⟩
    let largest : Option SortKey := some ⟨⟨2, "Population"⟩, .descending⟩
    let p : Plan := ⟨[], none, .grouped key ⟨largest, none⟩, some q, ⟨1, 2⟩⟩
    let p' : Plan := ⟨[], none, .grouped key ⟨largest, some q⟩, none, ⟨1, 2⟩⟩
    let error : QueryError := .projection "region" (.document ⟨.keyNotString, 1, 2⟩)
    p.validate = .ok () ∧ p.effectiveProjection = some q ∧
      p'.validate = .ok () ∧ p'.unprojected = p.unprojected ∧ p'.effectiveProjection = some q ∧
      fetch s rows p.unprojected none =
        ⟨.ok [.entity (city "Hamar" "[1]" 40), .entity (city "Bergen" "\x7b]" 300)], false⟩ ∧
      fetch s rows p' none = ⟨.error (.query error), false⟩ := by
  intro s city rows q key largest p p' error
  have silent : ∀ h ∈ (none : Option (Handle Slots)), ∀ events, h.Silent events :=
    fun h hh => absurd hh (Option.not_mem_none h)
  have moved : fetch s rows p' none = fetch s rows p none :=
    (fetch_of_projection rfl rfl silent).2.2 p' rfl rfl rfl
  refine ⟨rfl, rfl, rfl, rfl, rfl, rfl, ?_⟩
  rw [moved]
  rfl

end MemoryStore

end EntityQuery
