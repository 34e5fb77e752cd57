import EntityQuery.Plan.Trace
import EntityQuery.Proofs.Plan.Execution
import EntityQuery.Proofs.Schema.References

/-!
Plans made of compiled expressions. What a plan yields, and what is read for it, depends on the
fields that its expressions refer to and on nothing else in the table. Main statements:
`execute_congr` and `events_congr`.
-/

namespace EntityQuery

variable {E : Type} {s : Schema E}

namespace Plan

/-! ### Compiled plans -/

/-- The expressions of a plan. -/
def expressions (p : Plan) : List Expression :=
  (p.filter.map .predicate).toList ++
    (match p.arrangement with
      | .sorted key => (key.map .sortKey).toList
      | .grouped key r => [.groupKey key, .representative r]) ++
    (p.projection.map .projection).toList

/-- A plan is compiled if its expressions are. Any page and any navigations are allowed. -/
def Compiled (s : Schema E) (p : Plan) : Prop := ∀ x ∈ p.expressions, x.Compiled s

section Members

variable {p : Plan}

lemma predicate_mem {q : Predicate} (h : q ∈ p.filter) : .predicate q ∈ p.expressions := by
  simp [expressions, Option.mem_def.1 h]

lemma projection_mem {q : Projection} (h : q ∈ p.projection) : .projection q ∈ p.expressions := by
  simp [expressions, Option.mem_def.1 h]

lemma sortKey_mem {k : SortKey} (h : p.arrangement = .sorted (some k)) :
    .sortKey k ∈ p.expressions := by
  simp [expressions, h]

lemma groupKey_mem {k : GroupKey} {r : Representative} (h : p.arrangement = .grouped k r) :
    .groupKey k ∈ p.expressions := by
  simp [expressions, h]

lemma representative_mem {k : GroupKey} {r : Representative} (h : p.arrangement = .grouped k r) :
    .representative r ∈ p.expressions := by
  simp [expressions, h]

/-- What holds of the projections that a plan keeps holds of the one that counts. -/
lemma forall_effectiveProjection {P : Projection → Prop} (hp : ∀ q ∈ p.projection, P q)
    (hr : ∀ k r, p.arrangement = .grouped k r → ∀ q ∈ r.projection, P q) :
    ∀ q ∈ p.effectiveProjection, P q := by
  intro q hq
  unfold effectiveProjection at hq
  cases harrangement : p.arrangement with
  | sorted key =>
    rw [harrangement] at hq
    exact hp q hq
  | grouped k r =>
    rw [harrangement] at hq
    cases hprojection : r.projection with
    | none => exact hp q (by simpa [hprojection] using hq)
    | some q' => exact hr k r harrangement q (by simpa [hprojection] using hq)

lemma Compiled.exists_selection (h : p.Compiled s) :
    ∀ q ∈ p.effectiveProjection, ∃ selection, Projection.ofSelection s selection = .ok q := by
  refine forall_effectiveProjection (fun q hq => ?_) fun k r harrangement => ?_
  · cases h _ (projection_mem hq) with
    | projection hselection => exact ⟨_, hselection⟩
  · cases h _ (representative_mem harrangement) with
    | representative hrule => exact Representative.exists_selection hrule

end Members

/-! ### Other tables -/

section Congruence

variable {s' : Schema E}

lemma passes_congr {filter : Option Predicate}
    (h : ∀ q ∈ filter, ∀ f ∈ q.fields, s'.field f = s.field f) :
    passes s' filter = passes s filter := by
  funext e
  cases filter with
  | none => rfl
  | some q => exact Predicate.holds_congr (h q rfl) e

lemma matchingEvents_congr {filter : Option Predicate}
    (h : ∀ q ∈ filter, ∀ f ∈ q.fields, s'.field f = s.field f) (es : List E) :
    matchingEvents s' filter es = matchingEvents s filter es := by
  cases filter with
  | none => rfl
  | some q =>
    unfold matchingEvents
    simp only [Option.map_some, Predicate.reads_congr (h q rfl)]

lemma arrange_congr {key : Option SortKey} (h : ∀ k ∈ key, s'.field k.field = s.field k.field)
    (es : List E) : arrange s' key es = arrange s key es := by
  cases key with
  | none => rfl
  | some k => exact SortKey.sort_congr (h k rfl) es

section Projected

variable {projection : Option Projection}
  (h : ∀ q ∈ projection, ∀ f ∈ q.fields, s'.field f = s.field f)

include h

lemma present_congr : present s' projection = present s projection := by
  funext e
  cases projection with
  | none => rfl
  | some q => simp only [present, Projection.apply_congr (h q rfl)]

lemma presentEvents_congr : presentEvents s' projection = presentEvents s projection := by
  funext e
  cases projection with
  | none => rfl
  | some q =>
    have hcolumns := List.forall_mem_map.1 (h q rfl)
    simp only [presentEvents, Projection.reads_congr hcolumns]

variable {r : Representative} (hr : ∀ f ∈ r.fields, s'.field f = s.field f)

include hr

lemma presentGroup_congr : presentGroup s' r projection = presentGroup s r projection := by
  funext g
  simp only [presentGroup, Representative.select_congr hr, present_congr h]

lemma groupEvents_congr : groupEvents s' r projection = groupEvents s r projection := by
  funext g
  have horder := (Representative.forall_mem_fields_iff.1 hr).1
  have hordered := Representative.ordered_congr horder g.members
  simp only [groupEvents, hordered, presentEvents_congr h]

end Projected

variable {p : Plan} (hnavigations : s'.navigations = s.navigations)
  (h : ∀ x ∈ p.expressions, ∀ f ∈ x.fields, s'.field f = s.field f)

include hnavigations h

lemma kept_congr (es : List E) : p.kept s' es = p.kept s es := by
  have hpasses := passes_congr fun q hq => h _ (predicate_mem hq)
  have hunload : s'.unloadExcept p.includes = s.unloadExcept p.includes := by
    unfold Schema.unloadExcept
    rw [hnavigations]
  rw [kept, hpasses, hunload, kept]

lemma execute_congr (es : List E) : p.execute s' es = p.execute s es := by
  have hprojection : ∀ q ∈ p.projection, ∀ f ∈ q.fields, s'.field f = s.field f :=
    fun q hq => h _ (projection_mem hq)
  unfold execute
  rw [kept_congr hnavigations h]
  cases harrangement : p.arrangement with
  | sorted key =>
    have hkey : ∀ k ∈ key, s'.field k.field = s.field k.field := by
      rintro k rfl
      exact h _ (sortKey_mem harrangement) _ List.mem_cons_self
    simp only [arrange_congr hkey, present_congr hprojection]
  | grouped key r =>
    have hkey := h _ (groupKey_mem harrangement) _ List.mem_cons_self
    have hr := h _ (representative_mem harrangement)
    simp only [GroupKey.group_congr hkey, presentGroup_congr hprojection hr]

lemma events_congr (es : List E) : p.events s' es = p.events s es := by
  have hprojection : ∀ q ∈ p.projection, ∀ f ∈ q.fields, s'.field f = s.field f :=
    fun q hq => h _ (projection_mem hq)
  unfold events
  simp only [kept_congr hnavigations h, matchingEvents_congr fun q hq => h _ (predicate_mem hq)]
  cases harrangement : p.arrangement with
  | sorted key =>
    have hkey : ∀ k ∈ key, s'.field k.field = s.field k.field := by
      rintro k rfl
      exact h _ (sortKey_mem harrangement) _ List.mem_cons_self
    simp only [arrange_congr hkey, present_congr hprojection, presentEvents_congr hprojection]
  | grouped key r =>
    have hkey := h _ (groupKey_mem harrangement) _ List.mem_cons_self
    have hr := h _ (representative_mem harrangement)
    have heffective : ∀ q ∈ p.effectiveProjection, ∀ f ∈ q.fields, s'.field f = s.field f :=
      forall_effectiveProjection hprojection fun k r' harrangement' =>
        (Representative.forall_mem_fields_iff.1 (h _ (representative_mem harrangement'))).2
    simp only [GroupKey.group_congr hkey, presentGroup_congr hprojection hr,
      groupEvents_congr heffective hr]

end Congruence

end Plan

end EntityQuery
