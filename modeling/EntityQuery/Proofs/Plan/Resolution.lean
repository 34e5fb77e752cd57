import EntityQuery.Plan.Query
import EntityQuery.Proofs.Predicate.Typing
import EntityQuery.Proofs.Projection.Columns

/-!
Plans of listings. Whatever a request names is resolved: the filter of its plan is well typed, the
sort key is declared, and every selected column is a declared field under a name that differs from
its own in ASCII case at most. Main statement: `resolves_of_ofRequest`.
-/

namespace EntityQuery

variable {E : Type} {s : Schema E}

lemma Result.exists_of_mapM_eq_ok {ε α β : Type} {f : α → Except ε β} {x : Option α} {b : β}
    (h : x.mapM f = .ok (some b)) : ∃ a, x = some a ∧ f a = .ok b := by
  cases x with
  | none => cases h
  | some a =>
    obtain ⟨b', hb, hsome⟩ := map_eq_ok_iff.1 (show some <$> f a = _ from h)
    cases hsome
    exact ⟨a, rfl, hb⟩

/-! ### Names -/

namespace Schema

lemma sameFolded_of_resolve {name : String} {f : FieldRef} (h : s.resolve name = .ok f) :
    Text.sameFolded name f.name :=
  beq_iff_eq.2 (of_resolve h).2.symm

end Schema

lemma SchemaDraft.of_modifiedAt {d : SchemaDraft E} (h : d.build = .ok s) :
    ∀ f ∈ s.modifiedAt, s.Declares f ∧ (s.typeOf f).kind = .dateTime := by
  intro f hf
  unfold build at h
  split at h
  · cases h
  · obtain ⟨unique, -, h⟩ := Result.bind_eq_ok_iff.1 h
    obtain ⟨modifiedAt, hstamp, h⟩ := Result.bind_eq_ok_iff.1 h
    cases h
    obtain rfl : modifiedAt = some f := hf
    obtain ⟨name, -, hstamp⟩ := Result.exists_of_mapM_eq_ok hstamp
    obtain ⟨f', hresolve, hkind⟩ := Result.bind_eq_ok_iff.1 hstamp
    split at hkind
    · rename_i htime
      cases hkind
      exact ⟨Schema.declares_of_resolve hresolve, htime⟩
    · cases hkind

lemma SchemaDraft.declares_modifiedAt {d : SchemaDraft E} (h : d.build = .ok s) :
    ∀ f ∈ s.modifiedAt, s.Declares f := fun f hf => (of_modifiedAt h f hf).1

lemma SortKey.declares_of_rule {rule : SortRule} {key : SortKey} (h : ofRule s rule = .ok key) :
    s.Declares key.field := by
  obtain ⟨f, hf, h⟩ := Result.bind_eq_ok_iff.1 h
  cases h
  exact Schema.declares_of_resolve hf

lemma SortKey.declares_of_ofRule {rule : Option SortRule} {key : SortKey}
    (h : rule.mapM (ofRule s) = .ok (some key)) : s.Declares key.field := by
  obtain ⟨rule, -, hrule⟩ := Result.exists_of_mapM_eq_ok h
  exact declares_of_rule hrule

/-! ### Projections -/

namespace Projection

/-- The columns are declared fields under their names, ASCII case not counting. -/
def Declared (s : Schema E) (columns : List Column) : Prop :=
  ∀ c ∈ columns, s.Declares c.field ∧ Text.sameFolded c.key c.field.name

lemma declared_ofSelection {selection : Selection} {p : Projection}
    (h : ofSelection s selection = .ok p) : p.columns ≠ [] ∧ Declared s p.columns := by
  constructor
  · obtain ⟨hnonempty, hserves, -⟩ := ofSelection_eq_ok_iff.1 h
    intro hnone
    rw [hnone, List.forall₂_nil_right_iff] at hserves
    exact hnonempty hserves
  · intro c hc
    obtain ⟨selector, hselector⟩ := exists_serves h hc
    refine ⟨Schema.declares_of_resolve hselector.resolved, ?_⟩
    rw [hselector.key]
    exact Schema.sameFolded_of_resolve hselector.resolved

end Projection

/-! ### Listings -/

/-- A plan whose names are resolved, and which sorts by a key. -/
structure Plan.Resolves (s : Schema E) (p : Plan) (key : SortKey) : Prop where
  arrangement : p.arrangement = .sorted (some key)
  order : s.Declares key.field
  filter : ∀ q ∈ p.filter, q.WellTyped s
  columns : ∀ q ∈ p.projection, q.columns ≠ [] ∧ Projection.Declared s q.columns

namespace Listing

lemma wellTyped_predicate {r : ListingRequest} {p : Predicate}
    (h : predicate s r = .ok (some p)) : p.WellTyped s := by
  unfold predicate at h
  split at h
  · obtain ⟨q, hq, hsome⟩ := Result.map_eq_ok_iff.1 h
    cases hsome
    exact Predicate.wellTyped_of_ofList hq
  · obtain ⟨filter, -, hfilter⟩ := Result.exists_of_mapM_eq_ok h
    exact Predicate.wellTyped_of_ofFilter hfilter

/-- What a request resolves to, part by part. -/
lemma ofRequest_eq_ok_iff {r : ListingRequest} {l : Listing} :
    ofRequest s r = .ok l ↔
      predicate s r = .ok l.filter ∧ s.includes (r.includes.getD []) = .ok l.includes ∧
        r.order.mapM (SortKey.ofRule s) = .ok l.order ∧
        r.selection.mapM (Projection.ofSelection s) = .ok l.projection ∧
        l.page = ⟨r.skip, r.take⟩ := by
  constructor
  · intro h
    obtain ⟨filter, hfilter, h⟩ := Result.bind_eq_ok_iff.1 h
    obtain ⟨includes, hincludes, h⟩ := Result.bind_eq_ok_iff.1 h
    obtain ⟨order, horder, h⟩ := Result.bind_eq_ok_iff.1 h
    obtain ⟨projection, hprojection, h⟩ := Result.bind_eq_ok_iff.1 h
    cases h
    exact ⟨hfilter, hincludes, horder, hprojection, rfl⟩
  · rintro ⟨hfilter, hincludes, horder, hprojection, hpage⟩
    rw [ofRequest, hfilter, hincludes, horder, hprojection, ← hpage]
    rfl

lemma declares_sortKey {d : SchemaDraft E} (hs : d.build = .ok s) {l : Listing}
    (horder : ∀ key ∈ l.order, s.Declares key.field) {settings : RepositorySettings}
    {key : SortKey} (h : l.sortKey s settings = some key) : s.Declares key.field := by
  unfold sortKey at h
  cases hl : l.order with
  | some key' =>
    rw [hl] at h
    cases h
    exact horder key hl
  | none =>
    simp only [hl] at h
    split at h
    · obtain ⟨f, hf, rfl⟩ := Option.map_eq_some_iff.1 h
      exact SchemaDraft.declares_modifiedAt hs f hf
    · cases h

/-- **The plan of a listing that is sorted has its names resolved.** -/
theorem resolves_of_ofRequest {d : SchemaDraft E} (hs : d.build = .ok s) {r : ListingRequest}
    {l : Listing} (hl : ofRequest s r = .ok l) {settings : RepositorySettings} {key : SortKey}
    (hkey : l.sortKey s settings = some key) : (l.plan s settings).Resolves s key := by
  obtain ⟨hfilter, -, horder, hprojection, -⟩ := ofRequest_eq_ok_iff.1 hl
  refine ⟨congrArg Arrangement.sorted hkey, ?_, fun q hq => ?_, fun q hq => ?_⟩
  · exact declares_sortKey hs (fun key' hkey' => SortKey.declares_of_ofRule (hkey' ▸ horder)) hkey
  · exact wellTyped_predicate (hfilter.trans (congrArg _ hq))
  · obtain ⟨selection, -, hselection⟩ :=
      Result.exists_of_mapM_eq_ok (hprojection.trans (congrArg _ hq))
    exact Projection.declared_ofSelection hselection

end Listing

/-! ### Groupings and changes -/

/-- What a rule for the choice in a group resolves to, part by part. -/
lemma Representative.ofRule_eq_ok_iff {rule : GroupRule} {r : Representative} :
    ofRule s rule = .ok r ↔
      rule.order.mapM (SortKey.ofRule s) = .ok r.order ∧
        rule.selection.mapM (Projection.ofSelection s) = .ok r.projection := by
  constructor
  · intro h
    obtain ⟨order, horder, h⟩ := Result.bind_eq_ok_iff.1 h
    obtain ⟨projection, hprojection, h⟩ := Result.bind_eq_ok_iff.1 h
    cases h
    exact ⟨horder, hprojection⟩
  · rintro ⟨horder, hprojection⟩
    rw [ofRule, horder, hprojection]
    rfl

/-- What a grouping request resolves to, part by part. -/
lemma Grouping.ofRequest_eq_ok_iff {r : GroupingRequest} {g : Grouping} :
    ofRequest s r = .ok g ↔
      r.filters.mapM (Predicate.ofList s) = .ok g.filter ∧
        GroupKey.ofName s r.group.property = .ok g.key ∧
        Representative.ofRule s r.group = .ok g.representative ∧ g.page = ⟨r.skip, r.take⟩ := by
  constructor
  · intro h
    obtain ⟨filter, hfilter, h⟩ := Result.bind_eq_ok_iff.1 h
    obtain ⟨key, hkey, h⟩ := Result.bind_eq_ok_iff.1 h
    obtain ⟨representative, hrepresentative, h⟩ := Result.bind_eq_ok_iff.1 h
    cases h
    exact ⟨hfilter, hkey, hrepresentative, rfl⟩
  · rintro ⟨hfilter, hkey, hrepresentative, hpage⟩
    rw [ofRequest, hfilter, hkey, hrepresentative, ← hpage]
    rfl

lemma ChangeRequest.ofChanges_of_ofRequest {request : ChangeRequest} {c : BulkChange}
    (hc : BulkChange.ofRequest s request = .ok c) :
    request.filters.mapM (Predicate.ofList s) = .ok c.filter ∧
      Mutation.ofChanges s request.changes = .ok c.mutation := by
  obtain ⟨filter, hfilter, hc⟩ := Result.bind_eq_ok_iff.1 hc
  obtain ⟨mutation, hmutation, hc⟩ := Result.bind_eq_ok_iff.1 hc
  cases hc
  exact ⟨hfilter, hmutation⟩

end EntityQuery
