import EntityQuery.Proofs.Plan.Resolution
import EntityQuery.Proofs.Repository.BulkChanges
import EntityQuery.Proofs.Sql.Clauses
import EntityQuery.Proofs.Sql.Updates

/-!
The update of a bulk change and its execution in memory. A field that is written shows up as its
column set to what is stored for the value, so a mutated entity has the row that the update makes of
its row; and the condition picks the rows of the entities that pass, each as it was before. Main
statement: `leads_iff_updateWhere`.
-/

namespace EntityQuery.Sql

variable {E : Type} {s : Schema E} {Valid : E → Prop} {arguments : List Datum}

/-! ### Rows -/

lemma image_of_write (hs : s.Independent Valid) (hdiffer : s.NamesDiffer) {f : FieldRef}
    (hf : s.Declares f) {e e' : E} (he : Valid e) {v : Value}
    (h : (s.field f).write e v = .ok e') :
    image s e' = Update.put (image s e) f.name (.ofValue v) := by
  rw [image, image, Update.put, List.map_map]
  refine List.map_congr_left fun field hfield => ?_
  obtain ⟨g, hg, hname, rfl⟩ := Schema.exists_declares hfield
  rw [Function.comp_apply, ← hname]
  by_cases hsame : Text.sameFolded g.name f.name
  · obtain rfl := hg.eq_of_sameFolded hdiffer hf hsame
    rw [if_pos hsame, (hs.keeps _ hf.mem e v e' he h).2]
  · have hne : f ≠ g := by
      rintro rfl
      exact hsame (beq_self_eq_true _)
    have hread : (s.field g).read e' = (s.field g).read e := hs.spares_of_ne hf hg hne e v e' he h
    rw [if_neg hsame, hread]

/-- The columns that some assignments set, and what they are set to. -/
def assigned (as : List Assignment) : List (String × Datum) :=
  as.map fun a => (a.field.name, .ofValue a.value)

/-- **A mutated entity has the row that the assignments make of its row.** -/
theorem image_of_run (hs : s.Independent Valid) (hdiffer : s.NamesDiffer) {as : List Assignment}
    (hdeclared : ∀ a ∈ as, s.Declares a.field) {e e' : E} (he : Valid e)
    (h : Mutation.run s e as = .ok e') :
    image s e' = Update.assign (image s e) (assigned as) := by
  induction as generalizing e with
  | nil =>
    cases h
    rfl
  | cons a as ih =>
    obtain ⟨e₁, hwrite, hrest⟩ := Mutation.run_cons_eq_ok_iff.1 h
    rw [List.forall_mem_cons] at hdeclared
    have he₁ := (hs.keeps _ hdeclared.1.mem e _ e₁ he hwrite).1
    rw [ih hdeclared.2 he₁ hrest, image_of_write hs hdiffer hdeclared.1 he hwrite]
    rfl

/-! ### Parameters -/

/-- The assignments of a mutation with the parameters they are bound to. -/
def bindings (m : Mutation) : List (String × Param) :=
  m.assignments.map fun a => (a.field.name, .ofValue a.value)

lemma values?_numbered {k : ℕ} {assignments : List (String × Param)}
    (h : Bound arguments k (assignments.map Prod.snd)) :
    Update.values? arguments (Update.numbered k assignments) =
      some (assignments.map fun a => (a.1, .ofParam a.2)) := by
  unfold Update.values?
  induction assignments generalizing k with
  | nil => rfl
  | cons a as ih =>
    have h : Bound arguments k ([a.2] ++ as.map Prod.snd) := h
    have hrest : Bound arguments (k + 1) (as.map Prod.snd) := (bound_append h).2
    rw [Update.numbered, List.mapM_cons, ih hrest, Expression.argument?_of_bound h]
    rfl

/-- **The rows of an update are those of the mutated entities**, and it touches those that pass. -/
theorem rows?_image {u : Update} {values : List (String × Datum)} {passes : E → Bool}
    {es es' : List E} (h : List.Forall₂ (fun e e' =>
      Expression.passes? (image s e) arguments u.filter = some (passes e) ∧
        image s e' = if passes e then Update.assign (image s e) values else image s e) es es') :
    u.rows? arguments values (es.map (image s)) =
      some (es'.map (image s), es.countP passes) := by
  induction h with
  | nil => rfl
  | @cons e e' es es' hrow _ ih =>
    obtain ⟨hpasses, himage⟩ := hrow
    rw [List.map_cons, Update.rows?, hpasses, ih, List.map_cons, himage, List.countP_cons]
    cases passes e <;> rfl

/-! ### Updates -/

section Changes

variable (table : String) (c : BulkChange)

lemma update_eq : update s table c =
    .update table (bindings c.mutation) (c.filter.map (Condition.ofPredicate s)) := rfl

/-- The arguments that the statement of a change is run with. -/
def updateArguments (s : Schema E) (table : String) (c : BulkChange) : List Datum :=
  (update s table c).fragment.params.map .ofParam

/-- The assigned parameters are bound first, and then those of the filter. -/
lemma bound_updateArguments :
    Bound (updateArguments s table c) 0 ((bindings c.mutation).map Prod.snd) ∧
      Bound (updateArguments s table c) (bindings c.mutation).length
        (parameters (whereTokens (c.filter.map (Condition.ofPredicate s)))) := by
  have hbound := bound_of_parameters (parameters_update table (bindings c.mutation)
    (c.filter.map (Condition.ofPredicate s)))
  rwa [List.length_map] at hbound

/-- The update that the statement of a change is read as. -/
def updateOf (s : Schema E) (table : String) (c : BulkChange) : Update :=
  .ofStatement table (bindings c.mutation) (c.filter.map (Condition.ofPredicate s))

lemma ofText_update_change (hne : c.mutation.assignments ≠ []) :
    Update.ofText (update s table c).fragment.text = some (updateOf s table c) := by
  rw [update_eq]
  exact Update.ofText_update table (by simpa [bindings] using hne) _

lemma resolves_update (hdeclared : ∀ a ∈ c.mutation.assignments, s.Declares a.field)
    (htyped : ∀ p ∈ c.filter, p.WellTyped s) (rows : List E) :
    (updateOf s table c).Resolves (tableOf s table rows) := by
  refine ⟨beq_self_eq_true _, fun name hname => ?_⟩
  have hname : name ∈ s.fields.map Field.name := by
    rcases List.mem_append.1 hname with hname | hname
    · simp only [updateOf, Update.ofStatement, Update.map_fst_numbered, bindings, List.map_map,
        List.mem_map] at hname
      obtain ⟨a, ha, rfl⟩ := hname
      exact (hdeclared a ha).name_mem
    · exact column_mem_of_mem_filter htyped hname
  exact ⟨name, hname, beq_self_eq_true _⟩

lemma eq_tableOf {t : Table} {es : List E} (hname : t.name = table)
    (hcolumns : t.columns = s.fields.map Field.name) (hrows : t.rows = es.map (image s)) :
    t = tableOf s table es := by
  cases t
  subst hname hcolumns hrows
  rfl

/-- The update of a change leads from the rows of entities to those of the changed entities. -/
lemma leads_iff (hs : s.Independent Valid) (hdiffer : s.NamesDiffer)
    (hne : c.mutation.assignments ≠ [])
    (hdeclared : ∀ a ∈ c.mutation.assignments, s.Declares a.field)
    (htyped : ∀ p ∈ c.filter, p.WellTyped s)
    (hkind : ∀ p ∈ c.filter, ∀ f ∈ p.fields, (s.typeOf f).kind.isNative)
    (hconstants : ∀ p ∈ c.filter, ∀ v ∈ p.constants, v.isNaN = false) {es es' : List E}
    (hes : ∀ e ∈ es, Valid e ∧ s.Conforms e ∧ s.NaNFree e)
    (hsteps : List.Forall₂ (fun e e' =>
      (if Plan.passes s c.filter e then c.mutation.apply s e else .ok e) = .ok e') es es')
    {t : Table} {n : ℕ} :
    (update s table c).fragment.Leads (tableOf s table es) t n ↔
      t = tableOf s table es' ∧ n = es.countP (Plan.passes s c.filter) := by
  obtain ⟨hassigned, hfilter⟩ := bound_updateArguments (s := s) table c
  have hvalues := values?_numbered hassigned
  have hrows : (updateOf s table c).rows? (updateArguments s table c)
      ((bindings c.mutation).map fun a => (a.1, .ofParam a.2)) (es.map (image s)) =
        some (es'.map (image s), es.countP (Plan.passes s c.filter)) := by
    refine rows?_image (((List.forall₂_and_left _ _).2 ⟨hes, hsteps⟩).imp ?_)
    rintro e e' ⟨⟨hvalid, he⟩, hstep⟩
    refine ⟨passes?_image hdiffer htyped hkind hconstants hfilter he, ?_⟩
    split at hstep
    · rename_i hpasses
      rw [if_pos hpasses, image_of_run hs hdiffer hdeclared hvalid
        (Mutation.apply_eq_ok_iff.1 hstep), assigned, bindings, List.map_map]
      rfl
    · rename_i hpasses
      cases hstep
      rw [if_neg hpasses]
  constructor
  · rintro ⟨u, hu, -, hname, hcolumns, values, hvalues', hrows'⟩
    rw [ofText_update_change table c hne, Option.some.injEq] at hu
    subst hu
    obtain rfl := Option.some.inj (hvalues.symm.trans hvalues')
    obtain ⟨hrows, hn⟩ := Prod.mk.inj (Option.some.inj (hrows'.symm.trans hrows))
    exact ⟨eq_tableOf table hname hcolumns hrows, hn⟩
  · rintro ⟨rfl, rfl⟩
    exact ⟨_, ofText_update_change table c hne, resolves_update table c hdeclared htyped es,
      rfl, rfl, _, hvalues, hrows⟩

end Changes

/-- **The update of a bulk change does in a table what the change does in memory**: where a change
succeeds, the text of its update, run with its parameters on the table that holds a row for each
entity, leads to the table that holds a row for each entity after the change, and to no other; and
it touches as many rows as the change tells. What is assigned may be of any type, and the filter may
read it. -/
theorem leads_iff_updateWhere [Entity E] {d : SchemaDraft E} (hd : d.build = .ok s)
    (hs : s.Independent Valid) {m m' : MemoryStore E}
    (hrows : ∀ e ∈ m.rows, Valid e ∧ s.Conforms e ∧ s.NaNFree e) {request : ChangeRequest}
    {c : BulkChange} (hc : BulkChange.ofRequest s request = .ok c)
    (hkind : ∀ p ∈ c.filter, ∀ f ∈ p.fields, (s.typeOf f).kind.isNative)
    (hconstants : ∀ p ∈ c.filter, ∀ v ∈ p.constants, v.isNaN = false)
    {settings : RepositorySettings} {cancel : Option (Handle E)} {n : ℕ}
    (h : ((MemoryStore.repository s settings).updateWhere request cancel).run.run m = (.ok n, m'))
    (table : String) (t : Table) (touched : ℕ) :
    (update s table c).fragment.Leads (tableOf s table m.rows) t touched ↔
      t = tableOf s table m'.rows ∧ touched = n := by
  obtain ⟨hfilter, hchanges⟩ := ChangeRequest.ofChanges_of_ofRequest hc
  obtain ⟨hne, hassigns, -⟩ := Mutation.ofChanges_eq_ok_iff.1 hchanges
  have hassigned : c.mutation.assignments ≠ [] := fun hnil => by
    rw [hnil] at hassigns
    exact hne (List.forall₂_nil_right_iff.1 hassigns)
  have hdeclared : ∀ a ∈ c.mutation.assignments, s.Declares a.field := fun a ha => by
    obtain ⟨change, -, hchange⟩ := Mutation.exists_assigned hassigns ha
    exact Schema.declares_of_resolve hchange.resolve
  have htyped : ∀ p ∈ c.filter, p.WellTyped s := fun p hp => by
    obtain ⟨list, -, hlist⟩ := Result.exists_of_mapM_eq_ok (hfilter.trans (congrArg _ hp))
    exact Predicate.wellTyped_of_ofList hlist
  rw [Repository.updateWhere_eq, hc, Repository.resolved_ok_bind] at h
  obtain ⟨rows, hrun, rfl⟩ := Repository.of_run_pooled_ok h
  obtain ⟨hresult, rfl⟩ := Repository.of_run_answered_ok hrun
  obtain ⟨hmutated, rfl⟩ := MemoryStore.mutated_of_updateWhere_ok hresult
  exact leads_iff table c hs (SchemaDraft.of_build_eq_ok hd).2.2.2 hassigned hdeclared htyped hkind
    hconstants hrows (Rows.forall₂_of_mutated_eq_ok hmutated)

/-- Cities of the north are moved to the middle and lose their people: the update sets the column
that its condition reads. -/
theorem leads_of_northern_cities :
    let s : Schema Slots := ⟨"City", Samples.city.draft.fields, [], [], none⟩
    let city (id : BitVec 128) (name : String) (region : Value) (population : Int64) : Slots :=
      ⟨{ BaseFields.fresh Uuid.nil Instant.epoch with id := ⟨id⟩ },
        [.text name, region, .int population], [], none⟩
    let m : MemoryStore Slots :=
      ⟨[city 1 "Bergen" .null 300, city 2 "Hamar" (.text "North") 30,
        city 3 "Oslo" (.text "East") 700, city 4 "Bodo" (.text "North") 52], .usual, 0⟩
    let m' : MemoryStore Slots :=
      ⟨[city 1 "Bergen" .null 300, city 2 "Hamar" (.text "Middle") 0,
        city 3 "Oslo" (.text "East") 700, city 4 "Bodo" (.text "Middle") 0], .usual, 0⟩
    let request : ChangeRequest :=
      ⟨some (.all [.equal "region" "North"]), [⟨"Region", some "Middle"⟩, ⟨"population", some "0"⟩]⟩
    Samples.city.draft.build = .ok s ∧ s.Independent Samples.city.Fits ∧
      (∀ e ∈ m.rows, Samples.city.Fits e ∧ s.Conforms e ∧ s.NaNFree e) ∧
      ((MemoryStore.repository s .usual).updateWhere request none).run.run m = (.ok 2, m') ∧
      ∃ c, BulkChange.ofRequest s request = .ok c ∧
        (∀ p ∈ c.filter, ∀ f ∈ p.fields, (s.typeOf f).kind.isNative) ∧
        (∀ p ∈ c.filter, ∀ v ∈ p.constants, v.isNaN = false) ∧ ∀ t touched,
          (update s "City" c).fragment.Leads (tableOf s "City" m.rows) t touched ↔
            t = tableOf s "City" m'.rows ∧ touched = 2 := by
  intro s city m m' request
  have built : Samples.city.draft.build = .ok s := rfl
  have independent : s.Independent Samples.city.Fits := Samples.city.independent_slots built
  have rows : ∀ e ∈ m.rows, Samples.city.Fits e ∧ s.Conforms e ∧ s.NaNFree e := by decide
  have ran : ((MemoryStore.repository s .usual).updateWhere request none).run.run m =
      (.ok 2, m') := rfl
  have resolved : BulkChange.ofRequest s request = .ok
      ⟨some (.compare ⟨1, "Region"⟩ .equal (.text "North")),
        ⟨[⟨⟨1, "Region"⟩, .text "Middle"⟩, ⟨⟨2, "Population"⟩, .int 0⟩]⟩⟩ := rfl
  have native : ∀ p ∈ some (Predicate.compare ⟨1, "Region"⟩ .equal (.text "North")),
      ∀ f ∈ p.fields, (s.typeOf f).kind.isNative := by
    rintro p ⟨⟩
    decide
  have constants : ∀ p ∈ some (Predicate.compare ⟨1, "Region"⟩ .equal (.text "North")),
      ∀ v ∈ p.constants, v.isNaN = false := by
    rintro p ⟨⟩
    decide
  exact ⟨built, independent, rows, ran, _, resolved, native, constants,
    leads_iff_updateWhere built independent rows resolved native constants ran "City"⟩

end EntityQuery.Sql
