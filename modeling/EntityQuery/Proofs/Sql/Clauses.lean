import EntityQuery.Proofs.Plan.Execution
import EntityQuery.Proofs.Schema.Includes
import EntityQuery.Proofs.Sql.Meaning
import EntityQuery.Proofs.Sql.Queries

/-!
What the clauses of a query do with the rows that are stored for entities: the condition keeps the
rows of the entities that pass the filter, the sort order is that of the sort key, the window is the
page, and the selected columns are the values that a result has. Main statements: `kept?_image`,
`compareBy_image`, `shown?_eq` and `exists_hits`.
-/

namespace EntityQuery.Sql

variable {E : Type} {s : Schema E} {arguments : List Datum} {k : ℕ}

/-- The name and the value that is stored under it, for every column of a result. -/
def hitImage (s : Schema E) : Hit E → List (String × Datum)
  | .entity e => image s e
  | .row r => r.columns.map fun (key, v) => (key, .ofValue v)

/-- The table that holds a row for each entity. -/
def tableOf (s : Schema E) (name : String) (rows : List E) : Table where
  name := name
  columns := s.fields.map Field.name
  rows := rows.map (image s)
  columns_eq := by simp [image, Function.comp_def]

lemma bound_of_parameters {statement : Statement} {ps qs : List Param}
    (h : parameters statement.tokens = ps ++ qs) :
    Bound (statement.fragment.params.map .ofParam) 0 ps ∧
      Bound (statement.fragment.params.map .ofParam) ps.length qs := by
  have hbound := bound_map statement.fragment.params
  have hparams : statement.fragment.params = ps ++ qs := by
    rw [Statement.fragment_eq, Fragment.params_ofTokens, h]
  rw [hparams] at hbound ⊢
  have happend := bound_append hbound
  rwa [Nat.zero_add] at happend

/-! ### Filter -/

lemma columns_ofPredicate {p : Predicate} (hp : p.WellTyped s) (k : ℕ) :
    ∀ name ∈ ((Condition.ofPredicate s p).expression k).columns,
      name ∈ s.fields.map Field.name := by
  have hcomparison {f : FieldRef} (hf : s.Declares f) (nullable : Bool) (op : Comparison)
      (v : Value) (k : ℕ) :
      ∀ name ∈ ((Condition.ofComparison f.name nullable op v).expression k).columns,
        name ∈ s.fields.map Field.name := by
    intro name hname
    have hname : name = f.name := by
      cases op <;> cases hv : v.isNull <;> cases nullable <;>
        simpa [Condition.ofComparison, hv, Condition.expression, Expression.columns] using hname
    exact hname ▸ hf.name_mem
  induction p generalizing k with
  | compare f op v => exact hcomparison hp.1 _ op v k
  | contains f needle =>
    simpa [Condition.ofPredicate, Condition.expression, Expression.columns] using hp.1.name_mem
  | isNull f | isNotNull f =>
    simpa [Condition.ofPredicate, Condition.expression, Expression.columns] using hp.name_mem
  | and p q ihp ihq | or p q ihp ihq =>
    exact List.forall_mem_append.2 ⟨ihp hp.1 k, ihq hp.2 _⟩

/-- The row of an entity passes the condition of a filter if the entity passes the filter. -/
lemma passes?_image (hs : s.NamesDiffer) {filter : Option Predicate}
    (htyped : ∀ p ∈ filter, p.WellTyped s)
    (hkind : ∀ p ∈ filter, ∀ f ∈ p.fields, (s.typeOf f).kind.isNative)
    (hconstants : ∀ p ∈ filter, ∀ v ∈ p.constants, v.isNaN = false)
    (hbound : Bound arguments k (parameters (whereTokens (filter.map (Condition.ofPredicate s)))))
    {e : E} (he : s.Conforms e ∧ s.NaNFree e) :
    Expression.passes? (image s e) arguments
        ((filter.map (Condition.ofPredicate s)).map (Condition.expression k)) =
      some (Plan.passes s filter e) := by
  cases filter with
  | none => rfl
  | some p =>
    exact isTrue_of_decides (decides_ofPredicate hs he.1 he.2 (htyped p rfl) (hkind p rfl)
      (hconstants p rfl) hbound)

/-- **The rows that are kept are those of the entities that pass.** -/
theorem kept?_image {q : Query} {passes : E → Bool} {es : List E}
    (h : ∀ e ∈ es, q.keeps? arguments (image s e) = some (passes e)) :
    q.kept? arguments (es.map (image s)) = some ((es.filter passes).map (image s)) := by
  induction es with
  | nil => rfl
  | cons e es ih =>
    rw [List.forall_mem_cons] at h
    rw [List.map_cons, Query.kept?, h.1, ih h.2, List.filter_cons]
    cases passes e <;> rfl

lemma kept?_of_filter (hs : s.NamesDiffer) {p : Plan} {q : Query}
    (hq : q.filter = (p.filter.map (Condition.ofPredicate s)).map (Condition.expression k))
    (htyped : ∀ c ∈ p.filter, c.WellTyped s)
    (hkind : ∀ c ∈ p.filter, ∀ f ∈ c.fields, (s.typeOf f).kind.isNative)
    (hconstants : ∀ c ∈ p.filter, ∀ v ∈ c.constants, v.isNaN = false)
    (hbound : Bound arguments k
      (parameters (whereTokens (p.filter.map (Condition.ofPredicate s)))))
    {es : List E} (hes : ∀ e ∈ es, s.Conforms e ∧ s.NaNFree e) :
    q.kept? arguments (es.map (image s)) =
      some ((es.filter (Plan.passes s p.filter)).map (image s)) := by
  refine kept?_image fun e he => ?_
  have hpasses := passes?_image hs htyped hkind hconstants hbound (hes e he)
  rwa [← hq] at hpasses

lemma image_unloadExcept (hs : s.FieldsStay) (included : List String) (e : E) :
    image s (s.unloadExcept included e) = image s e :=
  List.map_congr_left fun field hfield => by rw [hs.read_unloadExcept hfield]

lemma map_image_kept (hstay : s.FieldsStay) (p : Plan) (es : List E) :
    (p.kept s es).map (image s) = (es.filter (Plan.passes s p.filter)).map (image s) := by
  rw [Plan.kept, List.map_map]
  exact List.map_congr_left fun e _ => image_unloadExcept hstay p.includes e

/-- The entities that a plan is about read as they did before navigations were unloaded. -/
lemma of_mem_kept (hstay : s.FieldsStay) {p : Plan} {es : List E}
    (hes : ∀ e ∈ es, s.Conforms e ∧ s.NaNFree e) :
    ∀ e ∈ p.kept s es, s.Conforms e ∧ s.NaNFree e := by
  refine Plan.forall_kept (fun n hn e he => ⟨hstay.conforms_unload n hn e he.1, ?_⟩) hes
  intro field hfield
  rw [hstay n hn field hfield e]
  exact he.2 field hfield

/-! ### Order -/

lemma precedes_iff {q : Query} {term : OrderTerm} (hq : q.order = some term)
    (a b : List (String × Datum)) :
    q.Precedes a b ↔ Query.compareBy (q.sortColumn term) term.direction a b ≠ .gt := by
  simp [Query.Precedes, hq]

/-- **The rows of two entities stand in the order of the entities.** -/
theorem compareBy_image (hs : s.NamesDiffer) {key : SortKey} (hkey : s.Declares key.field)
    (hkind : (s.typeOf key.field).kind.isNative) {a b : E} (ha : s.Conforms a ∧ s.NaNFree a)
    (hb : s.Conforms b ∧ s.NaNFree b) :
    Query.compareBy key.field.name key.direction (image s a) (image s b) = key.compare s a b := by
  have horder := Datum.order_ofValue hkind (ha.1 _ hkey.mem) (hb.1 _ hkey.mem)
    (ha.2 _ hkey.mem) (hb.2 _ hkey.mem)
  simp only [Query.compareBy, column?_image hs hkey, Option.getD_some, SortKey.compare]
  cases key.direction with
  | ascending => exact horder
  | descending => exact congrArg Ordering.swap horder

lemma transitive_of_conforms {key : SortKey} (hkey : s.Declares key.field) :
    key.Transitive s fun e => s.Conforms e ∧ s.NaNFree e := by
  have hvalue {e : E} (he : s.Conforms e ∧ s.NaNFree e) :=
    And.intro (he.1 _ hkey.mem) (he.2 _ hkey.mem)
  intro a b c ha hb hc
  exact key.transitive_of_admits s a b c (hvalue ha) (hvalue hb) (hvalue hc)

/-! ### Window -/

lemma value?_parameter {n : UInt32} {ps : List Param}
    (h : Bound arguments k (.integer (.ofNat n.toNat) :: ps)) :
    Amount.value? arguments (.parameter (k + 1)) = some (n.toNat : Int) := by
  rw [Amount.value?, Expression.argument?_of_bound h]
  exact congrArg some (Int64.toInt_ofNat_of_lt (Nat.lt_trans n.toNat_lt (by decide)))

lemma windowed_drop {α : Type} (offset : ℕ) (rows : List α) :
    windowed (-1) offset rows = rows.drop offset := rfl

lemma windowed_take {α : Type} (limit offset : ℕ) (rows : List α) :
    windowed limit offset rows = (rows.drop offset).take limit := by
  rw [windowed, if_neg (by omega), Int.toNat_natCast, Int.toNat_natCast]

lemma ofPage_of_skip {skip : UInt32} (h : skip ≠ 0) :
    Window.ofPage ⟨skip, 0⟩ = some ⟨none, .ofNat skip.toNat⟩ := by
  simp [Window.ofPage, Page.isUnbounded, Page.limit?, h]

lemma ofPage_of_take (skip : UInt32) {take : UInt32} (h : take ≠ 0) :
    Window.ofPage ⟨skip, take⟩ = some ⟨some (.ofNat take.toNat), .ofNat skip.toNat⟩ := by
  simp [Window.ofPage, Page.isUnbounded, Page.limit?, h]

lemma shown?_of_window {α : Type} {q : Query} {limit offset : Amount} {m n : Int}
    (hq : q.window = some (limit, offset)) (hlimit : limit.value? arguments = some m)
    (hoffset : offset.value? arguments = some n) (rows : List α) :
    q.shown? arguments rows = some (windowed m n rows) := by
  simp [Query.shown?, hq, hlimit, hoffset]

/-- **The window of a page shows the page.** -/
theorem shown?_eq {α : Type} (page : Page)
    (hbound : Bound arguments k (parameters (windowTokens (Window.ofPage page)))) {q : Query}
    (hq : q.window = (Window.ofPage page).map (Query.amounts k)) (rows : List α) :
    q.shown? arguments rows = some (page.apply rows) := by
  obtain ⟨skip, take⟩ := page
  by_cases htake : take = 0
  · subst htake
    by_cases hskip : skip = 0
    · subst hskip
      rw [Query.shown?, hq]
      rfl
    · rw [ofPage_of_skip hskip] at hbound hq
      have hoffset := value?_parameter hbound
      rw [shown?_of_window hq rfl hoffset, windowed_drop]
      rfl
  · rw [ofPage_of_take skip htake] at hbound hq
    have hbound : Bound arguments k ([.integer (.ofNat take.toNat)] ++ [.integer _]) := hbound
    have hlimit := value?_parameter hbound
    have hoffset := value?_parameter (bound_append hbound).2
    rw [shown?_of_window hq hlimit hoffset, windowed_take, Page.apply_of_take htake]

/-! ### Columns -/

lemma value?_image (hs : s.NamesDiffer) {f : FieldRef} (hf : s.Declares f) (e : E)
    (label : Option String) :
    Output.value? (image s e) ⟨f.name, label⟩ =
      some (label.getD f.name, .ofValue (s.read e f)) := by
  rw [Output.value?, image, Schema.find?_name hs hf]
  rfl

lemma apply_of_unstructured {p : Projection} (hplain : ∀ c ∈ p.columns, c.structured = false)
    (e : E) : p.apply s e = .ok ⟨p.columns.map fun c => (c.key, s.read e c.field)⟩ := by
  have hcells : p.columns.mapM (fun c => (c.key, ·) <$> Projection.cell s e c) =
      .ok (p.columns.map fun c => (c.key, s.read e c.field)) := by
    rw [Result.mapM_eq_ok_iff, List.forall₂_map_right_iff, List.forall₂_same]
    intro c hc
    rw [Projection.cell, hplain c hc]
    rfl
  rw [Projection.apply, hcells]
  rfl

/-- A list of optional values has a value exactly if each of them has, place by place. -/
lemma mapM_eq_some_iff {α β : Type} {f : α → Option β} {as : List α} {bs : List β} :
    as.mapM f = some bs ↔ List.Forall₂ (fun a b => f a = some b) as bs := by
  induction as generalizing bs with
  | nil =>
    rw [List.mapM_nil, List.forall₂_nil_left_iff]
    exact ⟨fun h => (Option.some.inj h).symm, fun h => h ▸ rfl⟩
  | cons a as ih =>
    rw [List.mapM_cons, Option.bind_eq_bind, Option.bind_eq_some_iff]
    constructor
    · rintro ⟨b, hb, h⟩
      obtain ⟨bs', hbs, h⟩ := Option.bind_eq_some_iff.1 h
      cases h
      exact .cons hb (ih.1 hbs)
    · rintro (_ | ⟨hb, hbs⟩)
      exact ⟨_, hb, Option.bind_eq_some_iff.2 ⟨_, ih.2 hbs, rfl⟩⟩

lemma mapM_eq_some {α β : Type} {f : α → Option β} {g : α → β} {as : List α}
    (h : ∀ a ∈ as, f a = some (g a)) : as.mapM f = some (as.map g) :=
  mapM_eq_some_iff.2 (List.forall₂_map_right_iff.2 (List.forall₂_same.2 h))

variable {projection : Option Projection}

lemma outputs_ne_nil (hfields : s.fields ≠ []) (h : ∀ p ∈ projection, p.columns ≠ []) :
    outputs s projection ≠ [] := by
  cases projection with
  | none => exact mt List.map_eq_nil_iff.1 hfields
  | some p => exact mt List.map_eq_nil_iff.1 (h p rfl)

lemma column_mem_of_mem_outputs
    (hdeclares : ∀ p ∈ projection, ∀ c ∈ p.columns, s.Declares c.field) {o : Output}
    (ho : o ∈ outputs s projection) : o.column ∈ s.fields.map Field.name := by
  cases projection with
  | none =>
    obtain ⟨field, hfield, rfl⟩ := List.mem_map.1 ho
    exact List.mem_map_of_mem hfield
  | some p =>
    obtain ⟨c, hc, rfl⟩ := List.mem_map.1 ho
    exact (hdeclares p rfl c hc).name_mem

lemma column_mem_of_mem_filter {filter : Option Predicate}
    (htyped : ∀ p ∈ filter, p.WellTyped s) {name : String}
    (hname : name ∈ (((filter.map (Condition.ofPredicate s)).map (Condition.expression k)).map
      Expression.columns).getD []) : name ∈ s.fields.map Field.name := by
  cases filter with
  | none => cases hname
  | some p => exact columns_ofPredicate (htyped p rfl) k name hname

/-- Rows in which the columns of the results are alike show the same results. -/
lemma selected_congr (hs : s.NamesDiffer)
    (hdeclares : ∀ p ∈ projection, ∀ c ∈ p.columns, s.Declares c.field) {a b : E}
    (hread : ∀ f, s.Declares f → (∀ p ∈ projection, ∃ c ∈ p.columns, c.field = f) →
      s.read a f = s.read b f) :
    (outputs s projection).mapM (Output.value? (image s a)) =
      (outputs s projection).mapM (Output.value? (image s b)) := by
  have hvalue {f : FieldRef} (label : Option String) (hf : s.Declares f)
      (hshown : ∀ p ∈ projection, ∃ c ∈ p.columns, c.field = f) :
      Output.value? (image s a) ⟨f.name, label⟩ = Output.value? (image s b) ⟨f.name, label⟩ := by
    rw [value?_image hs hf, value?_image hs hf, hread f hf hshown]
  cases projection with
  | none =>
    rw [outputs, List.mapM_map, List.mapM_map]
    refine Result.mapM_congr fun field hfield => ?_
    obtain ⟨f, hf, hname, -⟩ := Schema.exists_declares hfield
    rw [Function.comp_apply, Function.comp_apply, ← hname]
    exact hvalue none hf (fun p hp => nomatch hp)
  | some p =>
    rw [outputs, List.mapM_map, List.mapM_map]
    refine Result.mapM_congr fun c hc => hvalue _ (hdeclares p rfl c hc) ?_
    rintro p ⟨⟩
    exact ⟨c, hc, rfl⟩

/-- A result is made of every entity, and the selected columns of its row are those of the
result. -/
lemma exists_hit (hs : s.NamesDiffer)
    (hdeclares : ∀ p ∈ projection, ∀ c ∈ p.columns, s.Declares c.field)
    (hplain : ∀ p ∈ projection, ∀ c ∈ p.columns, c.structured = false) (e : E) :
    ∃ hit, Plan.present s projection e = .ok hit ∧
      (outputs s projection).mapM (Output.value? (image s e)) = some (hitImage s hit) := by
  cases projection with
  | none =>
    refine ⟨.entity e, rfl, ?_⟩
    rw [outputs, List.mapM_map]
    refine mapM_eq_some fun field hfield => ?_
    obtain ⟨f, hf, hname, rfl⟩ := Schema.exists_declares hfield
    rw [Function.comp_apply, ← hname]
    exact value?_image hs hf e none
  | some p =>
    refine ⟨.row _, by rw [Plan.present, apply_of_unstructured (hplain p rfl)]; rfl, ?_⟩
    rw [outputs, List.mapM_map, hitImage, List.map_map]
    exact mapM_eq_some fun c hc => value?_image hs (hdeclares p rfl c hc) e _

/-- **Results are made of all entities, and the selected columns of their rows are those of the
results.** -/
theorem exists_hits (hs : s.NamesDiffer)
    (hdeclares : ∀ p ∈ projection, ∀ c ∈ p.columns, s.Declares c.field)
    (hplain : ∀ p ∈ projection, ∀ c ∈ p.columns, c.structured = false) (es : List E) :
    ∃ hits, es.mapM (Plan.present s projection) = .ok hits ∧
      (es.map (image s)).mapM (fun row => (outputs s projection).mapM (Output.value? row)) =
        some (hits.map (hitImage s)) := by
  induction es with
  | nil => exact ⟨[], rfl, rfl⟩
  | cons e es ih =>
    obtain ⟨hit, hpresent, hrow⟩ := exists_hit hs hdeclares hplain e
    obtain ⟨hits, hpresents, hrows⟩ := ih
    refine ⟨hit :: hits, ?_, ?_⟩
    · rw [List.mapM_cons, hpresent, hpresents]
      rfl
    · rw [List.map_cons, List.mapM_cons, hrow, hrows]
      rfl

end EntityQuery.Sql
