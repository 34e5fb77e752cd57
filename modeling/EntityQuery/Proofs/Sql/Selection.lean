import EntityQuery.Proofs.Plan.Resolution
import EntityQuery.Proofs.Schema.Independence
import EntityQuery.Proofs.Sql.Clauses
import EntityQuery.Samples
import Mathlib.Data.List.Pairwise

/-!
The query of a sorted plan and its execution in memory. Where filter and sort order only speak of
values that are stored as they compare, and no two of the entities that pass tie, the query has one
answer. In memory the results are made when navigations are unloaded already; if what the plan
reports does not change with that, the answer is the image of what the plan yields: the same results
in the same order, with the same columns. Main statements: `answers_iff_stored` and
`answers_iff_execute`.
-/

namespace EntityQuery

variable {E : Type} {s : Schema E}

/-- What a plan filters and sorts by is stored as it compares, so there is no date, no decimal and
no NaN among it; and no document is selected. -/
structure Plan.IsNative (s : Schema E) (p : Plan) : Prop where
  filter : ∀ q ∈ p.filter, ∀ f ∈ q.fields, (s.typeOf f).kind.isNative
  constants : ∀ q ∈ p.filter, ∀ v ∈ q.constants, v.isNaN = false
  order : ∀ key, p.arrangement = .sorted (some key) → (s.typeOf key.field).kind.isNative
  columns : ∀ q ∈ p.projection, ∀ c ∈ q.columns, c.structured = false

/-- A field that the results of a plan are sorted by or made of. -/
def Plan.Reports (p : Plan) (f : FieldRef) : Prop :=
  (∃ key, p.arrangement = .sorted (some key) ∧ key.field = f) ∨
    ∀ q ∈ p.projection, ∃ c ∈ q.columns, c.field = f

/-- What a plan reports of the entities that pass its filter reads the same when the navigations
that it does not include are unloaded. -/
def Plan.ReportsStay (s : Schema E) (p : Plan) (rows : List E) : Prop :=
  ∀ e ∈ rows, passes s p.filter e → ∀ f, s.Declares f → p.Reports f →
    s.read (s.unloadExcept p.includes e) f = s.read e f

lemma Schema.FieldsStay.reportsStay (hs : s.FieldsStay) (p : Plan) (rows : List E) :
    p.ReportsStay s rows :=
  fun e _ _ _ hf _ => hs.read_unloadExcept hf.mem p.includes e

namespace Sql

/-- The query that the statement of a plan is read as. -/
def queryOf (s : Schema E) (table : String) (p : Plan) (key : SortKey) : Query :=
  .ofSelect table (outputs s p.projection) (some (.ofKey key))
    (p.filter.map (Condition.ofPredicate s)) (Window.ofPage p.page)

/-- The arguments that the statement of a plan is run with. -/
def argumentsOf (s : Schema E) (table : String) (p : Plan) : List Datum :=
  (select s table p).fragment.params.map .ofParam

section Plans

variable {p : Plan} {key : SortKey} (table : String)

/-! ### Reading -/

lemma select_eq (hp : p.Resolves s key) :
    select s table p = .select table (outputs s p.projection) (.rows (some (.ofKey key)))
      (p.filter.map (Condition.ofPredicate s)) (Window.ofPage p.page) := by
  rw [select, Plan.effectiveProjection, hp.arrangement]
  rfl

lemma outputs_ne_nil_of_resolves (hp : p.Resolves s key) : outputs s p.projection ≠ [] :=
  outputs_ne_nil (List.ne_nil_of_mem hp.order.mem) fun q hq => (hp.columns q hq).1

lemma ofText_select_plan (hp : p.Resolves s key) :
    Query.ofText (select s table p).fragment.text = some (queryOf s table p key) := by
  rw [select_eq table hp]
  exact Query.ofText_select _ _ _ _ (outputs_ne_nil_of_resolves hp)

lemma bound_argumentsOf (hp : p.Resolves s key) :
    Bound (argumentsOf s table p) 0
        (parameters (whereTokens (p.filter.map (Condition.ofPredicate s)))) ∧
      Bound (argumentsOf s table p) (filterCount (p.filter.map (Condition.ofPredicate s)))
        (parameters (windowTokens (Window.ofPage p.page))) := by
  refine bound_of_parameters ?_
  rw [select_eq table hp, parameters_select]

/-! ### Names -/

/-- A label that is spelled like the sort key belongs to the field of the sort key. -/
lemma sortColumn_eq (hs : s.NamesDiffer) (hp : p.Resolves s key) :
    (queryOf s table p key).sortColumn (.ofKey key) = key.field.name := by
  unfold Query.sortColumn
  split
  · rename_i o ho
    have hmem : o ∈ outputs s p.projection := List.mem_of_find?_eq_some ho
    have hlabel := List.find?_some ho
    cases hprojection : p.projection with
    | none =>
      rw [hprojection] at hmem
      obtain ⟨field, -, rfl⟩ := List.mem_map.1 hmem
      cases hlabel
    | some q =>
      rw [hprojection] at hmem
      obtain ⟨c, hc, rfl⟩ := List.mem_map.1 hmem
      obtain ⟨hdeclares, hname⟩ := (hp.columns q hprojection).2 c hc
      have hsame : Text.sameFolded c.field.name key.field.name := by
        rw [Text.sameFolded, ← beq_iff_eq.1 hname]
        exact hlabel
      rw [hdeclares.eq_of_sameFolded hs hp.order hsame]
  · rfl

lemma resolves_tableOf (hs : s.NamesDiffer) (hp : p.Resolves s key) (rows : List E) :
    (queryOf s table p key).Resolves (tableOf s table rows) := by
  refine ⟨beq_self_eq_true _, fun name hname => ?_⟩
  have hdeclared : name ∈ s.fields.map Field.name := by
    simp only [Query.columns, List.mem_append] at hname
    rcases hname with (hname | hname) | hname
    · obtain ⟨o, ho, rfl⟩ := List.mem_map.1 hname
      exact column_mem_of_mem_outputs (fun q hq c hc => ((hp.columns q hq).2 c hc).1) ho
    · exact column_mem_of_mem_filter hp.filter hname
    · simp only [queryOf, Query.ofSelect, Option.map_some, Option.toList_some,
        List.mem_singleton] at hname
      rw [hname]
      exact (sortColumn_eq table hs hp) ▸ hp.order.name_mem
  exact ⟨name, hdeclared, beq_self_eq_true _⟩

/-! ### Rows -/

lemma kept?_queryOf (hs : s.NamesDiffer) (hp : p.Resolves s key) (hnative : p.IsNative s)
    {rows : List E} (hrows : ∀ e ∈ rows, s.Conforms e ∧ s.NaNFree e) :
    (queryOf s table p key).kept? (argumentsOf s table p) (rows.map (image s)) =
      some ((rows.filter (Plan.passes s p.filter)).map (image s)) :=
  kept?_of_filter hs rfl hp.filter hnative.filter hnative.constants (bound_argumentsOf table hp).1
    hrows

/-! ### Order -/

lemma precedes_image_iff (hs : s.NamesDiffer) (hp : p.Resolves s key) (hnative : p.IsNative s)
    {a b : E} (ha : s.Conforms a ∧ s.NaNFree a) (hb : s.Conforms b ∧ s.NaNFree b) :
    (queryOf s table p key).Precedes (image s a) (image s b) ↔ (key.compare s a b).isLE := by
  have hcompare := compareBy_image hs hp.order (hnative.order key hp.arrangement) ha hb
  rw [precedes_iff (rfl : _ = some _), sortColumn_eq table hs hp, Ordering.isLE_iff_ne_gt,
    ← hcompare]
  rfl

/-- Where nothing ties, there is one way to sort the rows, that of the sort key. -/
lemma sorted_iff (hs : s.NamesDiffer) (hp : p.Resolves s key) (hnative : p.IsNative s)
    {es : List E} (hes : ∀ e ∈ es, s.Conforms e ∧ s.NaNFree e)
    (hties : es.Pairwise fun a b => key.compare s a b ≠ .eq)
    (sorted : List (List (String × Datum))) :
    (sorted.Perm (es.map (image s)) ∧ sorted.Pairwise (queryOf s table p key).Precedes) ↔
      sorted = (key.sort s es).map (image s) := by
  have hperm := key.sort_perm s es
  have hrises : ((key.sort s es).map (image s)).Pairwise (queryOf s table p key).Precedes := by
    have hsorted := SortKey.pairwise_sort (transitive_of_conforms hp.order) hes
    refine List.pairwise_map.2 (hsorted.imp_of_mem fun ha hb hle => ?_)
    exact (precedes_image_iff table hs hp hnative (hes _ (hperm.mem_iff.1 ha))
      (hes _ (hperm.mem_iff.1 hb))).2 hle
  constructor
  · rintro ⟨hsorted, hpairwise⟩
    -- two rows that may stand in either order are the row of one entity
    refine List.Perm.eq_of_pairwise (fun a b ha hb hab hba => ?_) hpairwise hrises
      (hsorted.trans (hperm.map _).symm)
    obtain ⟨a, hmema, rfl⟩ := List.mem_map.1 (hsorted.mem_iff.1 ha)
    obtain ⟨b, hmemb, rfl⟩ := List.mem_map.1 (((hperm.map _).mem_iff).1 hb)
    rw [precedes_image_iff table hs hp hnative (hes a hmema) (hes b hmemb)] at hab
    rw [precedes_image_iff table hs hp hnative (hes b hmemb) (hes a hmema)] at hba
    have heq := key.eq_of_isLE s hab hba
    have : Std.Symm fun a b => key.compare s a b ≠ .eq :=
      ⟨fun a b h => by rw [key.compare_swap s a b]; simpa using h⟩
    by_contra hne
    exact hties.forall hmema hmemb (fun h => hne (congrArg _ h)) heq
  · rintro rfl
    exact ⟨hperm.map _, hrises⟩

/-! ### Answers -/

/-- The query of a plan has one answer, the page of the sorted rows as they are stored. -/
lemma answers_iff_stored (hs : s.NamesDiffer) (hp : p.Resolves s key) (hnative : p.IsNative s)
    {rows : List E} (hrows : ∀ e ∈ rows, s.Conforms e ∧ s.NaNFree e)
    (hties : (rows.filter (Plan.passes s p.filter)).Pairwise
      fun a b => key.compare s a b ≠ .eq) (answer : List (List (String × Datum))) :
    (select s table p).fragment.Answers (tableOf s table rows) answer ↔
      ((p.page.apply (key.sort s (rows.filter (Plan.passes s p.filter)))).map (image s)).mapM
        (fun row => (outputs s p.projection).mapM (Output.value? row)) = some answer := by
  have hkept := kept?_queryOf table hs hp hnative hrows
  have hpassing : ∀ e ∈ rows.filter (Plan.passes s p.filter), s.Conforms e ∧ s.NaNFree e :=
    fun e he => hrows e (List.mem_filter.1 he).1
  have hsorted := sorted_iff table hs hp hnative hpassing hties
  have hshown := shown?_eq p.page (bound_argumentsOf table hp).2
    (show (queryOf s table p key).window = _ from rfl)
    ((key.sort s (rows.filter (Plan.passes s p.filter))).map (image s))
  rw [Page.apply_map] at hshown
  constructor
  · rintro ⟨q, hq, -, kept, sorted, shown, hkept', hperm, hpairwise, hshown', hanswer⟩
    rw [ofText_select_plan table hp, Option.some.injEq] at hq
    subst hq
    obtain rfl := Option.some.inj (hkept.symm.trans hkept')
    obtain rfl := (hsorted sorted).1 ⟨hperm, hpairwise⟩
    obtain rfl := Option.some.inj (hshown.symm.trans hshown')
    exact hanswer
  · intro hanswer
    obtain ⟨hperm, hpairwise⟩ := (hsorted _).2 rfl
    exact ⟨_, ofText_select_plan table hp, resolves_tableOf table hs hp rows, _, _, _, hkept,
      hperm, hpairwise, hshown, hanswer⟩

/-- A plan yields, of each entity of one page of those that pass, what its query shows of the row
that is stored for it. -/
lemma exists_hits_of_resolves (hs : s.NamesDiffer) (hp : p.Resolves s key) (hnative : p.IsNative s)
    {rows : List E} (hstay : p.ReportsStay s rows) :
    ∃ hits, p.execute s rows = .ok hits ∧
      ((p.page.apply (key.sort s (rows.filter (Plan.passes s p.filter)))).map (image s)).mapM
        (fun row => (outputs s p.projection).mapM (Output.value? row)) =
          some (hits.map (hitImage s)) := by
  have hdeclares : ∀ q ∈ p.projection, ∀ c ∈ q.columns, s.Declares c.field :=
    fun q hq c hc => ((hp.columns q hq).2 c hc).1
  have hkey : ∀ e ∈ rows.filter (Plan.passes s p.filter),
      s.read (s.unloadExcept p.includes e) key.field = s.read e key.field := by
    intro e he
    obtain ⟨hmem, hpasses⟩ := List.mem_filter.1 he
    exact hstay e hmem hpasses key.field hp.order (.inl ⟨key, hp.arrangement, rfl⟩)
  have hsorted := key.sort_map s hkey
  set shown := p.page.apply (key.sort s (rows.filter (Plan.passes s p.filter))) with hshown
  obtain ⟨hits, hpresent, hselected⟩ := exists_hits hs hdeclares hnative.columns
    (shown.map (s.unloadExcept p.includes))
  refine ⟨hits, ?_, hselected ▸ ?_⟩
  · have hvalid : p.validate = .ok () := by rw [Plan.validate, hp.arrangement]
    rw [Plan.execute_eq s hvalid, Plan.chosen, Plan.effectiveProjection, hp.arrangement]
    rw [hshown, ← Page.apply_map, ← hsorted] at hpresent
    exact hpresent
  · rw [List.map_map, List.mapM_map, List.mapM_map]
    refine Result.mapM_congr fun e he => ?_
    have hpassing := (key.sort_perm s _).mem_iff.1 (p.page.mem_of_mem_apply he)
    obtain ⟨hmem, hpasses⟩ := List.mem_filter.1 hpassing
    exact (selected_congr hs hdeclares fun f hf hc =>
      hstay e hmem hpasses f hf (.inr hc)).symm

/-- **The query of a sorted listing answers what its plan yields in memory**: the plan of a request
yields results from the entities, and the text of its query, run with its parameters on the table
that holds a row for each entity, has one answer, the images of these results in the same order,
each with the same columns. What the results are sorted by and made of reads the same when
navigations are unloaded, and no two entities that pass the filter tie. -/
theorem answers_iff_execute {d : SchemaDraft E} (hs : d.build = .ok s)
    {request : ListingRequest} {l : Listing} (hl : Listing.ofRequest s request = .ok l)
    {settings : RepositorySettings} (hkey : l.sortKey s settings = some key)
    (hnative : (l.plan s settings).IsNative s) {rows : List E}
    (hstay : (l.plan s settings).ReportsStay s rows)
    (hrows : ∀ e ∈ rows, s.Conforms e ∧ s.NaNFree e)
    (hties : (rows.filter (Plan.passes s l.filter)).Pairwise
      fun a b => key.compare s a b ≠ .eq) :
    ∃ hits, (l.plan s settings).execute s rows = .ok hits ∧ ∀ answer,
      (select s table (l.plan s settings)).fragment.Answers (tableOf s table rows) answer ↔
        answer = hits.map (hitImage s) := by
  have hdiffer := (SchemaDraft.of_build_eq_ok hs).2.2.2
  have hp := Listing.resolves_of_ofRequest hs hl hkey
  obtain ⟨hits, hexecute, hselected⟩ := exists_hits_of_resolves hdiffer hp hnative hstay
  refine ⟨hits, hexecute, fun answer => ?_⟩
  rw [answers_iff_stored table hdiffer hp hnative hrows hties, hselected, Option.some.injEq,
    eq_comm]

/-- Cities outside the north by name, downward and without the first: the query shows what the plan
yields. -/
theorem answers_of_cities :
    let t : SlotsType := { Samples.city with navigations := ["Sights"] }
    let s : Schema Slots := ⟨"City", t.draft.fields, t.draft.navigations, [], none⟩
    let city (name : String) (region : Value) (population : Int64) : Slots :=
      ⟨.fresh Uuid.nil Instant.epoch, [.text name, region, .int population], [["Harbour"]], none⟩
    let rows := [city "Bergen" .null 300, city "Hamar" (.text "North") 30,
      city "Oslo" (.text "East") 700, city "Arendal" .null 45]
    let request : ListingRequest :=
      { ListingRequest.usual with
        selection := some (.ofNames ["population", "NAME"])
        filter := some ⟨"Region", .notEqual, some "North"⟩
        order := some ⟨"name", true⟩
        skip := 1
        take := 0 }
    let key : SortKey := ⟨⟨0, "Name"⟩, .descending⟩
    let l : Listing :=
      { includes := []
        filter := some (.compare ⟨1, "Region"⟩ .notEqual (.text "North"))
        order := some key
        projection := some
          ⟨[⟨"population", ⟨2, "Population"⟩, false⟩, ⟨"NAME", ⟨0, "Name"⟩, false⟩]⟩
        page := ⟨1, 0⟩ }
    t.draft.build = .ok s ∧ Listing.ofRequest s request = .ok l ∧
      l.sortKey s .usual = some key ∧ (l.plan s .usual).IsNative s ∧
      (l.plan s .usual).ReportsStay s rows ∧ (∀ e ∈ rows, s.Conforms e ∧ s.NaNFree e) ∧
      ((rows.filter (Plan.passes s l.filter)).Pairwise fun a b => key.compare s a b ≠ .eq) ∧
      ∀ answer, (select s "City" (l.plan s .usual)).fragment.Answers (tableOf s "City" rows)
        answer ↔
          answer = [[("population", .integer 300), ("NAME", .text "Bergen")],
            [("population", .integer 45), ("NAME", .text "Arendal")]] := by
  intro t s city rows request key l
  have built : t.draft.build = .ok s := rfl
  have stay : (l.plan s .usual).ReportsStay s rows :=
    (t.fieldsStay_slots built).reportsStay (l.plan s .usual) rows
  have resolved : Listing.ofRequest s request = .ok l := by
    simp only [s, t, request]
    rfl
  have native : (l.plan s .usual).IsNative s := by
    constructor
    · rintro q ⟨⟩ f hf
      obtain rfl := List.mem_singleton.1 hf
      rfl
    · rintro q ⟨⟩ v hv
      obtain rfl := List.mem_singleton.1 hv
      rfl
    · rintro key ⟨⟩
      rfl
    · rintro q ⟨⟩
      decide
  have conform : ∀ e ∈ rows, s.Conforms e ∧ s.NaNFree e := by decide
  have untied : (rows.filter (Plan.passes s l.filter)).Pairwise
      fun a b => key.compare s a b ≠ .eq := by decide
  have executed : (l.plan s .usual).execute s rows = .ok
      [.row ⟨[("population", .int 300), ("NAME", .text "Bergen")]⟩,
        .row ⟨[("population", .int 45), ("NAME", .text "Arendal")]⟩] := rfl
  obtain ⟨hits, hexecute, hanswers⟩ := answers_iff_execute (d := t.draft) "City" built resolved
    (rfl : l.sortKey s .usual = some key) native stay conform untied
  obtain rfl := Except.ok.inj (executed.symm.trans hexecute)
  exact ⟨built, resolved, rfl, native, stay, conform, untied, hanswers⟩

/-- Two tasks by the number of their steps, most first. The steps are not included, so the plan
sorts and shows what is left of the read-only number when they are unloaded: it yields the tasks as
they were stored, with 0. The query sorts and shows the numbers that are stored. -/
theorem answers_of_counted_steps :
    let fields : List (Field Slots) :=
      [(Samples.required "Title" .text).field 0,
        ⟨"StepCount", .required .int, fun e => .int (.ofNat (e.related.getD 0 []).length), none⟩]
    let d : SchemaDraft Slots := ⟨"Task", fields, [⟨"Steps", Slots.unload 0⟩], [], none⟩
    let s : Schema Slots := ⟨"Task", fields, [⟨"Steps", Slots.unload 0⟩], [], none⟩
    let task (title : String) (steps : List String) : Slots :=
      ⟨.fresh Uuid.nil Instant.epoch, [.text title], [steps], none⟩
    let rows := [task "sow" ["dig"], task "mow" ["sharpen", "cut"]]
    let request : ListingRequest :=
      { ListingRequest.usual with
        selection := some (.ofNames ["Title", "StepCount"])
        order := some ⟨"StepCount", true⟩ }
    let key : SortKey := ⟨⟨1, "StepCount"⟩, .descending⟩
    let l : Listing :=
      { includes := []
        filter := none
        order := some key
        projection := some
          ⟨[⟨"Title", ⟨0, "Title"⟩, false⟩, ⟨"StepCount", ⟨1, "StepCount"⟩, false⟩]⟩
        page := ⟨0, 10⟩ }
    let hits : List (Hit Slots) :=
      [.row ⟨[("Title", .text "sow"), ("StepCount", .int 0)]⟩,
        .row ⟨[("Title", .text "mow"), ("StepCount", .int 0)]⟩]
    d.build = .ok s ∧ Listing.ofRequest s request = .ok l ∧ l.sortKey s .usual = some key ∧
      (l.plan s .usual).IsNative s ∧ (∀ e ∈ rows, s.Conforms e ∧ s.NaNFree e) ∧
      ((rows.filter (Plan.passes s l.filter)).Pairwise fun a b => key.compare s a b ≠ .eq) ∧
      (l.plan s .usual).execute s rows = .ok hits ∧
      (∀ answer, (select s "Task" (l.plan s .usual)).fragment.Answers (tableOf s "Task" rows)
        answer ↔
          answer = [[("Title", .text "mow"), ("StepCount", .integer 2)],
            [("Title", .text "sow"), ("StepCount", .integer 1)]]) ∧
      ¬ (select s "Task" (l.plan s .usual)).fragment.Answers (tableOf s "Task" rows)
        (hits.map (hitImage s)) := by
  intro fields d s task rows request key l hits
  have built : d.build = .ok s := by
    simp only [d, s, fields]
    rfl
  have resolved : Listing.ofRequest s request = .ok l := by
    simp only [s, fields, request]
    rfl
  have native : (l.plan s .usual).IsNative s := by
    constructor
    · rintro q ⟨⟩
    · rintro q ⟨⟩
    · rintro key ⟨⟩
      rfl
    · rintro q ⟨⟩
      decide
  have conform : ∀ e ∈ rows, s.Conforms e ∧ s.NaNFree e := by decide
  have untied : (rows.filter (Plan.passes s l.filter)).Pairwise
      fun a b => key.compare s a b ≠ .eq := by decide
  have executed : (l.plan s .usual).execute s rows = .ok hits := rfl
  have answers : ∀ answer, (select s "Task" (l.plan s .usual)).fragment.Answers
      (tableOf s "Task" rows) answer ↔
        answer = [[("Title", .text "mow"), ("StepCount", .integer 2)],
          [("Title", .text "sow"), ("StepCount", .integer 1)]] := by
    intro answer
    refine (answers_iff_stored "Task" (SchemaDraft.of_build_eq_ok built).2.2.2
      (Listing.resolves_of_ofRequest built resolved rfl) native conform untied answer).trans ?_
    have stored : ((key.sort s rows).map (image s)).mapM
        (fun row => (outputs s (l.plan s .usual).projection).mapM (Output.value? row)) =
          some [[("Title", .text "mow"), ("StepCount", .integer 2)],
            [("Title", .text "sow"), ("StepCount", .integer 1)]] := by decide
    exact (Eq.congr_left stored).trans ((Option.some.injEq _ _).to_iff.trans eq_comm)
  refine ⟨built, resolved, rfl, native, conform, untied, executed, answers, fun h => ?_⟩
  have hshown := (answers _).1 h
  exact absurd hshown (by decide)

end Plans

end Sql

end EntityQuery
