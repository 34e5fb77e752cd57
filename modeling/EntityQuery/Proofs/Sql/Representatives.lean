import EntityQuery.Proofs.Plan.Grouping
import EntityQuery.Proofs.Sql.Numbering
import EntityQuery.Proofs.Sql.Selection
import Mathlib.Data.List.Perm.Basic

/-!
The query of a grouped plan and its execution in memory. A part of the table holds the rows of a
group, numbered in the order of choice, so where nothing ties within a group the row with number 1
is that of the entity that stands for the group. This takes a column of numbers that is found by its
name: a field of the same name, ASCII case not counting, hides it. Main statement:
`answersNumbered_iff_execute`.
-/

namespace EntityQuery

variable {E : Type} {s : Schema E}

/-- A valid plan whose names are resolved, and which chooses from each group by an order. -/
structure Plan.ResolvesGroups (s : Schema E) (p : Plan) (key : GroupKey) (r : Representative)
    (order : SortKey) : Prop where
  valid : p.validate = .ok ()
  arrangement : p.arrangement = .grouped key r
  chooses : r.order = some order
  key : s.Declares key.field
  order : s.Declares order.field
  filter : ∀ q ∈ p.filter, q.WellTyped s
  columns : ∀ q ∈ p.effectiveProjection, q.columns ≠ [] ∧ ∀ c ∈ q.columns, s.Declares c.field

/-- What a plan filters, groups and chooses by is stored as it compares, so there is no date, no
decimal and no NaN among it; and no document is selected. -/
structure Plan.GroupsNative (s : Schema E) (p : Plan) (key : GroupKey) (order : SortKey) :
    Prop where
  filter : ∀ q ∈ p.filter, ∀ f ∈ q.fields, (s.typeOf f).kind.isNative
  constants : ∀ q ∈ p.filter, ∀ v ∈ q.constants, v.isNaN = false
  key : (s.typeOf key.field).kind.isNative
  order : (s.typeOf order.field).kind.isNative
  columns : ∀ q ∈ p.effectiveProjection, ∀ c ∈ q.columns, c.structured = false

/-- Members of enumerations that are keys are told apart by their ordinals. -/
def GroupKey.OrdinalsTell (s : Schema E) (k : GroupKey) (es : List E) : Prop :=
  ∀ a ∈ es, ∀ b ∈ es, ∀ m m', s.read a k.field = .enum m → s.read b k.field = .enum m' →
    m.ordinal = m'.ordinal → m = m'

lemma GroupKey.ordinalsTell_of_kind {k : GroupKey} (hkey : s.Declares k.field)
    (hkind : ∀ type, (s.typeOf k.field).kind ≠ .enum type) {es : List E}
    (hes : ∀ e ∈ es, s.Conforms e) : k.OrdinalsTell s es := by
  intro a ha _ _ m _ hm
  have hadmits : (s.typeOf k.field).admits (s.read a k.field) := hes a ha _ hkey.mem
  rw [hm] at hadmits
  cases h : (s.typeOf k.field).kind with
  | enum type => exact absurd h (hkind type)
  | _ =>
    rw [FieldType.admits, h] at hadmits
    cases hadmits

/-- The plan of a grouping that chooses by an order has its names resolved. -/
lemma Grouping.resolves_of_ofRequest {request : GroupingRequest} {g : Grouping}
    (hg : ofRequest s request = .ok g) {order : SortKey}
    (horder : g.representative.order = some order) (settings : RepositorySettings) :
    (g.plan settings).ResolvesGroups s g.key g.representative order := by
  obtain ⟨filter, key, ⟨order', projection⟩, page⟩ := g
  obtain rfl : order' = some order := horder
  obtain ⟨hfilter, hkey, hr, -⟩ := ofRequest_eq_ok_iff.1 hg
  obtain ⟨f, hf, hkey⟩ := Result.bind_eq_ok_iff.1 hkey
  cases hkey
  obtain ⟨horder, hprojection⟩ := Representative.ofRule_eq_ok_iff.1 hr
  refine ⟨?_, rfl, rfl, Schema.declares_of_resolve hf, ?_, fun q hq => ?_, fun q hq => ?_⟩
  · exact if_neg fun h => nomatch h.2
  · exact SortKey.declares_of_ofRule horder
  · obtain ⟨list, -, hlist⟩ := Result.exists_of_mapM_eq_ok (hfilter.trans (congrArg _ hq))
    exact Predicate.wellTyped_of_ofList hlist
  · have hprojected : projection = some q := by
      cases projection with
      | none => cases hq
      | some q' => exact hq
    obtain ⟨selection, -, hselection⟩ :=
      Result.exists_of_mapM_eq_ok (hprojection.trans (congrArg _ hprojected))
    obtain ⟨hne, hdeclared⟩ := Projection.declared_ofSelection hselection
    exact ⟨hne, fun c hc => (hdeclared c hc).1⟩

namespace Sql

/-- The numbering that the statement of a grouped plan is read with. -/
def numberingOf (s : Schema E) (table : String) (p : Plan) (key : GroupKey) (order : SortKey) :
    Numbering :=
  .ofSource table key.field.name (some (.ofKey order)) (p.filter.map (Condition.ofPredicate s))

/-- The query of numbered rows that the statement of a grouped plan is read with. -/
def firstsOf (s : Schema E) (p : Plan) : Query :=
  .ofFirst (outputs s p.effectiveProjection) (p.filter.map (Condition.ofPredicate s))
    (Window.ofPage p.page)

section Plans

variable {p : Plan} {key : GroupKey} {r : Representative} {order : SortKey} (table : String)

/-! ### Reading -/

lemma select_grouped (hp : p.ResolvesGroups s key r order) :
    select s table p =
      .select table (outputs s p.effectiveProjection)
        (.firstOfEach key.field.name (some (.ofKey order)))
        (p.filter.map (Condition.ofPredicate s)) (Window.ofPage p.page) := by
  rw [select, hp.arrangement]
  simp only [hp.chooses]
  rfl

lemma ofNumberedText_plan (hp : p.ResolvesGroups s key r order) :
    Query.ofNumberedText (select s table p).fragment.text =
      some (numberingOf s table p key order, firstsOf s p) := by
  have houtputs : outputs s p.effectiveProjection ≠ [] :=
    outputs_ne_nil (List.ne_nil_of_mem hp.key.mem) fun q hq => (hp.columns q hq).1
  rw [select_grouped table hp]
  exact Query.ofNumberedText_select _ _ _ _ _ houtputs

/-! ### Numbered rows -/

lemma resolves_numberingOf (hp : p.ResolvesGroups s key r order) (rows : List E) :
    (numberingOf s table p key order).Resolves (tableOf s table rows) := by
  refine ⟨⟨beq_self_eq_true _, fun name hname => ?_⟩, _, hp.key.name_mem, beq_self_eq_true _⟩
  have hdeclared : name ∈ s.fields.map Field.name := by
    simp only [Query.columns, List.mem_append] at hname
    rcases hname with (hname | hname) | hname
    · cases hname
    · exact column_mem_of_mem_filter hp.filter hname
    · rw [List.mem_singleton.1 hname]
      exact hp.order.name_mem
  exact ⟨name, hdeclared, beq_self_eq_true _⟩

lemma kept?_numberingOf (hs : s.NamesDiffer) (hstay : s.FieldsStay)
    (hp : p.ResolvesGroups s key r order) (hnative : p.GroupsNative s key order) {rows : List E}
    (hrows : ∀ e ∈ rows, s.Conforms e ∧ s.NaNFree e) :
    (numberingOf s table p key order).source.kept? (argumentsOf s table p)
        (rows.map (image s)) = some ((p.kept s rows).map (image s)) := by
  have hbound := (bound_of_parameters ((congrArg (fun s => parameters s.tokens)
    (select_grouped table hp)).trans (parameters_firstOfEach ..))).1
  rw [map_image_kept hstay]
  exact kept?_of_filter hs rfl hp.filter hnative.filter hnative.constants hbound hrows

/-- The rows of two entities belong to one part exactly if the entities belong to one group. -/
lemma samePart_image (hs : s.NamesDiffer) (hp : p.ResolvesGroups s key r order)
    (hnative : p.GroupsNative s key order) {es : List E}
    (hes : ∀ e ∈ es, s.Conforms e ∧ s.NaNFree e) (hordinals : key.OrdinalsTell s es) {a b : E}
    (ha : a ∈ es) (hb : b ∈ es) :
    (numberingOf s table p key order).samePart (image s a) (image s b) = key.same s a b := by
  have hcolumn (e : E) := column?_image (e := e) hs hp.key
  simp only [Numbering.samePart, numberingOf, Numbering.ofSource, hcolumn, Option.getD_some]
  exact Datum.same_ofValue hnative.key ((hes a ha).1 _ hp.key.mem) ((hes b hb).1 _ hp.key.mem)
    ((hes a ha).2 _ hp.key.mem) ((hes b hb).2 _ hp.key.mem) (hordinals a ha b hb)

lemma precedes_source_iff (hs : s.NamesDiffer) (hp : p.ResolvesGroups s key r order)
    (hnative : p.GroupsNative s key order) {a b : E} (ha : s.Conforms a ∧ s.NaNFree a)
    (hb : s.Conforms b ∧ s.NaNFree b) :
    (numberingOf s table p key order).source.Precedes (image s a) (image s b) ↔
      (order.compare s a b).isLE := by
  have hcompare := compareBy_image hs hp.order hnative.order ha hb
  rw [precedes_iff rfl, Ordering.isLE_iff_ne_gt, ← hcompare]
  rfl

lemma perm_map_iff {α β : Type} {f : α → β} {as : List α} {bs : List β} :
    bs.Perm (as.map f) ↔ ∃ es : List α, bs = es.map f ∧ es.Perm as :=
  (congrFun (congrFun (List.eq_map_comp_perm f) bs) as).symm.to_iff

/-- The numbered tables that a plan may make: its entities, arranged so that those of one group
rise, are numbered. -/
lemma yields_iff (hs : s.NamesDiffer) (hstay : s.FieldsStay) (hp : p.ResolvesGroups s key r order)
    (hnative : p.GroupsNative s key order) {rows : List E}
    (hrows : ∀ e ∈ rows, s.Conforms e ∧ s.NaNFree e)
    (hordinals : key.OrdinalsTell s (p.kept s rows)) (t : Table) :
    (numberingOf s table p key order).Yields (tableOf s table rows) (argumentsOf s table p) t ↔
      t.name = "" ∧ t.columns = s.fields.map Field.name ++ [rowNumber] ∧
        ∃ es : List E, es.Perm (p.kept s rows) ∧
          es.Pairwise (fun a b => key.same s a b → (order.compare s a b).isLE) ∧
          t.rows = (numberingOf s table p key order).number [] (es.map (image s)) := by
  have hkept := kept?_numberingOf table hs hstay hp hnative hrows
  have hconform := of_mem_kept hstay (p := p) hrows
  have hpairwise {es : List E} (hperm : es.Perm (p.kept s rows)) :
      (es.map (image s)).Pairwise (fun a b =>
          (numberingOf s table p key order).samePart a b →
            (numberingOf s table p key order).source.Precedes a b) ↔
        es.Pairwise fun a b => key.same s a b → (order.compare s a b).isLE := by
    rw [List.pairwise_map]
    refine List.Pairwise.iff_of_mem fun {a b} ha hb => ?_
    rw [hperm.mem_iff] at ha hb
    rw [samePart_image table hs hp hnative hconform hordinals ha hb,
      precedes_source_iff table hs hp hnative (hconform a ha) (hconform b hb)]
  constructor
  · rintro ⟨-, hname, hcolumns, kept, arranged, hkept', hperm, hrises, hnumbered⟩
    obtain rfl := Option.some.inj (hkept.symm.trans hkept')
    obtain ⟨es, rfl, hes⟩ := perm_map_iff.1 hperm
    exact ⟨hname, hcolumns, es, hes, (hpairwise hes).1 hrises, hnumbered⟩
  · rintro ⟨hname, hcolumns, es, hperm, hrises, hnumbered⟩
    exact ⟨resolves_numberingOf table hp rows, hname, hcolumns, _, _, hkept, hperm.map _,
      (hpairwise hperm).2 hrises, hnumbered⟩

/-! ### First rows -/

/-- The row of an entity that is the first of its group. -/
def firstRow (s : Schema E) (e : E) : List (String × Datum) :=
  image s e ++ [(rowNumber, .integer 1)]

/-- The column of numbers is found where no field has its name. -/
lemma keeps?_numbered (hname : ∀ field ∈ s.fields, Text.sameFolded field.name rowNumber = false)
    (p : Plan) (arguments : List Datum) (e : E) (n : ℕ) :
    (firstsOf s p).keeps? arguments (image s e ++ [(rowNumber, .integer n)]) =
      some (decide (n = 1)) := by
  have himage : (image s e).find? (fun c => Text.sameFolded c.1 rowNumber) = none := by
    rw [List.find?_eq_none]
    intro c hc
    obtain ⟨field, hfield, rfl⟩ := List.mem_map.1 hc
    simpa using hname field hfield
  have hcolumn : Expression.column? (image s e ++ [(rowNumber, .integer n)]) rowNumber =
      some (.integer n) := by
    rw [Expression.column?, List.find?_append, himage]
    simp [Text.sameFolded]
  have heval : (Expression.binary .equal (.column rowNumber) (.integer 1)).eval
      (image s e ++ [(rowNumber, .integer n)]) arguments =
        some (Datum.ofTruth (some (decide (n = 1)))) := by
    have hcompare : (compare (n : Int) 1 == .eq) = decide (n = 1) := by
      rw [Bool.eq_iff_iff, beq_iff_eq, decide_eq_true_iff, Int.compare_eq_eq]
      omega
    rw [← hcompare]
    exact Expression.eval_binary (Expression.eval_column hcolumn) (Expression.eval_integer 1) .equal
  simp [firstsOf, Query.ofFirst, Query.keeps?, Expression.isTrue, heval, Datum.truth?_ofTruth]

/-- The rows with number 1 are those of the entities that are the first with their keys. -/
lemma kept?_number (hname : ∀ field ∈ s.fields, Text.sameFolded field.name rowNumber = false)
    (p : Plan) (arguments : List Datum) {n : Numbering} (hlabel : n.label = rowNumber)
    (before es : List E)
    (hsame : ∀ a ∈ es, ∀ b ∈ before ++ es, n.samePart (image s a) (image s b) = key.same s a b) :
    (firstsOf s p).kept? arguments (n.number (before.map (image s)) (es.map (image s))) =
      some ((key.firsts s before es).map (firstRow s)) := by
  -- the rows in front grow with every row, and a row has number 1 if none of them has its key
  induction es generalizing before with
  | nil => rfl
  | cons e es ih =>
    rw [List.forall_mem_cons] at hsame
    have hrest := ih (e :: before) fun a ha b hb =>
      hsame.2 a ha b (by simp only [List.mem_append, List.mem_cons] at hb ⊢; tauto)
    have hcount : (before.map (image s)).countP (n.samePart (image s e)) =
        before.countP (key.same s e) := by
      rw [List.countP_map]
      exact List.countP_congr fun b hb =>
        Bool.eq_iff_iff.1 (hsame.1 b (List.mem_append_left _ hb))
    have hnone : before.countP (key.same s e) + 1 = 1 ↔ ¬ before.any (key.same s e) := by
      simp
    rw [List.map_cons] at hrest
    rw [List.map_cons, Numbering.number, hlabel, hcount, Query.kept?, keeps?_numbered hname, hrest,
      GroupKey.firsts]
    cases hseen : before.any (key.same s e) with
    | true =>
      rw [decide_eq_false (mt hnone.1 (not_not_intro hseen))]
      rfl
    | false =>
      have hcount := hnone.2 (by simp [hseen])
      rw [hcount]
      rfl

lemma mapM_value?_firstRow {os : List Output} {e : E} {columns : List (String × Datum)}
    (h : os.mapM (Output.value? (image s e)) = some columns) :
    os.mapM (Output.value? (firstRow s e)) = some columns := by
  refine mapM_eq_some_iff.2 ((mapM_eq_some_iff.1 h).imp fun o c hc => ?_)
  obtain ⟨found, hfound, hc⟩ := Option.map_eq_some_iff.1 hc
  rw [Output.value?, firstRow, List.find?_append, hfound]
  exact congrArg some hc

lemma resolves_firstsOf (hp : p.ResolvesGroups s key r order) {t : Table} (htable : t.name = "")
    (hcolumns : t.columns = s.fields.map Field.name ++ [rowNumber]) :
    (firstsOf s p).Resolves t := by
  rw [Query.Resolves, htable, hcolumns]
  refine ⟨beq_self_eq_true _, fun name hmem => ⟨name, ?_, beq_self_eq_true _⟩⟩
  simp only [Query.columns, List.mem_append] at hmem
  rcases hmem with (hmem | hmem) | hmem
  · obtain ⟨o, ho, rfl⟩ := List.mem_map.1 hmem
    exact List.mem_append_left _ (column_mem_of_mem_outputs (fun q hq => (hp.columns q hq).2) ho)
  · exact List.mem_append_right _ hmem
  · cases hmem

/-- The query of a numbered table answers the results of the entities that are the first with their
keys, in any order. -/
lemma answers_firstsOf_iff (hp : p.ResolvesGroups s key r order)
    (hname : ∀ field ∈ s.fields, Text.sameFolded field.name rowNumber = false)
    (hunbounded : p.page.isUnbounded) {hit : E → Hit E}
    (hselected : ∀ e, (outputs s p.effectiveProjection).mapM (Output.value? (image s e)) =
      some (hitImage s (hit e)))
    {n : Numbering} (hlabel : n.label = rowNumber) {es : List E}
    (hsame : ∀ a ∈ es, ∀ b ∈ es, n.samePart (image s a) (image s b) = key.same s a b)
    {t : Table} (htable : t.name = "")
    (hcolumns : t.columns = s.fields.map Field.name ++ [rowNumber])
    (hnumbered : t.rows = n.number [] (es.map (image s))) (arguments : List Datum)
    (answer : List (List (String × Datum))) :
    (firstsOf s p).Answers t arguments answer ↔
      ∃ shown : List E, shown.Perm (key.firsts s [] es) ∧
        answer = shown.map fun e => hitImage s (hit e) := by
  have hresolves := resolves_firstsOf hp htable hcolumns
  have hkept : (firstsOf s p).kept? arguments t.rows =
      some ((key.firsts s [] es).map (firstRow s)) := by
    rw [hnumbered]
    exact kept?_number hname p arguments hlabel [] es hsame
  have hshown (rows : List (List (String × Datum))) :
      (firstsOf s p).shown? arguments rows = some rows := by
    have hwindow : Window.ofPage p.page = none := if_pos hunbounded
    simp [firstsOf, Query.ofFirst, Query.shown?, hwindow]
  have houtputs (shown : List E) :
      (shown.map (firstRow s)).mapM (fun row => (firstsOf s p).outputs.mapM (Output.value? row)) =
        some (shown.map fun e => hitImage s (hit e)) := by
    rw [List.mapM_map]
    exact mapM_eq_some fun e _ => mapM_value?_firstRow (hselected e)
  constructor
  · rintro ⟨-, kept, sorted, shown, hkept', hperm, -, hshown', hanswer⟩
    obtain rfl := Option.some.inj (hkept.symm.trans hkept')
    obtain rfl := Option.some.inj ((hshown sorted).symm.trans hshown')
    obtain ⟨shown, rfl, hfirsts⟩ := perm_map_iff.1 hperm
    exact ⟨shown, hfirsts, Option.some.inj (hanswer.symm.trans (houtputs shown))⟩
  · rintro ⟨shown, hfirsts, rfl⟩
    refine ⟨hresolves, _, _, _, hkept, hfirsts.map _, List.pairwise_of_forall ?_, hshown _,
      houtputs shown⟩
    intro a b term hterm
    cases hterm

/-! ### Answers -/

lemma mem_number {n : Numbering} {before rows : List (List (String × Datum))}
    {row : List (String × Datum)} (h : row ∈ n.number before rows) :
    ∃ plain ∈ rows, ∃ d, row = plain ++ [(n.label, d)] := by
  induction rows generalizing before with
  | nil => cases h
  | cons plain rows ih =>
    rcases List.mem_cons.1 h with rfl | h
    · exact ⟨plain, List.mem_cons_self, _, rfl⟩
    · obtain ⟨plain', hmem, hrow⟩ := ih h
      exact ⟨plain', List.mem_cons_of_mem _ hmem, hrow⟩

/-- The table of the numbered rows of some entities. -/
def numberedOf (s : Schema E) (n : Numbering) (es : List E) : Table where
  name := ""
  columns := s.fields.map Field.name ++ [n.label]
  rows := n.number [] (es.map (image s))
  columns_eq := fun row hrow => by
    obtain ⟨plain, hplain, d, rfl⟩ := mem_number hrow
    obtain ⟨e, -, rfl⟩ := List.mem_map.1 hplain
    simp [image, Function.comp_def]

lemma ordinalsTell_kept (hstay : s.FieldsStay) (hkey : s.Declares key.field) {rows : List E}
    (hordinals : key.OrdinalsTell s rows) : key.OrdinalsTell s (p.kept s rows) := by
  have hread (e : E) : s.read (s.unloadExcept p.includes e) key.field = s.read e key.field :=
    hstay.read_unloadExcept hkey.mem p.includes e
  intro a ha b hb
  obtain ⟨a, hmema, rfl⟩ := List.mem_map.1 ha
  obtain ⟨b, hmemb, rfl⟩ := List.mem_map.1 hb
  rw [hread, hread]
  exact hordinals a (List.mem_filter.1 hmema).1 b (List.mem_filter.1 hmemb).1

/-- Unloading navigations makes no ties. -/
lemma untied_groups (hstay : s.FieldsStay) (hp : p.ResolvesGroups s key r order) {rows : List E}
    (hties : (rows.filter (Plan.passes s p.filter)).Pairwise
      fun a b => key.same s a b → order.compare s a b ≠ .eq) :
    (p.kept s rows).Pairwise fun a b => key.same s a b → order.compare s a b ≠ .eq := by
  have hread {f : FieldRef} (hf : s.Declares f) (e : E) :
      s.read (s.unloadExcept p.includes e) f = s.read e f :=
    hstay.read_unloadExcept hf.mem p.includes e
  refine List.pairwise_map.2 (hties.imp fun {a b} hne => ?_)
  rw [GroupKey.same, SortKey.compare, hread hp.key, hread hp.key, hread hp.order, hread hp.order]
  exact hne

/-- Wherever the entities of one group rise, the first with their keys are the chosen ones. -/
lemma perm_chosen (hp : p.ResolvesGroups s key r order) {rows : List E}
    (hconform : ∀ e ∈ p.kept s rows, s.Conforms e ∧ s.NaNFree e)
    (hties : (p.kept s rows).Pairwise fun a b => key.same s a b → order.compare s a b ≠ .eq)
    {es : List E} (hperm : es.Perm (p.kept s rows))
    (hrises : es.Pairwise fun a b => key.same s a b → (order.compare s a b).isLE) :
    (key.firsts s [] es).Perm (p.chosen s rows) := by
  have hvalue {e : E} (he : s.Conforms e ∧ s.NaNFree e) :=
    And.intro (he.1 _ hp.key.mem) (he.2 _ hp.key.mem)
  have hequates := key.equates_of_admits s
  have hkeys : key.Equates s fun e => s.Conforms e ∧ s.NaNFree e :=
    ⟨fun a ha => hequates.refl a (hvalue ha), fun a b c ha => hequates.trans a b c (hvalue ha)⟩
  rw [Plan.chosen, hp.arrangement]
  exact Representative.perm_firsts hkeys hp.chooses (transitive_of_conforms hp.order) hconform hties
    hperm hrises

/-- **The query of a grouped plan answers what the plan yields in memory**: the plan yields results
from the entities, and the text of its query, run with its parameters on the table that holds a row
for each entity, has as answers the images of these results in every order, and nothing else. Fields
read the same whether navigations are loaded or not, no field is named like the column of numbers,
and no two entities of one group tie. -/
theorem answersNumbered_iff_execute {d : SchemaDraft E} (hs : d.build = .ok s)
    (hstay : s.FieldsStay)
    (hname : ∀ field ∈ s.fields, Text.sameFolded field.name rowNumber = false)
    (hp : p.ResolvesGroups s key r order) (hnative : p.GroupsNative s key order)
    (hunbounded : p.page.isUnbounded) {rows : List E}
    (hrows : ∀ e ∈ rows, s.Conforms e ∧ s.NaNFree e) (hordinals : key.OrdinalsTell s rows)
    (hties : (rows.filter (Plan.passes s p.filter)).Pairwise
      fun a b => key.same s a b → order.compare s a b ≠ .eq) :
    ∃ hits, p.execute s rows = .ok hits ∧ ∀ answer,
      (select s table p).fragment.AnswersNumbered (tableOf s table rows) answer ↔
        answer.Perm (hits.map (hitImage s)) := by
  have hdiffer := (SchemaDraft.of_build_eq_ok hs).2.2.2
  have hconform := of_mem_kept hstay (p := p) hrows
  have hkeys := ordinalsTell_kept (p := p) hstay hp.key hordinals
  have huntied := untied_groups hstay hp hties
  choose hit hpresent hselected using
    exists_hit hdiffer (fun q hq => (hp.columns q hq).2) hnative.columns
  have hyields := yields_iff table hdiffer hstay hp hnative hrows hkeys
  have hsame {es : List E} (hperm : es.Perm (p.kept s rows)) : ∀ a ∈ es, ∀ b ∈ es,
      (numberingOf s table p key order).samePart (image s a) (image s b) = key.same s a b :=
    fun a ha b hb => samePart_image table hdiffer hp hnative hconform hkeys (hperm.mem_iff.1 ha)
      (hperm.mem_iff.1 hb)
  refine ⟨(p.chosen s rows).map hit, ?_, fun answer => ?_⟩
  · rw [Plan.execute_eq s hp.valid, Page.apply_of_isUnbounded hunbounded, funext hpresent]
    exact List.mapM_pure
  · rw [List.map_map]
    constructor
    · rintro ⟨n, q, t, hread, hnumbers, hanswer⟩
      rw [ofNumberedText_plan table hp, Option.some.injEq, Prod.mk.injEq] at hread
      obtain ⟨rfl, rfl⟩ := hread
      obtain ⟨htable, hcolumns, es, hperm, hrises, hnumbered⟩ := (hyields t).1 hnumbers
      obtain ⟨shown, hfirsts, rfl⟩ := (answers_firstsOf_iff hp hname hunbounded hselected rfl
        (hsame hperm) htable hcolumns hnumbered _ _).1 hanswer
      exact (hfirsts.trans (perm_chosen hp hconform huntied hperm hrises)).map _
    · intro hanswer
      obtain ⟨shown, rfl, hshown⟩ := perm_map_iff.1 hanswer
      -- to sort all entities at once is one way to make those of each group rise
      have hperm := order.sort_perm s (p.kept s rows)
      have hsorted := SortKey.pairwise_sort (transitive_of_conforms hp.order) hconform
      have hrises := hsorted.imp fun {a b} hle (_ : key.same s a b) => hle
      have hchosen := perm_chosen hp hconform huntied hperm hrises
      exact ⟨_, _, numberedOf s (numberingOf s table p key order) _, ofNumberedText_plan table hp,
        (hyields _).2 ⟨rfl, rfl, _, hperm, hrises, rfl⟩,
        (answers_firstsOf_iff hp hname hunbounded hselected rfl (hsame hperm) rfl rfl rfl _ _).2
          ⟨shown, hshown.trans hchosen.symm, rfl⟩⟩

/-- Cities by region, one without, and of each region the name of the largest. -/
theorem answersNumbered_of_cities :
    let t : SlotsType := { Samples.city with navigations := ["Sights"] }
    let s : Schema Slots := ⟨"City", t.draft.fields, t.draft.navigations, [], none⟩
    let city (name : String) (region : Value) (population : Int64) : Slots :=
      ⟨.fresh Uuid.nil Instant.epoch, [.text name, region, .int population], [["Harbour"]], none⟩
    let rows := [city "Arendal" .null 45, city "Hamar" (.text "North") 30,
      city "Bergen" .null 300, city "Bodo" (.text "North") 40, city "Oslo" (.text "East") 700]
    let request : GroupingRequest :=
      { group := ⟨"region", some ⟨"population", true⟩, some (.ofNames ["NAME"])⟩
        filters := none
        skip := 0
        take := 0 }
    let order : SortKey := ⟨⟨2, "Population"⟩, .descending⟩
    let g : Grouping :=
      { filter := none
        key := ⟨⟨1, "Region"⟩⟩
        representative := ⟨some order, some ⟨[⟨"NAME", ⟨0, "Name"⟩, false⟩]⟩⟩
        page := ⟨0, 0⟩ }
    t.draft.build = .ok s ∧ s.FieldsStay ∧
      (∀ field ∈ s.fields, Text.sameFolded field.name rowNumber = false) ∧
      Grouping.ofRequest s request = .ok g ∧
      (g.plan .usual).ResolvesGroups s g.key g.representative order ∧
      (g.plan .usual).GroupsNative s g.key order ∧ (g.plan .usual).page.isUnbounded ∧
      (∀ e ∈ rows, s.Conforms e ∧ s.NaNFree e) ∧ g.key.OrdinalsTell s rows ∧
      ((rows.filter (Plan.passes s g.filter)).Pairwise
        fun a b => g.key.same s a b → order.compare s a b ≠ .eq) ∧
      ∀ answer, (select s "City" (g.plan .usual)).fragment.AnswersNumbered (tableOf s "City" rows)
        answer ↔
          answer.Perm [[("NAME", .text "Bergen")], [("NAME", .text "Bodo")],
            [("NAME", .text "Oslo")]] := by
  intro t s city rows request order g
  have built : t.draft.build = .ok s := rfl
  have stay : s.FieldsStay := t.fieldsStay_slots built
  have named : ∀ field ∈ s.fields, Text.sameFolded field.name rowNumber = false := by decide
  have resolved : Grouping.ofRequest s request = .ok g := by
    simp only [s, t, request]
    rfl
  have resolves := Grouping.resolves_of_ofRequest resolved (rfl : _ = some order) .usual
  have native : (g.plan .usual).GroupsNative s g.key order := by
    refine ⟨nofun, nofun, rfl, rfl, ?_⟩
    rintro q ⟨⟩
    decide
  have conform : ∀ e ∈ rows, s.Conforms e ∧ s.NaNFree e := by decide
  have ordinals : g.key.OrdinalsTell s rows :=
    GroupKey.ordinalsTell_of_kind resolves.key (fun _ => nofun) fun e he => (conform e he).1
  have untied : (rows.filter (Plan.passes s g.filter)).Pairwise
      fun a b => g.key.same s a b → order.compare s a b ≠ .eq := by decide
  have executed : (g.plan .usual).execute s rows = .ok
      [.row ⟨[("NAME", .text "Bergen")]⟩, .row ⟨[("NAME", .text "Bodo")]⟩,
        .row ⟨[("NAME", .text "Oslo")]⟩] := rfl
  obtain ⟨hits, hexecute, hanswers⟩ := answersNumbered_iff_execute (d := t.draft) "City" built stay
    named resolves native rfl conform ordinals untied
  obtain rfl := Except.ok.inj (executed.symm.trans hexecute)
  exact ⟨built, stay, named, resolved, resolves, native, rfl, conform, ordinals, untied, hanswers⟩

/-- A field named like the column of numbers hides it: the plan yields the one entity of a table,
and its query answers nothing. -/
theorem answersNumbered_of_hidden :
    let t : SlotsType :=
      { Samples.city with slots := [Samples.required "__rn" .int, Samples.required "Kind" .text,
          Samples.required "Size" .int] }
    let s : Schema Slots := ⟨"City", t.draft.fields, [], [], none⟩
    let e : Slots :=
      ⟨.fresh Uuid.nil Instant.epoch, [.int 7, .text "Port", .int 300], [], none⟩
    let request : GroupingRequest :=
      { group := ⟨"Kind", some ⟨"Size", false⟩, none⟩, filters := none, skip := 0, take := 0 }
    let order : SortKey := ⟨⟨2, "Size"⟩, .ascending⟩
    let g : Grouping := ⟨none, ⟨⟨1, "Kind"⟩⟩, ⟨some order, none⟩, ⟨0, 0⟩⟩
    t.draft.build = .ok s ∧ s.FieldsStay ∧ Grouping.ofRequest s request = .ok g ∧
      (g.plan .usual).ResolvesGroups s g.key g.representative order ∧
      (g.plan .usual).GroupsNative s g.key order ∧ (g.plan .usual).page.isUnbounded ∧
      (s.Conforms e ∧ s.NaNFree e) ∧ g.key.OrdinalsTell s [e] ∧
      (g.plan .usual).execute s [e] = .ok [.entity e] ∧
      ∀ answer, (select s "City" (g.plan .usual)).fragment.AnswersNumbered (tableOf s "City" [e])
        answer ↔ answer = [] := by
  intro t s e request order g
  have built : t.draft.build = .ok s := rfl
  have stay : s.FieldsStay := t.fieldsStay_slots built
  have resolved : Grouping.ofRequest s request = .ok g := by
    simp only [s, t, request]
    rfl
  have resolves := Grouping.resolves_of_ofRequest resolved (rfl : _ = some order) .usual
  have native : (g.plan .usual).GroupsNative s g.key order := ⟨nofun, nofun, rfl, rfl, nofun⟩
  have conforms : ∀ e' ∈ [e], s.Conforms e' ∧ s.NaNFree e' := by decide
  have ordinals : g.key.OrdinalsTell s [e] :=
    GroupKey.ordinalsTell_of_kind resolves.key (fun _ => nofun) fun e he => (conforms e he).1
  have differ := (SchemaDraft.of_build_eq_ok built).2.2.2
  have yields := yields_iff "City" differ stay resolves native conforms ordinals
  -- the row is compared by the 7 in front of its number
  have hidden : (firstsOf s (g.plan .usual)).kept? (argumentsOf s "City" (g.plan .usual))
      ((numberingOf s "City" (g.plan .usual) g.key order).number [] [image s e]) =
        some [] := by decide
  refine ⟨built, stay, resolved, resolves, native, rfl, conforms e (by simp), ordinals, rfl,
    fun answer => ⟨?_, ?_⟩⟩
  · rintro ⟨n, q, numbered, hread, hnumbers, -, kept, sorted, shown, hkept, hperm, -, hshown,
      hselected⟩
    rw [ofNumberedText_plan "City" resolves, Option.some.injEq, Prod.mk.injEq] at hread
    obtain ⟨rfl, rfl⟩ := hread
    obtain ⟨-, -, es, hes, -, hrows⟩ := (yields numbered).1 hnumbers
    obtain rfl : es = [e] := List.perm_singleton.1 hes
    rw [hrows] at hkept
    obtain rfl := Option.some.inj (hidden.symm.trans hkept)
    obtain rfl := hperm.eq_nil
    obtain rfl := Option.some.inj (hshown : some [] = some shown)
    exact (Option.some.inj hselected).symm
  · rintro rfl
    refine ⟨_, _, numberedOf s (numberingOf s "City" (g.plan .usual) g.key order) [e],
      ofNumberedText_plan "City" resolves,
      (yields _).2 ⟨rfl, rfl, [e], .refl _, List.pairwise_singleton _ _, rfl⟩, ?_⟩
    exact ⟨resolves_firstsOf resolves rfl rfl, [], [], [], hidden, .refl _, .nil, rfl, rfl⟩

end Plans

end Sql

end EntityQuery
