import EntityQuery.Proofs.Plan.Compilation

/-!
Checked access. Here a position outside the table of fields stands for nothing, and work that comes
upon one has no outcome at all. What refers to declared fields only never comes upon one: it has the
outcome that it has unchecked. Main statements: `Expression.checked_eq`, `clash_eq` and
`execute_eq`.
-/

namespace EntityQuery.Checked

variable {E α β : Type}

/-! ### Expressions and plans -/

/-- The value of a field, if there is the field. -/
def read (s : Schema E) (e : E) (f : FieldRef) : Option Value := do
  return (← s.field? f).read e

/-- Whether a predicate holds of an entity. The right side counts where the left one leaves it
open. -/
def holds (s : Schema E) (e : E) : Predicate → Option Bool
  | .compare f op v => do return op.test (← read s e f) v
  | .contains f needle => do
    return (← read s e f).asText?.any fun text => Text.contains text needle
  | .isNull f => do return (← read s e f).isNull
  | .isNotNull f => do return !(← read s e f).isNull
  | .and p q => do if ← holds s e p then holds s e q else return false
  | .or p q => do if ← holds s e p then return true else holds s e q

/-- The order of two entities. -/
def compare (s : Schema E) (k : SortKey) (a b : E) : Option Ordering := do
  let o := (← read s a k.field).sortCompare (← read s b k.field)
  match k.direction with
  | .ascending => return o
  | .descending => return o.swap

/-- Puts an entity into a list that falls from its head. -/
def place (s : Schema E) (k : SortKey) (e : E) : List E → Option (List E)
  | [] => return [e]
  | top :: rest => do
    if (← compare s k e top) == .lt then return top :: (← place s k e rest)
    else return e :: top :: rest

/-- Entities in the order of a sort key, if there is one. -/
def arrange (s : Schema E) (key : Option SortKey) (es : List E) : Option (List E) :=
  match key with
  | some k => List.reverse <$> es.foldlM (fun sorted e => place s k e sorted) []
  | none => return es

/-- The groups of a list of entities. -/
def group (s : Schema E) (k : GroupKey) (es : List E) : Option (List (Group E)) :=
  es.foldlM (fun groups e => do return GroupKey.add (← read s e k.field) e groups) []

/-- The results of a list one after the other, up to the first error. -/
def results (f : α → Option (Except QueryError β)) : List α → Option (Except QueryError (List β))
  | [] => return .ok []
  | a :: rest => do
    match ← f a with
    | .error problem => return .error problem
    | .ok b => return (b :: ·) <$> (← results f rest)

/-- The name of a column and its value for an entity. -/
def cell (s : Schema E) (e : E) (c : Column) : Option (Except QueryError (String × Value)) := do
  let v ← read s e c.field
  return (c.key, ·) <$> if c.structured then Projection.decode c.key v else .ok v

/-- The row of an entity. -/
def row (s : Schema E) (p : Projection) (e : E) : Option (Except QueryError Row) := do
  return Row.mk <$> (← results (cell s e) p.columns)

/-- The result that stands for a group. -/
def select (s : Schema E) (r : Representative) (g : Group E) :
    Option (Except QueryError (Option (Hit E))) := do
  match ← arrange s r.order g.members with
  | [] => return .ok none
  | first :: _ =>
    match r.projection with
    | some p => return (fun row => some (.row row)) <$> (← row s p first)
    | none => return .ok (some (.entity first))

/-- An entity after some assignments. -/
def assign (s : Schema E) (e : E) : List Assignment → Option (Except QueryError E)
  | [] => return .ok e
  | a :: rest => do
    let field ← s.field? a.field
    match field.write e a.value with
    | .ok e => assign s e rest
    | .error mismatch => return .error (.invalidValue none field.type.text (.mismatch mismatch))

/-- Whether an entity passes a filter. -/
def passes (s : Schema E) (filter : Option Predicate) (e : E) : Option Bool :=
  match filter with
  | some p => holds s e p
  | none => return true

/-- The result made of an entity. -/
def present (s : Schema E) (projection : Option Projection) (e : E) :
    Option (Except QueryError (Hit E)) :=
  match projection with
  | some p => do return .row <$> (← row s p e)
  | none => return .ok (.entity e)

/-- The result made of a group. -/
def presentGroup (s : Schema E) (r : Representative) (projection : Option Projection)
    (g : Group E) : Option (Except QueryError (Option (Hit E))) := do
  match ← select s r g with
  | .ok (some (.entity e)) => return some <$> (← present s projection e)
  | result => return result

/-- The results of a plan. -/
def execute (s : Schema E) (p : Plan) (es : List E) :
    Option (Except QueryError (List (Hit E))) := do
  if let .error problem := p.validate then return .error problem
  let found ← es.filterM (passes s p.filter)
  let kept := found.map (s.unloadExcept p.includes)
  match p.arrangement with
  | .sorted key => results (present s p.projection) (p.page.apply (← arrange s key kept))
  | .grouped key r =>
    let hits ← results (presentGroup s r p.projection) (p.page.apply (← group s key kept))
    return (List.filterMap id) <$> hits

/-! ### Unique keys -/

/-- The values of a unique key. Nothing is read behind the first null. -/
def keyOf (s : Schema E) (e : E) : List FieldRef → Option (Option (List Value))
  | [] => return some []
  | f :: rest => do
    let v ← read s e f
    if v.isNull then return none else return (v :: ·) <$> (← keyOf s e rest)

/-- Whether two entities share the values of a unique key. -/
def shares (s : Schema E) (key : UniqueKey) (a b : E) : Option Bool := do
  match ← keyOf s a key.fields with
  | none => return false
  | some vs =>
    match ← keyOf s b key.fields with
    | none => return false
    | some ws => return Rows.sameValues ws vs

/-- The key that an entity shares with one of some others. -/
def clashWith [Entity E] (s : Schema E) (e : E) (others : List E) : Option (Option String) :=
  if others.any fun o => Entity.id o == Entity.id e then return some Rows.primary
  else do return (← s.unique.findM? fun key => others.anyM (shares s key e)).map UniqueKey.name

/-- The first clash among the entities at some positions. -/
def clash [Entity E] (s : Schema E) (rows : List E) (positions : List ℕ) : Option (Option String) :=
  positions.findSomeM? fun i =>
    match rows[i]? with
    | some e => clashWith s e (rows.eraseIdx i)
    | none => return none

/-! ### Declared fields are there -/

variable {s : Schema E}

lemma read_eq {f : FieldRef} (h : s.Declares f) (e : E) : read s e f = some (s.read e f) := by
  rw [read, h.field?_eq]
  rfl

lemma holds_eq {p : Predicate} (h : ∀ f ∈ p.fields, s.Declares f) (e : E) :
    holds s e p = some (p.holds s e) := by
  induction p with
  | compare f op v | contains f needle | isNull f | isNotNull f =>
    rw [holds, read_eq (h f List.mem_cons_self)]
    rfl
  | and p q ihp ihq | or p q ihp ihq =>
    obtain ⟨hp, hq⟩ := List.forall_mem_append.1 h
    rw [holds, ihp hp, ihq hq, Predicate.holds]
    cases p.holds s e <;> rfl

lemma compare_eq {k : SortKey} (h : s.Declares k.field) (a b : E) :
    compare s k a b = some (k.compare s a b) := by
  rw [compare, read_eq h, read_eq h, SortKey.compare]
  cases k.direction <;> rfl

lemma place_eq {k : SortKey} (h : s.Declares k.field) (e : E) (es : List E) :
    place s k e es = some (k.place s e es) := by
  induction es with
  | nil => rfl
  | cons top rest ih =>
    rw [place, compare_eq h, ih, SortKey.place]
    show ite _ _ _ = _
    split <;> rfl

lemma arrange_eq {key : Option SortKey} (h : ∀ k ∈ key, s.Declares k.field) (es : List E) :
    arrange s key es = some (Plan.arrange s key es) := by
  cases key with
  | none => rfl
  | some k =>
    simp only [arrange, place_eq (h k rfl)]
    exact congrArg (List.reverse <$> ·) List.foldlM_pure

lemma group_eq {k : GroupKey} (h : s.Declares k.field) (es : List E) :
    group s k es = some (k.group s es) := by
  simp only [group, read_eq h]
  exact List.foldlM_pure

lemma results_eq {f : α → Option (Except QueryError β)} {g : α → Except QueryError β} {as : List α}
    (h : ∀ a ∈ as, f a = some (g a)) : results f as = some (as.mapM g) := by
  induction as with
  | nil => rfl
  | cons a rest ih =>
    rw [List.forall_mem_cons] at h
    rw [results, h.1, ih h.2, List.mapM_cons]
    cases g a with
    | error problem => rfl
    | ok b => cases rest.mapM g <;> rfl

lemma row_eq {p : Projection} (h : ∀ f ∈ p.fields, s.Declares f) (e : E) :
    row s p e = some (p.apply s e) := by
  have hcells : results (cell s e) p.columns =
      some (p.columns.mapM fun c => (c.key, ·) <$> Projection.cell s e c) := by
    refine results_eq fun c hc => ?_
    rw [cell, read_eq (h c.field (List.mem_map_of_mem hc))]
    rfl
  rw [row, hcells, Projection.apply]
  cases p.columns.mapM fun c => (c.key, ·) <$> Projection.cell s e c <;> rfl

lemma select_eq {r : Representative} (h : ∀ f ∈ r.fields, s.Declares f) (g : Group E) :
    select s r g = some (r.select s g) := by
  obtain ⟨horder, hprojection⟩ := Representative.forall_mem_fields_iff.1 h
  have hordered : arrange s r.order g.members = some (r.ordered s g.members) := arrange_eq horder _
  rw [select, hordered, Representative.select]
  cases r.ordered s g.members with
  | nil => rfl
  | cons first rest =>
    cases hp : r.projection with
    | none => rfl
    | some p => simp only [row_eq (hprojection p hp), Option.bind_eq_bind, Option.bind_some]; rfl

lemma assign_eq {as : List Assignment} (h : ∀ a ∈ as, s.Declares a.field) (e : E) :
    assign s e as = some ((Mutation.run s e as).mapError Prod.fst) := by
  induction as generalizing e with
  | nil => rfl
  | cons a rest ih =>
    rw [List.forall_mem_cons] at h
    rw [assign, h.1.field?_eq, Mutation.run, Mutation.assign]
    simp only [Option.bind_eq_bind, Option.bind_some]
    cases (s.field a.field).write e a.value with
    | error mismatch => rfl
    | ok e => exact ih h.2 e

lemma passes_eq {filter : Option Predicate} (h : ∀ q ∈ filter, ∀ f ∈ q.fields, s.Declares f)
    (e : E) : passes s filter e = some (Plan.passes s filter e) := by
  cases filter with
  | none => rfl
  | some q => exact holds_eq (h q rfl) e

lemma present_eq {projection : Option Projection}
    (h : ∀ q ∈ projection, ∀ f ∈ q.fields, s.Declares f) (e : E) :
    present s projection e = some (Plan.present s projection e) := by
  cases projection with
  | none => rfl
  | some q =>
    rw [present, row_eq (h q rfl)]
    rfl

lemma presentGroup_eq {r : Representative} (hr : ∀ f ∈ r.fields, s.Declares f)
    {projection : Option Projection} (h : ∀ q ∈ projection, ∀ f ∈ q.fields, s.Declares f)
    (g : Group E) : presentGroup s r projection g = some (Plan.presentGroup s r projection g) := by
  rw [presentGroup, select_eq hr, Plan.presentGroup]
  simp only [Option.bind_eq_bind, Option.bind_some]
  rcases r.select s g with problem | (_ | (e | row))
  · rfl
  · rfl
  · simp only [present_eq h, Option.bind_some]
    rfl
  · rfl

lemma filterM_eq {f : α → Option Bool} {g : α → Bool} {as : List α}
    (h : ∀ a ∈ as, f a = some (g a)) : as.filterM f = some (as.filter g) := by
  have hfrom (found : List α) : as.filterAuxM f found = some ((as.filter g).reverse ++ found) := by
    induction as generalizing found with
    | nil => rfl
    | cons a rest ih =>
      rw [List.forall_mem_cons] at h
      rw [List.filterAuxM, h.1]
      cases hg : g a <;> simp [hg, ih h.2]
  simp [List.filterM, hfrom]

/-- **A plan comes upon no position outside the table** if its expressions refer to declared
fields. -/
theorem execute_eq {p : Plan} (h : ∀ x ∈ p.expressions, ∀ f ∈ x.fields, s.Declares f)
    (es : List E) : execute s p es = some (p.execute s es) := by
  have hprojection : ∀ q ∈ p.projection, ∀ f ∈ q.fields, s.Declares f :=
    fun q hq => h _ (Plan.projection_mem hq)
  have hfound : es.filterM (passes s p.filter) = some (es.filter (Plan.passes s p.filter)) :=
    filterM_eq fun e _ => passes_eq (fun q hq => h _ (Plan.predicate_mem hq)) e
  unfold execute Plan.execute
  rw [hfound]
  cases p.validate with
  | error problem => rfl
  | ok _ =>
    simp only [Option.bind_eq_bind, Option.bind_some, Plan.kept]
    cases harrangement : p.arrangement with
    | sorted key =>
      have hkey : ∀ k ∈ key, s.Declares k.field := by
        rintro k rfl
        exact h _ (Plan.sortKey_mem harrangement) _ List.mem_cons_self
      simp only [arrange_eq hkey, Option.bind_some]
      exact results_eq fun e _ => present_eq hprojection e
    | grouped key r =>
      have hkey := h _ (Plan.groupKey_mem harrangement) _ List.mem_cons_self
      have hr := h _ (Plan.representative_mem harrangement)
      have hhits (groups : List (Group E)) : results (presentGroup s r p.projection) groups =
          some (groups.mapM (Plan.presentGroup s r p.projection)) :=
        results_eq fun g _ => presentGroup_eq hr hprojection g
      simp only [group_eq hkey, hhits, Option.bind_some]
      rfl

lemma findM?_eq {f : α → Option Bool} {g : α → Bool} {as : List α}
    (h : ∀ a ∈ as, f a = some (g a)) : as.findM? f = some (as.find? g) := by
  induction as with
  | nil => rfl
  | cons a rest ih =>
    rw [List.forall_mem_cons] at h
    rw [List.findM?, h.1, ih h.2, List.find?_cons]
    cases g a <;> rfl

lemma keyOf_eq {fields : List FieldRef} (h : ∀ f ∈ fields, s.Declares f) (name : String) (e : E) :
    keyOf s e fields = some (Rows.keyOf s ⟨name, fields⟩ e) := by
  induction fields with
  | nil => rfl
  | cons f rest ih =>
    rw [List.forall_mem_cons] at h
    rw [keyOf, read_eq h.1, ih h.2, Rows.keyOf, Rows.keyOf, List.mapM_cons]
    simp only [Option.bind_eq_bind, Option.bind_some]
    split
    · rfl
    · cases rest.mapM fun f => if (s.read e f).isNull then none else some (s.read e f) <;> rfl

lemma shares_eq {key : UniqueKey} (h : ∀ f ∈ key.fields, s.Declares f) (a b : E) :
    shares s key a b = some (Rows.shares s key a b) := by
  rw [shares, keyOf_eq h key.name, keyOf_eq h key.name, Rows.shares]
  simp only [Option.bind_eq_bind, Option.bind_some]
  rcases Rows.keyOf s key a with _ | vs
  · rfl
  · rcases Rows.keyOf s key b with _ | ws <;> rfl

/-- **The search for clashes comes upon no position outside the table** if the unique keys consist
of declared fields. -/
theorem clash_eq [Entity E] (h : ∀ key ∈ s.unique, ∀ f ∈ key.fields, s.Declares f) (rows : List E)
    (positions : List ℕ) : clash s rows positions = some (Rows.clash? s rows positions) := by
  have hshared (e : E) (others : List E) :
      (s.unique.findM? fun key => others.anyM (shares s key e)) =
        some (s.unique.find? fun key => others.any (Rows.shares s key e)) := by
    refine findM?_eq fun key hkey => ?_
    rw [funext (shares_eq (h key hkey) e)]
    exact List.anyM_pure
  have hwith (e : E) (others : List E) :
      clashWith s e others = some (Rows.clashWith s e others) := by
    rw [clashWith, Rows.clashWith, hshared]
    split <;> rfl
  have hat (i : ℕ) : (match rows[i]? with
      | some e => clashWith s e (rows.eraseIdx i)
      | none => return none) = some (Rows.clashAt s rows i) := by
    rw [Rows.clashAt]
    cases rows[i]? with
    | none => rfl
    | some e => exact hwith e _
  rw [clash, funext hat]
  exact List.findSomeM?_pure

end EntityQuery.Checked

namespace EntityQuery

variable {E : Type} {s : Schema E}

/-- What an expression yields for the entities of a list with checked access. -/
def Expression.checked (s : Schema E) (es : List E) : (x : Expression) → Option (x.Outcome E)
  | .predicate p => es.filterM fun e => Checked.holds s e p
  | .projection p => es.mapM (Checked.row s p)
  | .sortKey k => Checked.arrange s (some k) es
  | .groupKey k => Checked.group s k es
  | .representative r => Checked.select s r ⟨.null, es⟩
  | .mutation m => es.mapM fun e => Checked.assign s e m.assignments

/-- **An expression that refers to declared fields comes upon no position outside the table.** -/
theorem Expression.checked_eq {x : Expression} (h : ∀ f ∈ x.fields, s.Declares f) (es : List E) :
    x.checked s es = some (x.outcome s es) := by
  cases x with
  | predicate p => exact Checked.filterM_eq fun e _ => Checked.holds_eq h e
  | projection p =>
    rw [checked, funext (Checked.row_eq h)]
    exact List.mapM_pure
  | sortKey k =>
    have hkey : ∀ key ∈ some k, s.Declares key.field := by
      rintro _ ⟨⟩
      exact h _ List.mem_cons_self
    exact Checked.arrange_eq hkey es
  | groupKey k => exact Checked.group_eq (h k.field List.mem_cons_self) es
  | representative r => exact Checked.select_eq h _
  | mutation m =>
    rw [checked, funext (Checked.assign_eq (List.forall_mem_map.1 h))]
    exact List.mapM_pure

/-- In a table without fields there is nothing to look at, which shows as soon as it is tried. -/
example (e : E) :
    let s : Schema E := ⟨"T", [], [], [], none⟩
    let p : Expression := .predicate (.isNull ⟨0, "Title"⟩)
    p.checked s [e] = none ∧ p.checked s [] = some ([] : List E) :=
  ⟨rfl, rfl⟩

end EntityQuery
