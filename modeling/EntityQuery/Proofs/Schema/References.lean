import EntityQuery.Proofs.Mutation.Effects
import EntityQuery.Proofs.Plan.Resolution
import EntityQuery.Store.Rows
import Mathlib.Data.List.Find

/-!
References to fields. Whatever is compiled against a schema refers to declared fields, and so do
the unique keys of a schema that was built. What an expression yields depends on the fields that it
refers to and on nothing else in the table, so no look-up falls behind the end of the table. Main
statements: `Compiled.declares` and `outcome_congr`.
-/

namespace EntityQuery

variable {E : Type} {s : Schema E}

/-! ### Expressions -/

/-- The fields of the columns in order. -/
def Projection.fields (p : Projection) : List FieldRef := p.columns.map Column.field

/-- The fields of a representative: the one it is chosen by, and those of its columns. -/
def Representative.fields (r : Representative) : List FieldRef :=
  (r.order.map SortKey.field).toList ++ (r.projection.map Projection.fields).getD []

lemma Representative.forall_mem_fields_iff {r : Representative} {P : FieldRef → Prop} :
    (∀ f ∈ r.fields, P f) ↔
      (∀ k ∈ r.order, P k.field) ∧ ∀ p ∈ r.projection, ∀ f ∈ p.fields, P f := by
  obtain ⟨order, projection⟩ := r
  cases order <;> cases projection <;> simp [fields]

/-- Whatever is compiled against a schema. -/
inductive Expression where
  | predicate (p : Predicate)
  | projection (p : Projection)
  | sortKey (k : SortKey)
  | groupKey (k : GroupKey)
  | representative (r : Representative)
  | mutation (m : Mutation)

namespace Expression

/-- The fields that an expression refers to. -/
def fields : Expression → List FieldRef
  | .predicate p => p.fields
  | .projection p => p.fields
  | .sortKey k => [k.field]
  | .groupKey k => [k.field]
  | .representative r => r.fields
  | .mutation m => m.fields

/-- An expression is compiled from a description of it. A field of the schema can be sorted by
without a rule, and assignments can be made one after the other. -/
inductive Compiled (s : Schema E) : Expression → Prop where
  | predicate {p : Predicate} (h : p.Compiled s) : Compiled s (.predicate p)
  | projection {selection : Selection} {p : Projection}
    (h : Projection.ofSelection s selection = .ok p) : Compiled s (.projection p)
  | sortKey {rule : SortRule} {k : SortKey} (h : SortKey.ofRule s rule = .ok k) :
    Compiled s (.sortKey k)
  | sortField {f : FieldRef} (h : f ∈ s.refs) (direction : Direction) :
    Compiled s (.sortKey ⟨f, direction⟩)
  | groupKey {property : String} {k : GroupKey} (h : GroupKey.ofName s property = .ok k) :
    Compiled s (.groupKey k)
  | representative {rule : GroupRule} {r : Representative}
    (h : Representative.ofRule s rule = .ok r) : Compiled s (.representative r)
  | mutation {changes : List PropertyChange} {m : Mutation}
    (h : Mutation.ofChanges s changes = .ok m) : Compiled s (.mutation m)
  | assignments {changes : List PropertyChange} {m : Mutation}
    (h : changes.foldlM (fun m c => Mutation.set s m c.property c.value) Mutation.empty = .ok m) :
    Compiled s (.mutation m)

/-- What an expression yields for entities: those that pass, their rows, their order, their groups,
the result that stands for them, or what becomes of each. -/
def Outcome (E : Type) : Expression → Type
  | .predicate _ | .sortKey _ => List E
  | .projection _ => List (Except QueryError Row)
  | .groupKey _ => List (Group E)
  | .representative _ => Except QueryError (Option (Hit E))
  | .mutation _ => List (Except QueryError E)

/-- What an expression yields for the entities of a list. -/
def outcome (s : Schema E) (es : List E) : (x : Expression) → x.Outcome E
  | .predicate p => es.filter fun e => p.holds s e
  | .projection p => es.map (p.apply s)
  | .sortKey k => k.sort s es
  | .groupKey k => k.group s es
  | .representative r => r.select s ⟨.null, es⟩
  | .mutation m => es.map (m.apply s)

end Expression

/-! ### Declared fields -/

lemma Schema.declares_of_mem_refs {f : FieldRef} (h : f ∈ s.refs) : s.Declares f := by
  obtain ⟨i, hi, rfl⟩ := List.mem_mapIdx.1 h
  exact ⟨s.fields[i], List.getElem?_eq_getElem hi, rfl⟩

lemma SchemaDraft.declares_unique {d : SchemaDraft E} (h : d.build = .ok s) :
    ∀ key ∈ s.unique, ∀ f ∈ key.fields, s.Declares f := by
  intro key hkey f hf
  unfold build at h
  split at h
  · cases h
  · obtain ⟨unique, hunique, h⟩ := Result.bind_eq_ok_iff.1 h
    obtain ⟨modifiedAt, -, h⟩ := Result.bind_eq_ok_iff.1 h
    cases h
    obtain ⟨⟨name, names⟩, -, hkey⟩ := Result.exists_of_mem_mapM hunique hkey
    simp only [SchemaDraft.key] at hkey
    split at hkey
    · cases hkey
    · obtain ⟨fields, hfields, hkey⟩ := Result.bind_eq_ok_iff.1 hkey
      cases hkey
      obtain ⟨name, -, hresolve⟩ := Result.exists_of_mem_mapM hfields hf
      exact Schema.declares_of_resolve hresolve

lemma Predicate.WellTyped.declares {p : Predicate} (h : p.WellTyped s) :
    ∀ f ∈ p.fields, s.Declares f := by
  induction p with
  | compare f op v => exact List.forall_mem_singleton.2 h.1
  | contains f needle => exact List.forall_mem_singleton.2 h.1
  | isNull f => exact List.forall_mem_singleton.2 h
  | isNotNull f => exact List.forall_mem_singleton.2 h
  | and p q ihp ihq => exact List.forall_mem_append.2 ⟨ihp h.1, ihq h.2⟩
  | or p q ihp ihq => exact List.forall_mem_append.2 ⟨ihp h.1, ihq h.2⟩

lemma Projection.Declared.declares {p : Projection} (h : Declared s p.columns) :
    ∀ f ∈ p.fields, s.Declares f :=
  List.forall_mem_map.2 fun c hc => (h c hc).1

/-- The projection of a representative comes from a selection. -/
lemma Representative.exists_selection {rule : GroupRule} {r : Representative}
    (h : ofRule s rule = .ok r) :
    ∀ p ∈ r.projection, ∃ selection, Projection.ofSelection s selection = .ok p := by
  obtain ⟨-, hprojection⟩ := ofRule_eq_ok_iff.1 h
  intro p hp
  obtain ⟨selection, -, hselection⟩ := Result.exists_of_mapM_eq_ok (hp ▸ hprojection)
  exact ⟨selection, hselection⟩

lemma Representative.declares_of_ofRule {rule : GroupRule} {r : Representative}
    (h : ofRule s rule = .ok r) : ∀ f ∈ r.fields, s.Declares f := by
  refine forall_mem_fields_iff.2 ⟨?_, fun p hp => ?_⟩
  · intro k hk
    exact SortKey.declares_of_ofRule (hk ▸ (ofRule_eq_ok_iff.1 h).1)
  · obtain ⟨selection, hselection⟩ := exists_selection h p hp
    exact (Projection.declared_ofSelection hselection).2.declares

lemma Mutation.declares_of_assigns {changes : List PropertyChange} {m : Mutation}
    (h : List.Forall₂ (PropertyChange.Assigns s) changes m.assignments) :
    ∀ f ∈ m.fields, s.Declares f := by
  intro f hf
  obtain ⟨a, ha, rfl⟩ := List.mem_map.1 hf
  obtain ⟨c, -, hc⟩ := exists_assigned h ha
  exact Schema.declares_of_resolve hc.resolve

/-- **Compiled expressions refer to declared fields.** -/
theorem Expression.Compiled.declares {x : Expression} (h : x.Compiled s) :
    ∀ f ∈ x.fields, s.Declares f := by
  cases h with
  | predicate h => exact (Predicate.wellTyped_of_compiled h).declares
  | projection h => exact (Projection.declared_ofSelection h).2.declares
  | sortKey h => exact List.forall_mem_singleton.2 (SortKey.declares_of_rule h)
  | sortField h => exact List.forall_mem_singleton.2 (Schema.declares_of_mem_refs h)
  | groupKey h =>
    obtain ⟨f, hf, h⟩ := Result.bind_eq_ok_iff.1 h
    cases h
    exact List.forall_mem_singleton.2 (Schema.declares_of_resolve hf)
  | representative h => exact Representative.declares_of_ofRule h
  | mutation h => exact Mutation.declares_of_assigns (Mutation.ofChanges_eq_ok_iff.1 h).2.1
  | assignments h =>
    obtain ⟨as, has, rfl, -⟩ := (Mutation.foldlM_set_eq_ok_iff (m := .empty) List.nodup_nil).1 h
    exact Mutation.declares_of_assigns has

/-! ### Other schemas -/

section Congruence

variable {s' : Schema E}

lemma Schema.read_congr {f : FieldRef} (h : s'.field f = s.field f) (e : E) :
    s'.read e f = s.read e f := by
  rw [read, h, read]

lemma Predicate.holds_congr {p : Predicate} (h : ∀ f ∈ p.fields, s'.field f = s.field f) (e : E) :
    p.holds s' e = p.holds s e := by
  induction p with
  | compare f op v => rw [holds, Schema.read_congr (h f List.mem_cons_self), holds]
  | contains f needle => rw [holds, Schema.read_congr (h f List.mem_cons_self), holds]
  | isNull f => rw [holds, Schema.read_congr (h f List.mem_cons_self), holds]
  | isNotNull f => rw [holds, Schema.read_congr (h f List.mem_cons_self), holds]
  | and p q ihp ihq =>
    obtain ⟨hp, hq⟩ := List.forall_mem_append.1 h
    rw [holds, ihp hp, ihq hq, holds]
  | or p q ihp ihq =>
    obtain ⟨hp, hq⟩ := List.forall_mem_append.1 h
    rw [holds, ihp hp, ihq hq, holds]

lemma SortKey.sort_congr {k : SortKey} (h : s'.field k.field = s.field k.field) (es : List E) :
    k.sort s' es = k.sort s es := by
  have hcompare : k.compare s' = k.compare s := by
    funext a b
    rw [compare, Schema.read_congr h, Schema.read_congr h, compare]
  have hplace : k.place s' = k.place s := by
    funext e es
    induction es with
    | nil => rfl
    | cons top rest ih => rw [place, place, hcompare, ih]
  rw [sort, hplace, sort]

lemma GroupKey.group_congr {k : GroupKey} (h : s'.field k.field = s.field k.field) (es : List E) :
    k.group s' es = k.group s es := by
  simp only [group, Schema.read_congr h]

lemma Predicate.reads_congr {p : Predicate} (h : ∀ f ∈ p.fields, s'.field f = s.field f) (e : E) :
    p.reads s' e = p.reads s e := by
  induction p with
  | compare | contains | isNull | isNotNull => rfl
  | and p q ihp ihq =>
    obtain ⟨hp, hq⟩ := List.forall_mem_append.1 h
    rw [reads, holds_congr hp, ihp hp, ihq hq, reads]
  | or p q ihp ihq =>
    obtain ⟨hp, hq⟩ := List.forall_mem_append.1 h
    rw [reads, holds_congr hp, ihp hp, ihq hq, reads]

lemma Projection.cell_congr {c : Column} (h : s'.field c.field = s.field c.field) (e : E) :
    cell s' e c = cell s e c := by
  rw [cell, Schema.read_congr h, cell]

lemma Projection.apply_congr {p : Projection} (h : ∀ f ∈ p.fields, s'.field f = s.field f) (e : E) :
    p.apply s' e = p.apply s e := by
  have hcells : (p.columns.mapM fun c => (c.key, ·) <$> cell s' e c) =
      p.columns.mapM fun c => (c.key, ·) <$> cell s e c := by
    refine Result.mapM_congr fun c hc => ?_
    rw [cell_congr (h c.field (List.mem_map_of_mem hc))]
  rw [apply, hcells, apply]

lemma Projection.reads_congr {columns : List Column}
    (h : ∀ c ∈ columns, s'.field c.field = s.field c.field) (e : E) :
    reads s' e columns = reads s e columns := by
  induction columns with
  | nil => rfl
  | cons c rest ih =>
    rw [List.forall_mem_cons] at h
    rw [reads, reads, cell_congr h.1, ih h.2]

lemma Representative.ordered_congr {r : Representative}
    (h : ∀ key ∈ r.order, s'.field key.field = s.field key.field) (members : List E) :
    r.ordered s' members = r.ordered s members := by
  unfold ordered
  cases hkey : r.order with
  | none => rfl
  | some key => exact SortKey.sort_congr (h key hkey) members

lemma Representative.select_congr {r : Representative}
    (h : ∀ f ∈ r.fields, s'.field f = s.field f) (g : Group E) : r.select s' g = r.select s g := by
  obtain ⟨horder, hprojection⟩ := forall_mem_fields_iff.1 h
  unfold select
  rw [ordered_congr horder]
  cases hp : r.projection with
  | none => rfl
  | some p => simp only [Projection.apply_congr (hprojection p hp)]

lemma Mutation.apply_congr {m : Mutation} (h : ∀ f ∈ m.fields, s'.field f = s.field f) (e : E) :
    m.apply s' e = m.apply s e := by
  have hrun (as : List Assignment) (has : ∀ a ∈ as, s'.field a.field = s.field a.field) (e : E) :
      run s' e as = run s e as := by
    induction as generalizing e with
    | nil => rfl
    | cons a as ih =>
      rw [List.forall_mem_cons] at has
      have hassign : assign s' e a = assign s e a := by rw [assign, has.1, assign]
      rw [run, run, hassign]
      cases assign s e a with
      | ok e => exact ih has.2 e
      | error problem => rfl
  rw [apply, hrun m.assignments (List.forall_mem_map.1 h), apply]

/-- **What an expression yields depends on the fields it refers to.** -/
theorem Expression.outcome_congr {x : Expression} (h : ∀ f ∈ x.fields, s'.field f = s.field f)
    (es : List E) : x.outcome s' es = x.outcome s es := by
  cases x with
  | predicate p => exact List.filter_congr fun e _ => Predicate.holds_congr h e
  | projection p => exact List.map_congr_left fun e _ => Projection.apply_congr h e
  | sortKey k => exact SortKey.sort_congr (h k.field List.mem_cons_self) es
  | groupKey k => exact GroupKey.group_congr (h k.field List.mem_cons_self) es
  | representative r => exact Representative.select_congr h _
  | mutation m => exact List.map_congr_left fun e _ => Mutation.apply_congr h e

lemma Rows.shares_congr {key : UniqueKey} (h : ∀ f ∈ key.fields, s'.field f = s.field f)
    (a b : E) : shares s' key a b = shares s key a b := by
  have hkeyOf (e : E) : keyOf s' key e = keyOf s key e := by
    refine Result.mapM_congr fun f hf => ?_
    rw [Schema.read_congr (h f hf)]
  rw [shares, hkeyOf, hkeyOf, shares]

lemma Rows.clash?_congr [Entity E] (hunique : s'.unique = s.unique)
    (h : ∀ key ∈ s.unique, ∀ f ∈ key.fields, s'.field f = s.field f) (rows : List E)
    (positions : List ℕ) : clash? s' rows positions = clash? s rows positions := by
  have hkeys (e : E) (others : List E) : s'.unique.find? (fun key => others.any (shares s' key e)) =
      s.unique.find? fun key => others.any (shares s key e) := by
    rw [hunique]
    refine List.find?_congr fun key hkey => ?_
    rw [funext (shares_congr (h key hkey) e)]
  have hclash : clashWith s' = clashWith s := by
    funext e others
    rw [clashWith, hkeys, clashWith]
  unfold clash? clashAt
  rw [hclash]

end Congruence

end EntityQuery
