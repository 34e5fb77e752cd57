import EntityQuery.Mutation
import EntityQuery.Proofs.Schema.Independence
import Mathlib.Data.List.Nodup

/-!
What a mutation does. A list of changes is a mutation if each change by itself is an assignment and
no two assign the same field; applied to an entity whose fields are independent, the mutation sets
the named fields and leaves everything else alone. Main statements: `ofChanges_eq_ok_iff`,
`changed_of_apply` and `Changed.identity`.
-/

namespace EntityQuery

variable {E α : Type} {s : Schema E}

/-- The assignment that a change stands for: its property means a field that can be written, and
its literal a value of this field. -/
structure PropertyChange.Assigns (s : Schema E) (c : PropertyChange) (a : Assignment) : Prop where
  resolve : s.resolve c.property = .ok a.field
  writable : (s.field a.field).isWritable
  coerce : Literal.coerce (s.typeOf a.field) c.value = .ok a.value

namespace Mutation

/-- The assigned fields in their order. -/
def fields (m : Mutation) : List FieldRef := m.assignments.map Assignment.field

/-! ### From changes to assignments -/

lemma set_eq_ok_iff {m m' : Mutation} {c : PropertyChange} :
    m.set s c.property c.value = .ok m' ↔
      ∃ a, c.Assigns s a ∧ a.field ∉ m.fields ∧ m' = ⟨m.assignments ++ [a]⟩ := by
  have hany (f : FieldRef) : (m.assignments.any fun a => a.field == f) = true ↔ f ∈ m.fields := by
    simp [fields]
  unfold set
  constructor
  · intro h
    obtain ⟨f, hf, h⟩ := Result.bind_eq_ok_iff.1 h
    simp only at h
    split at h
    · cases h
    · rename_i hwritable
      split at h
      · cases h
      · rename_i hfresh
        obtain ⟨v, hv, h⟩ := Result.bind_eq_ok_iff.1 h
        cases h
        exact ⟨⟨f, v⟩, ⟨hf, by simpa using hwritable, hv⟩, mt (hany f).2 hfresh, rfl⟩
  · rintro ⟨a, ⟨hresolve, hwritable, hcoerce⟩, hfresh, rfl⟩
    rw [hresolve, Schema.typeOf] at *
    have hfresh : (m.assignments.any fun b => b.field == a.field) = false :=
      Bool.eq_false_iff.2 (mt (hany a.field).1 hfresh)
    simp [bind, Except.bind, hwritable, hfresh, hcoerce, pure, Except.pure]

/-- Changes one after the other: each is an assignment of a field not assigned before. -/
lemma foldlM_set_eq_ok_iff {m m' : Mutation} {changes : List PropertyChange} (hm : m.fields.Nodup) :
    changes.foldlM (fun m c => m.set s c.property c.value) m = .ok m' ↔
      ∃ as, List.Forall₂ (PropertyChange.Assigns s) changes as ∧ m' = ⟨m.assignments ++ as⟩ ∧
        m'.fields.Nodup := by
  induction changes generalizing m with
  | nil =>
    rw [List.foldlM_nil]
    constructor
    · intro h
      cases h
      exact ⟨[], .nil, by simp, hm⟩
    · rintro ⟨as, has, rfl, -⟩
      cases has
      simp [pure, Except.pure]
  | cons c changes ih =>
    rw [List.foldlM_cons, Result.bind_eq_ok_iff]
    have hnodup (a : Assignment) :
        (fields ⟨m.assignments ++ [a]⟩).Nodup ↔ a.field ∉ m.fields := by
      rw [fields, List.map_append, List.map_singleton, ← List.concat_eq_append, List.nodup_concat]
      exact and_iff_left hm
    constructor
    · rintro ⟨m₁, hset, h⟩
      obtain ⟨a, ha, hfresh, rfl⟩ := set_eq_ok_iff.1 hset
      obtain ⟨as, has, rfl, hm'⟩ := (ih ((hnodup a).2 hfresh)).1 h
      exact ⟨a :: as, .cons ha has, by simp, hm'⟩
    · rintro ⟨as, has, rfl, hm'⟩
      cases has with
      | @cons _ a _ as ha has =>
        have hfresh : a.field ∉ m.fields := by
          rw [fields, List.map_append, List.nodup_append] at hm'
          exact fun h => hm'.2.2 _ h _ List.mem_cons_self rfl
        exact ⟨_, set_eq_ok_iff.2 ⟨a, ha, hfresh, rfl⟩,
          (ih ((hnodup a).2 hfresh)).2 ⟨as, has, by simp, hm'⟩⟩

/-- **A list of changes is a mutation exactly if** it is not empty, each change by itself is an
assignment, and no field is assigned twice; the assignments are in the order of the changes. -/
theorem ofChanges_eq_ok_iff {changes : List PropertyChange} {m : Mutation} :
    ofChanges s changes = .ok m ↔ changes ≠ [] ∧
      List.Forall₂ (PropertyChange.Assigns s) changes m.assignments ∧ m.fields.Nodup := by
  cases changes with
  | nil => simp [ofChanges]
  | cons c changes =>
    rw [ofChanges, if_neg (by simp), foldlM_set_eq_ok_iff (by simp [empty, fields])]
    constructor
    · rintro ⟨as, has, rfl, hm⟩
      exact ⟨by simp, has, hm⟩
    · rintro ⟨-, has, hm⟩
      exact ⟨_, has, rfl, hm⟩

/-! ### Effects -/

variable {Valid : E → Prop} {m : Mutation} {e e' : E}

lemma assign_eq_ok_iff {a : Assignment} :
    assign s e a = .ok e' ↔ (s.field a.field).write e a.value = .ok e' :=
  Result.mapError_eq_ok_iff

lemma apply_eq_ok_iff : m.apply s e = .ok e' ↔ run s e m.assignments = .ok e' :=
  Result.mapError_eq_ok_iff

lemma run_cons_eq_ok_iff {a : Assignment} {as : List Assignment} :
    run s e (a :: as) = .ok e' ↔
      ∃ e₁, (s.field a.field).write e a.value = .ok e₁ ∧ run s e₁ as = .ok e' := by
  simp only [← assign_eq_ok_iff]
  rw [run]
  cases assign s e a <;> simp

/-- Assignments lead to well-formed entities again and leave alone what each of them spares. -/
lemma look_of_run {as : List Assignment} {look : E → α} (he : Valid e)
    (hkeeps : ∀ a ∈ as, (s.field a.field).Keeps Valid)
    (hspares : ∀ a ∈ as, (s.field a.field).Spares Valid look) (h : run s e as = .ok e') :
    look e' = look e := by
  induction as generalizing e with
  | nil =>
    cases h
    rfl
  | cons a as ih =>
    obtain ⟨e₁, hwrite, h⟩ := run_cons_eq_ok_iff.1 h
    rw [List.forall_mem_cons] at hkeeps hspares
    rw [ih (hkeeps.1 e _ e₁ he hwrite).1 hkeeps.2 hspares.2 h, hspares.1 e _ e₁ he hwrite]

variable (hs : s.Independent Valid) (he : Valid e)

include hs he

/-- An assigned field reads as its value: no later assignment is one of the same field. -/
lemma read_of_run {as : List Assignment} (hdeclared : ∀ a ∈ as, s.Declares a.field)
    (hd : (as.map Assignment.field).Nodup) (h : run s e as = .ok e') {a : Assignment}
    (ha : a ∈ as) : s.read e' a.field = a.value := by
  induction as generalizing e with
  | nil => cases ha
  | cons b as ih =>
    obtain ⟨e₁, hwrite, hrest⟩ := run_cons_eq_ok_iff.1 h
    rw [List.forall_mem_cons] at hdeclared
    rw [List.map_cons, List.nodup_cons] at hd
    obtain ⟨he₁, hread⟩ := hs.keeps _ hdeclared.1.mem e _ e₁ he hwrite
    rcases List.mem_cons.1 ha with rfl | ha
    · have hspares : ∀ c ∈ as, (s.field c.field).Spares Valid fun e => s.read e a.field :=
        fun c hc => hs.spares_of_ne (hdeclared.2 c hc) hdeclared.1 fun heq =>
          hd.1 (List.mem_map.2 ⟨c, hc, heq⟩)
      rw [← hread]
      exact look_of_run he₁ (fun c hc => hs.keeps _ (hdeclared.2 c hc).mem) hspares hrest
    · exact ih he₁ hdeclared.2 hd.2 hrest ha

end Mutation

/-- An entity before and after some changes: the fields they name, and nothing else, differ. -/
structure PropertyChange.Changed (s : Schema E) (Valid : E → Prop) (changes : List PropertyChange)
    (e e' : E) : Prop where
  /-- A named field reads as the value of its literal. -/
  named : ∀ c ∈ changes, ∃ f v, s.resolve c.property = .ok f ∧
    Literal.coerce (s.typeOf f) c.value = .ok v ∧ s.read e' f = v
  /-- A field that is not named reads as before. -/
  unnamed : ∀ f, s.Declares f → (∀ c ∈ changes, s.resolve c.property ≠ .ok f) →
    s.read e' f = s.read e f
  /-- Whatever the setters of the named fields leave alone looks as before. -/
  spared : ∀ (α : Type) (look : E → α), (∀ c ∈ changes, ∀ f, s.resolve c.property = .ok f →
    (s.field f).Spares Valid look) → look e' = look e

namespace Mutation

variable {Valid : E → Prop} {changes : List PropertyChange} {m : Mutation} {e e' : E}

lemma exists_assigns (hm : List.Forall₂ (PropertyChange.Assigns s) changes m.assignments)
    {c : PropertyChange} (hc : c ∈ changes) : ∃ a ∈ m.assignments, c.Assigns s a :=
  Result.exists_of_forall₂ hm hc

lemma exists_assigned (hm : List.Forall₂ (PropertyChange.Assigns s) changes m.assignments)
    {a : Assignment} (ha : a ∈ m.assignments) : ∃ c ∈ changes, c.Assigns s a :=
  Result.exists_of_forall₂ hm.flip ha

/-- **A mutation changes exactly what its changes name.** -/
theorem changed_of_apply (hs : s.Independent Valid) (he : Valid e)
    (hm : ofChanges s changes = .ok m) (h : m.apply s e = .ok e') :
    PropertyChange.Changed s Valid changes e e' := by
  obtain ⟨-, hassigns, hd⟩ := ofChanges_eq_ok_iff.1 hm
  have hrun := apply_eq_ok_iff.1 h
  have hdeclared : ∀ a ∈ m.assignments, s.Declares a.field := fun a ha => by
    obtain ⟨c, -, hc⟩ := exists_assigned hassigns ha
    exact Schema.declares_of_resolve hc.resolve
  have hspared (α : Type) (look : E → α) (hlook : ∀ c ∈ changes, ∀ f,
      s.resolve c.property = .ok f → (s.field f).Spares Valid look) : look e' = look e := by
    refine look_of_run he (fun a ha => hs.keeps _ (hdeclared a ha).mem) (fun a ha => ?_) hrun
    obtain ⟨c, hc, hassign⟩ := exists_assigned hassigns ha
    exact hlook c hc _ hassign.resolve
  refine ⟨fun c hc => ?_, fun f hf hunnamed => ?_, hspared⟩
  · obtain ⟨a, ha, hassign⟩ := exists_assigns hassigns hc
    exact ⟨_, _, hassign.resolve, hassign.coerce, read_of_run hs he hdeclared hd hrun ha⟩
  · refine hspared _ (fun e => s.read e f) fun c hc g hg => ?_
    refine hs.spares_of_ne (Schema.declares_of_resolve hg) hf ?_
    rintro rfl
    exact hunnamed c hc hg

lemma resolve_ne_of_readOnly (hm : ofChanges s changes = .ok m) {f : FieldRef}
    (hf : (s.field f).isWritable = false) {c : PropertyChange} (hc : c ∈ changes) :
    s.resolve c.property ≠ .ok f := by
  intro hresolve
  obtain ⟨a, -, hassign⟩ := exists_assigns (ofChanges_eq_ok_iff.1 hm).2.1 hc
  rw [hassign.resolve, Except.ok.injEq] at hresolve
  have hwritable := hassign.writable
  rw [hresolve, hf] at hwritable
  cases hwritable

end Mutation

/-- **Changes keep identity and origin**: nothing names the base fields that hold them. -/
theorem PropertyChange.Changed.identity [Entity E] {Valid : E → Prop}
    {changes : List PropertyChange} {m : Mutation} {e e' : E} (h : Changed s Valid changes e e')
    (hm : Mutation.ofChanges s changes = .ok m) (hbase : SchemaDraft.baseFields ⊆ s.fields) :
    Entity.id e' = Entity.id e ∧ (Entity.base e').creator = (Entity.base e).creator := by
  have hkept {field : Field E} (hmem : field ∈ SchemaDraft.baseFields (E := E))
      (hreadOnly : field.isWritable = false) : field.read e' = field.read e := by
    obtain ⟨i, hi⟩ := List.mem_iff_getElem?.1 (hbase hmem)
    have hfield : s.field ⟨i, field.name⟩ = field := Schema.field_eq hi
    have hread := h.unnamed ⟨i, field.name⟩ ⟨field, hi, rfl⟩ fun c hc =>
      Mutation.resolve_ne_of_readOnly hm (by rw [hfield, hreadOnly]) hc
    simpa only [Schema.read, hfield] using hread
  have hid := hkept (.head _) rfl
  have hcreator := hkept (.tail _ (.tail _ (.head _))) rfl
  exact ⟨Value.uuid.inj hid, Value.uuid.inj hcreator⟩

end EntityQuery
