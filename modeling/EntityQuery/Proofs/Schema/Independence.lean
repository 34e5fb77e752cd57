import EntityQuery.Proofs.Schema.Includes
import EntityQuery.Proofs.Schema.Names
import EntityQuery.Slots

/-!
Independent fields. The setter of a field *spares* what it leaves alone; the fields of a schema are
*independent* if a successful write is read back and spares every other field. The entities of which
this is asked may be restricted to those that are well formed. Main statement: `independent_slots`,
the fields of entities of slots are independent.
-/

namespace EntityQuery

variable {E α : Type}

namespace Field

/-- The setter of a field leaves alone what is seen of well-formed entities. -/
def Spares (Valid : E → Prop) (f : Field E) (look : E → α) : Prop :=
  ∀ e v e', Valid e → f.write e v = .ok e' → look e' = look e

/-- The setters of two fields spare the other field each. -/
def Apart (Valid : E → Prop) (f g : Field E) : Prop :=
  f.Spares Valid g.read ∧ g.Spares Valid f.read

/-- A successful write leads to well-formed entities again and is read back. -/
def Keeps (Valid : E → Prop) (f : Field E) : Prop :=
  ∀ e v e', Valid e → f.write e v = .ok e' → Valid e' ∧ f.read e' = v

end Field

namespace Schema

/-- A successful write is read back and spares every other field. -/
structure Independent (Valid : E → Prop) (s : Schema E) : Prop where
  keeps : ∀ f ∈ s.fields, f.Keeps Valid
  apart : s.fields.Pairwise (Field.Apart Valid)

variable {s : Schema E} {f g : FieldRef}

lemma Independent.spares_of_ne {Valid : E → Prop} (hs : s.Independent Valid) (hf : s.Declares f)
    (hg : s.Declares g) (hne : f ≠ g) : (s.field f).Spares Valid fun e => s.read e g := by
  have hindex : f.index ≠ g.index := fun h => hne (hf.eq_of_index_eq hg h)
  obtain ⟨field, hfield, -⟩ := hf
  obtain ⟨field', hfield', -⟩ := hg
  simp only [Schema.read, field_eq hfield, field_eq hfield']
  obtain ⟨hi, rfl⟩ := List.getElem?_eq_some_iff.1 hfield
  obtain ⟨hj, rfl⟩ := List.getElem?_eq_some_iff.1 hfield'
  rcases Nat.lt_or_gt_of_ne hindex with hlt | hgt
  · exact (List.pairwise_iff_getElem.1 hs.apart _ _ hi hj hlt).1
  · exact (List.pairwise_iff_getElem.1 hs.apart _ _ hj hi hgt).2

end Schema

/-! ### Base fields -/

namespace SchemaDraft

variable [Entity E] {Valid : E → Prop}

/-- What a base field does when it is written: it puts other base fields into the entity. -/
lemma exists_withBase_of_write {f : Field E} (hf : f ∈ baseFields) {e e' : E} {v : Value}
    (h : f.write e v = .ok e') :
    ∃ b, e' = Entity.withBase e b ∧ b.id = Entity.id e ∧ b.creator = (Entity.base e).creator := by
  simp only [baseFields, List.mem_cons, List.not_mem_nil, or_false] at hf
  rcases hf with rfl | rfl | rfl | rfl | rfl <;>
    first
    | cases h
    | obtain ⟨x, -, h⟩ := Result.bind_eq_ok_iff.1 h
      cases h
      exact ⟨_, rfl, rfl, rfl⟩

/-- The base fields are independent where base fields put into an entity are the ones it has. -/
lemma apart_baseFields (hlens : ∀ (e : E) (b : BaseFields), Entity.base (Entity.withBase e b) = b) :
    (baseFields (E := E)).Pairwise (Field.Apart Valid) := by
  simp only [baseFields, List.pairwise_cons, List.mem_cons, List.not_mem_nil, or_false,
    forall_eq_or_imp, forall_eq, Field.Apart, Field.Spares, false_implies, implies_true,
    List.Pairwise.nil, and_true]
  refine ⟨⟨⟨?_, ?_⟩, ⟨?_, ?_⟩, ⟨?_, ?_⟩, ⟨?_, ?_⟩⟩, ⟨⟨?_, ?_⟩, ⟨?_, ?_⟩, ⟨?_, ?_⟩⟩,
    ⟨⟨?_, ?_⟩, ⟨?_, ?_⟩⟩, ⟨?_, ?_⟩⟩
  all_goals
    intro e v e' _ h
    first
    | cases h
    | obtain ⟨x, -, h⟩ := Result.bind_eq_ok_iff.1 h
      cases h
      simp only [hlens]

lemma keeps_baseFields (hlens : ∀ (e : E) (b : BaseFields), Entity.base (Entity.withBase e b) = b)
    (hvalid : ∀ e b, Valid e → Valid (Entity.withBase e b)) {f : Field E} (hf : f ∈ baseFields) :
    f.Keeps Valid := by
  intro e v e' he h
  obtain ⟨b, rfl, -⟩ := exists_withBase_of_write hf h
  refine ⟨hvalid e b he, ?_⟩
  simp only [baseFields, List.mem_cons, List.not_mem_nil, or_false] at hf
  rcases hf with rfl | rfl | rfl | rfl | rfl <;>
    first
    | cases h
    | obtain ⟨x, hx, h⟩ := Result.bind_eq_ok_iff.1 h
      have hb := congrArg Entity.base (Except.ok.inj h)
      simp only [hlens] at hb
      subst hb
      cases v <;> cases hx
      simp only [hlens]

end SchemaDraft

/-! ### Slots -/

/-- What a place shows after a value was stored in it is this value. -/
lemma Storage.eq_of_store_eq_ok {s : Storage} {nullable : Bool} {v w : Value}
    (h : s.store nullable v = .ok w) : w = v := by
  have hvalue {v w : Value} (h : s.toValue <$> s.ofValue v = .ok w) : w = v := by
    obtain ⟨x, hx, rfl⟩ := Result.map_eq_ok_iff.1 h
    cases s <;> cases v <;> simp only [ofValue, reduceCtorEq, Except.ok.injEq] at hx
    case int32.int i =>
      split at hx
      · rename_i hfits
        cases hx
        exact congrArg Value.int hfits
      · cases hx
    all_goals exact congrArg _ hx.symm
  unfold store at h
  split at h
  · obtain ⟨x, hx, rfl⟩ := Result.map_eq_ok_iff.1 h
    cases v with
    | null => cases hx; rfl
    | _ =>
      obtain ⟨y, hy, rfl⟩ := Result.map_eq_ok_iff.1 hx
      exact hvalue (Result.map_eq_ok_iff.2 ⟨y, hy, rfl⟩)
  · exact hvalue h

namespace SlotType

variable {t : SlotType} {i : ℕ} {e e' : Slots} {v : Value}

lemma eq_put_of_write (h : (t.field i).write e v = .ok e') : e' = e.put i v := by
  unfold Field.write field at h
  split at h
  · rename_i hset
    split at hset
    · cases hset
    · cases hset
      obtain ⟨w, hw, rfl⟩ := Result.map_eq_ok_iff.1 h
      rw [Storage.eq_of_store_eq_ok hw]
  · cases h

end SlotType

namespace SlotsType

variable (t : SlotsType)

/-- The entity has a value for each slot. -/
def Fits (e : Slots) : Prop := e.values.length = t.slots.length

instance (e : Slots) : Decidable (t.Fits e) :=
  inferInstanceAs (Decidable (e.values.length = t.slots.length))

lemma keeps_slot {i : ℕ} (hi : i < t.slots.length) (slot : SlotType) :
    (slot.field i).Keeps t.Fits := by
  intro e v e' he h
  rw [SlotType.eq_put_of_write h]
  refine ⟨by simpa [Fits, Slots.put] using he, ?_⟩
  have hlt : i < e.values.length := he ▸ hi
  simp [SlotType.field, Slots.get, Slots.put, hlt]

lemma apart_slots {i j : ℕ} (hij : i ≠ j) (slot slot' : SlotType) :
    (slot.field i).Apart t.Fits (slot'.field j) := by
  constructor <;>
    · intro e v e' _ h
      rw [SlotType.eq_put_of_write h]
      simp [SlotType.field, Slots.get, Slots.put, hij, hij.symm]

lemma apart_base_slot {f : Field Slots} (hf : f ∈ SchemaDraft.baseFields) (slot : SlotType)
    (i : ℕ) : f.Apart t.Fits (slot.field i) := by
  constructor
  · intro e v e' _ h
    obtain ⟨b, rfl, -⟩ := SchemaDraft.exists_withBase_of_write hf h
    rfl
  · intro e v e' _ h
    rw [SlotType.eq_put_of_write h]
    simp only [SchemaDraft.baseFields, List.mem_cons, List.not_mem_nil, or_false] at hf
    rcases hf with rfl | rfl | rfl | rfl | rfl <;> rfl

lemma fields_eq {s : Schema Slots} (hs : t.draft.build = .ok s) :
    s.fields = (if t.hasBase then SchemaDraft.baseFields else []) ++
      t.slots.mapIdx fun i slot => slot.field i := by
  obtain ⟨-, hfields, -⟩ := SchemaDraft.of_build_eq_ok hs
  rw [hfields]
  cases hbase : t.hasBase <;> simp [draft, hbase, SchemaDraft.empty, SchemaDraft.addBaseFields]

lemma exists_fields {s : Schema Slots} (hs : t.draft.build = .ok s) :
    ∃ base ⊆ SchemaDraft.baseFields, base.Pairwise (Field.Apart t.Fits) ∧
      s.fields = base ++ t.slots.mapIdx fun i slot => slot.field i := by
  refine ⟨_, ?_, ?_, t.fields_eq hs⟩
  · split
    · exact List.Subset.refl _
    · exact List.nil_subset _
  · split
    · exact SchemaDraft.apart_baseFields fun e b => rfl
    · exact .nil

/-- **The fields of entities of slots are independent**, the base fields among them. -/
theorem independent_slots {s : Schema Slots} (hs : t.draft.build = .ok s) :
    s.Independent t.Fits := by
  obtain ⟨base, hsub, hapart, hfields⟩ := t.exists_fields hs
  constructor
  · intro f hf
    rw [hfields, List.mem_append] at hf
    rcases hf with hf | hf
    · exact SchemaDraft.keeps_baseFields (fun e b => rfl) (fun e b he => he) (hsub hf)
    · obtain ⟨i, hi, rfl⟩ := List.mem_mapIdx.1 hf
      exact t.keeps_slot hi _
  · rw [hfields, List.pairwise_append]
    refine ⟨hapart, List.pairwise_iff_getElem.2 fun i j hi hj hij => ?_, fun f hf g hg => ?_⟩
    · simpa only [List.getElem_mapIdx] using t.apart_slots (Nat.ne_of_lt hij) _ _
    · obtain ⟨i, hi, rfl⟩ := List.mem_mapIdx.1 hg
      exact t.apart_base_slot (hsub hf) _ i

/-- Whatever navigation of entities of slots is unloaded, the fields read as before. -/
theorem fieldsStay_slots {s : Schema Slots} (hs : t.draft.build = .ok s) : s.FieldsStay := by
  obtain ⟨base, hsub, -, hfields⟩ := t.exists_fields hs
  intro n hn field hfield e
  rw [(SchemaDraft.of_build_eq_ok hs).2.2.1] at hn
  obtain ⟨j, -, rfl⟩ := List.mem_mapIdx.1 hn
  rw [hfields, List.mem_append] at hfield
  rcases hfield with hfield | hfield
  · have hbase := hsub hfield
    simp only [SchemaDraft.baseFields, List.mem_cons, List.not_mem_nil, or_false] at hbase
    rcases hbase with rfl | rfl | rfl | rfl | rfl <;> rfl
  · obtain ⟨i, -, rfl⟩ := List.mem_mapIdx.1 hfield
    rfl

end SlotsType

end EntityQuery
