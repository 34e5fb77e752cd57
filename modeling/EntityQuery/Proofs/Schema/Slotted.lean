import EntityQuery.Proofs.Literal.Typing
import EntityQuery.Proofs.Schema.Independence

/-!
Entities made of their fields. The fields of a schema are *slots* if they are independent, take
every value of their types, and leave nothing open: an entity is what its fields read together with
what no setter touches. Main statement: `slotted_slots`, entities of slots are made of their fields
if each slot has the place that fits its type.
-/

namespace EntityQuery

variable {E : Type}

/-- The setter of a field, if it has one, takes every value of the field's type; a member of an
enumeration has to be declared. -/
def Field.Takes (Valid : E → Prop) (f : Field E) : Prop :=
  f.isWritable → ∀ e v, Valid e → f.type.admits v → f.type.kind.Declares v →
    ∃ e', f.write e v = .ok e'

/-- Well-formed entities that read the same in all fields, and look the same in whatever all setters
leave alone, are the same. -/
def Schema.Separates (Valid : E → Prop) (s : Schema E) : Prop :=
  ∀ e e', Valid e → Valid e' → (∀ f ∈ s.fields, f.read e' = f.read e) →
    (∀ (α : Type) (look : E → α), (∀ f ∈ s.fields, f.Spares Valid look) → look e' = look e) →
    e' = e

/-- The fields of a schema are slots of the entities. -/
structure Schema.Slotted (Valid : E → Prop) (s : Schema E) : Prop extends
    s.Independent Valid where
  takes : ∀ f ∈ s.fields, f.Takes Valid
  separates : s.Separates Valid

lemma FieldType.kind_admits_of_required {kind : FieldKind} {v : Value}
    (h : (FieldType.required kind).admits v) : kind.admits v := by
  rw [FieldType.admits] at h
  split at h
  · cases h
  · exact h

/-! ### Base fields -/

namespace SchemaDraft

variable [Entity E]

lemma takes_baseFields {Valid : E → Prop} {f : Field E} (hf : f ∈ baseFields) : f.Takes Valid := by
  intro hwritable e v _ hadmits _
  simp only [baseFields, List.mem_cons, List.not_mem_nil, or_false] at hf
  rcases hf with rfl | rfl | rfl | rfl | rfl
  case inl | inr.inr.inl => cases hwritable
  all_goals
    obtain ⟨x, hx⟩ := Storage.exists_ofValue (FieldType.kind_admits_of_required hadmits)
    exact ⟨_, Result.bind_eq_ok_iff.2 ⟨x, hx, rfl⟩⟩

lemma base_eq_of_read {e e' : E} (h : ∀ f ∈ baseFields, f.read e' = f.read e) :
    Entity.base e' = Entity.base e := by
  simp only [baseFields, List.forall_mem_cons, List.not_mem_nil, Value.uuid.injEq,
    Value.bool.injEq, Value.dateTime.injEq] at h
  obtain ⟨hid, hdeleted, hcreator, hcreated, hmodified, -⟩ := h
  cases hbase : Entity.base e
  cases hbase' : Entity.base e'
  simp only [hbase, hbase'] at hid hdeleted hcreator hcreated hmodified
  subst hid hdeleted hcreator hcreated hmodified
  rfl

end SchemaDraft

/-! ### Slots -/

namespace SlotsType

variable (t : SlotsType)

lemma takes_slot {slot : SlotType} (h : slot.storage = slot.type.kind.storage) (i : ℕ) :
    (slot.field i).Takes t.Fits := by
  intro hwritable e v _ hadmits _
  have hset : (slot.field i).write e v = e.put i <$> slot.storage.store slot.type.nullable v := by
    cases hreadOnly : slot.readOnly with
    | true => simp [Field.isWritable, SlotType.field, hreadOnly] at hwritable
    | false => simp [Field.write, SlotType.field, hreadOnly]
  have hstore : slot.storage.store slot.type.nullable v = .ok v :=
    h ▸ Storage.store_of_admits (t := slot.type) hadmits
  rw [hset, hstore]
  exact ⟨_, rfl⟩

variable {t}

/-- What neither the slots nor, if there are any, the base fields make up is left alone by all
setters. -/
lemma spares_slots {s : Schema Slots} (hs : t.draft.build = .ok s) {α : Type} {look : Slots → α}
    (hput : ∀ e i v, look (Slots.put e i v) = look e)
    (hbase : t.hasBase → ∀ e b, look (Entity.withBase e b) = look e) :
    ∀ f ∈ s.fields, f.Spares t.Fits look := by
  intro f hf e v e' _ hwrite
  rw [t.fields_eq hs, List.mem_append] at hf
  rcases hf with hf | hf
  · split at hf
    · rename_i hhas
      obtain ⟨b, rfl, -⟩ := SchemaDraft.exists_withBase_of_write hf hwrite
      exact hbase hhas e b
    · cases hf
  · obtain ⟨i, hi, rfl⟩ := List.mem_mapIdx.1 hf
    rw [SlotType.eq_put_of_write hwrite, hput]

lemma values_eq_of_read {e e' : Slots} (he : t.Fits e) (he' : t.Fits e')
    (h : ∀ f ∈ t.slots.mapIdx fun i slot => slot.field i, f.read e' = f.read e) :
    e'.values = e.values := by
  refine List.ext_getElem (he'.trans he.symm) fun i hi' hi => ?_
  have hslot : i < t.slots.length := he ▸ hi
  have hread : e'.get i = e.get i := h (t.slots[i].field i) (List.mem_mapIdx.2 ⟨i, hslot, rfl⟩)
  simpa [Slots.get, hi, hi'] using hread

lemma separates_slots {s : Schema Slots} (hs : t.draft.build = .ok s) : s.Separates t.Fits := by
  intro e e' he he' hread hlook
  have hfields := t.fields_eq hs
  have hvalues : e'.values = e.values := values_eq_of_read he he' fun f hf =>
    hread f (hfields ▸ List.mem_append_right _ hf)
  have hrelated : e'.related = e.related :=
    hlook _ Slots.related (spares_slots hs (fun _ _ _ => rfl) fun _ _ _ => rfl)
  have hlabel : e'.label = e.label :=
    hlook _ Slots.label (spares_slots hs (fun _ _ _ => rfl) fun _ _ _ => rfl)
  have hbase : e'.base = e.base := by
    cases hhas : t.hasBase with
    | true =>
      refine SchemaDraft.base_eq_of_read (E := Slots) fun f hf => hread f ?_
      rw [hfields, hhas]
      exact List.mem_append_left _ hf
    | false =>
      refine hlook _ Slots.base (spares_slots hs (fun _ _ _ => rfl) fun h => ?_)
      rw [hhas] at h
      cases h
  cases e
  cases e'
  subst hvalues hrelated hlabel hbase
  rfl

/-- **Entities of slots are made of their fields** if each slot has the place that fits its type. -/
theorem slotted_slots {s : Schema Slots} (hs : t.draft.build = .ok s)
    (hfit : ∀ slot ∈ t.slots, slot.storage = slot.type.kind.storage) : s.Slotted t.Fits where
  toIndependent := t.independent_slots hs
  takes := by
    intro f hf
    rw [t.fields_eq hs, List.mem_append] at hf
    rcases hf with hf | hf
    · split at hf
      · exact SchemaDraft.takes_baseFields hf
      · cases hf
    · obtain ⟨i, hi, rfl⟩ := List.mem_mapIdx.1 hf
      exact t.takes_slot (hfit _ (List.getElem_mem hi)) i
  separates := separates_slots hs

end SlotsType

end EntityQuery
