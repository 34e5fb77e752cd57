import EntityQuery.Proofs.Results
import EntityQuery.Schema.Draft
import Mathlib.Data.List.Nodup

/-!
Names of fields. In a schema that was built no two fields have names that differ in ASCII case at
most, so a field is found by its name, however it is spelled; and whatever a name resolves to is a
declared field under its declared name. Main statements: `resolve_eq_ok_iff` and `find?_name`.
-/

namespace EntityQuery

variable {E : Type}

namespace Schema

/-- A reference stands for a field of the schema and carries its declared name. -/
def Declares (s : Schema E) (f : FieldRef) : Prop :=
  ∃ field, s.fields[f.index]? = some field ∧ field.name = f.name

/-- No two fields have names that differ in ASCII case at most. -/
def NamesDiffer (s : Schema E) : Prop :=
  (s.fields.map Field.name).Pairwise fun a b => Text.fold a ≠ Text.fold b

lemma field_eq {s : Schema E} {f : FieldRef} {field : Field E}
    (h : s.fields[f.index]? = some field) : s.field f = field := by
  rw [Schema.field, field?, h, Option.getD_some]

lemma Declares.field?_eq {s : Schema E} {f : FieldRef} (h : s.Declares f) :
    s.field? f = some (s.field f) := by
  obtain ⟨field, hfield, -⟩ := h
  rw [field_eq hfield]
  exact hfield

lemma Declares.mem {s : Schema E} {f : FieldRef} (h : s.Declares f) : s.field f ∈ s.fields := by
  obtain ⟨field, hfield, -⟩ := h
  rw [field_eq hfield]
  exact List.mem_of_getElem? hfield

lemma Declares.name_mem {s : Schema E} {f : FieldRef} (h : s.Declares f) :
    f.name ∈ s.fields.map Field.name := by
  obtain ⟨field, hfield, hname⟩ := h
  exact List.mem_map.2 ⟨field, List.mem_of_getElem? hfield, hname⟩

lemma exists_declares {s : Schema E} {field : Field E} (h : field ∈ s.fields) :
    ∃ f, s.Declares f ∧ f.name = field.name ∧ s.field f = field := by
  obtain ⟨i, hi⟩ := List.getElem?_of_mem h
  exact ⟨⟨i, field.name⟩, ⟨field, hi, rfl⟩, rfl, field_eq hi⟩

lemma Declares.eq_of_index_eq {s : Schema E} {f g : FieldRef} (hf : s.Declares f)
    (hg : s.Declares g) (h : f.index = g.index) : f = g := by
  obtain ⟨field, hfield, hname⟩ := hf
  obtain ⟨field', hfield', hname'⟩ := hg
  rw [h, hfield', Option.some.injEq] at hfield
  subst hfield
  cases f
  cases g
  exact congrArg₂ FieldRef.mk h (hname.symm.trans hname')

lemma Declares.eq_of_sameFolded {s : Schema E} (hs : s.NamesDiffer) {f g : FieldRef}
    (hf : s.Declares f) (hg : s.Declares g) (h : Text.sameFolded f.name g.name) : f = g := by
  refine hf.eq_of_index_eq hg ?_
  obtain ⟨field, hfield, hname⟩ := hf
  obtain ⟨field', hfield', hname'⟩ := hg
  obtain ⟨hi, rfl⟩ := List.getElem?_eq_some_iff.1 hfield
  obtain ⟨hj, rfl⟩ := List.getElem?_eq_some_iff.1 hfield'
  have hfold : Text.fold s.fields[f.index].name = Text.fold s.fields[g.index].name := by
    rw [hname, hname']
    exact beq_iff_eq.1 h
  have hnodup : ((s.fields.map Field.name).map Text.fold).Nodup := List.pairwise_map.2 hs
  have hinj := @List.Nodup.getElem_inj_iff _ _ hnodup f.index (by simpa using hi) g.index
    (by simpa using hj)
  exact hinj.1 (by simpa using hfold)

lemma exists_of_position? {s : Schema E} {name : String} {i : ℕ} (h : s.position? name = some i) :
    ∃ field, s.fields[i]? = some field ∧ Text.fold field.name = Text.fold name := by
  unfold position? at h
  cases hexact : s.fields.findIdx? fun f => f.name == name with
  | some j =>
    rw [hexact] at h
    cases h
    obtain ⟨hlt, hname, -⟩ := List.findIdx?_eq_some_iff_getElem.1 hexact
    exact ⟨_, List.getElem?_eq_getElem hlt, congrArg Text.fold (beq_iff_eq.1 hname)⟩
  | none =>
    rw [hexact] at h
    obtain ⟨hlt, hname, -⟩ := List.findIdx?_eq_some_iff_getElem.1 h
    exact ⟨_, List.getElem?_eq_getElem hlt, beq_iff_eq.1 hname⟩

lemma of_resolve {s : Schema E} {name : String} {f : FieldRef} (h : s.resolve name = .ok f) :
    s.Declares f ∧ Text.fold f.name = Text.fold name := by
  unfold resolve at h
  cases hp : s.position? name with
  | none =>
    rw [hp] at h
    cases h
  | some i =>
    obtain ⟨field, hfield, hname⟩ := exists_of_position? hp
    simp only [hp, List.getD_eq_getElem?_getD, hfield, Option.getD_some] at h
    cases h
    exact ⟨⟨field, hfield, rfl⟩, hname⟩

lemma declares_of_resolve {s : Schema E} {name : String} {f : FieldRef}
    (h : s.resolve name = .ok f) : s.Declares f :=
  (of_resolve h).1

lemma exists_position? {s : Schema E} {name : String} {field : Field E} (h : field ∈ s.fields)
    (hname : Text.fold field.name = Text.fold name) : ∃ i, s.position? name = some i := by
  have hsome : (s.fields.findIdx? fun f => Text.sameFolded f.name name).isSome := by
    rw [List.findIdx?_isSome, List.any_eq_true]
    exact ⟨field, h, beq_iff_eq.2 hname⟩
  unfold position?
  cases s.fields.findIdx? fun f => f.name == name with
  | some i => exact ⟨i, rfl⟩
  | none => exact Option.isSome_iff_exists.1 hsome

/-- **A name resolves to the declared field** whose name differs from it in ASCII case at most. -/
theorem resolve_eq_ok_iff {s : Schema E} (hs : s.NamesDiffer) {name : String} {f : FieldRef} :
    s.resolve name = .ok f ↔ s.Declares f ∧ Text.fold f.name = Text.fold name := by
  refine ⟨of_resolve, fun ⟨hdeclares, hname⟩ => ?_⟩
  obtain ⟨field, hfield, hfieldname⟩ := hdeclares
  obtain ⟨i, hi⟩ := exists_position? (List.mem_of_getElem? hfield) (hfieldname ▸ hname)
  have hresolve : ∃ g, s.resolve name = .ok g := by
    rw [resolve, hi]
    exact ⟨_, rfl⟩
  -- no two fields share the name, so what it resolves to can only be the one given
  obtain ⟨g, hg⟩ := hresolve
  obtain ⟨hdeclares, hsame⟩ := of_resolve hg
  rw [hg, Declares.eq_of_sameFolded hs hdeclares ⟨field, hfield, hfieldname⟩
    (beq_iff_eq.2 (hsame.trans hname.symm))]

lemma resolve_name {s : Schema E} (hs : s.NamesDiffer) {i : ℕ} {field : Field E}
    (h : s.fields[i]? = some field) : s.resolve field.name = .ok ⟨i, field.name⟩ :=
  (resolve_eq_ok_iff hs).2 ⟨⟨field, h, rfl⟩, rfl⟩

end Schema

namespace SchemaDraft

/-- No name repeats another one exactly if they differ from each other and from those in front. -/
lemma repeated?_eq_none_iff {earlier names : List String} :
    repeated? earlier names = none ↔
      names.Pairwise (fun a b => Text.fold a ≠ Text.fold b) ∧
        ∀ a ∈ earlier, ∀ b ∈ names, Text.fold a ≠ Text.fold b := by
  induction names generalizing earlier with
  | nil => simp [repeated?]
  | cons name names ih =>
    have hfirst : (earlier.any fun other => Text.sameFolded other name) ↔
        ∃ a ∈ earlier, Text.fold a = Text.fold name := by
      simp [List.any_eq_true, Text.sameFolded]
    rw [repeated?]
    split
    · rename_i hany
      obtain ⟨a, ha, hsame⟩ := hfirst.1 hany
      exact iff_of_false (by simp) fun h => h.2 a ha name List.mem_cons_self hsame
    · rename_i hany
      rw [hfirst, not_exists] at hany
      rw [ih, List.pairwise_cons]
      simp only [List.forall_mem_cons]
      constructor
      · rintro ⟨hpair, hname, hrest⟩
        exact ⟨⟨hname, hpair⟩, fun a ha => ⟨fun hsame => hany a ⟨ha, hsame⟩, hrest a ha⟩⟩
      · rintro ⟨⟨hname, hpair⟩, hrest⟩
        exact ⟨hpair, hname, fun a ha => (hrest a ha).2⟩

lemma of_build_eq_ok {d : SchemaDraft E} {s : Schema E} (h : d.build = .ok s) :
    s.name = d.name ∧ s.fields = d.fields ∧ s.navigations = d.navigations ∧ s.NamesDiffer := by
  unfold build at h
  split at h
  · cases h
  · rename_i hr
    obtain ⟨unique, -, h⟩ := Result.bind_eq_ok_iff.1 h
    obtain ⟨modifiedAt, -, h⟩ := Result.bind_eq_ok_iff.1 h
    cases h
    exact ⟨rfl, rfl, rfl, (repeated?_eq_none_iff.1 hr).1⟩

end SchemaDraft

/-- **A declared field is found by its name**, ASCII case not counting. -/
theorem Schema.find?_name {α : Type} {s : Schema E} (hs : s.NamesDiffer) {f : FieldRef}
    (hf : s.Declares f) (image : Field E → α) :
    ((s.fields.map fun field => (field.name, image field)).find? fun c =>
      Text.sameFolded c.1 f.name) = some (f.name, image (s.field f)) := by
  obtain ⟨field, hfield, hname⟩ := hf
  obtain ⟨hlt, rfl⟩ := List.getElem?_eq_some_iff.1 hfield
  rw [field_eq hfield, List.find?_eq_some_iff_getElem]
  refine ⟨by simp [Text.sameFolded], f.index, by simpa using hlt, by simp [hname], ?_⟩
  intro j hj
  have hne := List.pairwise_iff_getElem.1 hs j f.index (by simp; omega) (by simpa using hlt) hj
  simp only [List.getElem_map, hname] at hne
  simpa [Text.sameFolded] using hne

end EntityQuery
