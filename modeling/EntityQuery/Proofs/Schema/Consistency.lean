import EntityQuery.Proofs.Schema.Index
import EntityQuery.Samples

/-!
Consistent drafts. A draft becomes a schema exactly if its names differ, its unique keys name fields
that there are, and so does its time stamp. In the schema every name, in whatever case it is
written, means one field or none. Main statement: `settles_of_build`.
-/

namespace EntityQuery

variable {E : Type}

namespace Schema

/-- What a name means: the field whose name it is, ASCII case not counting, or nothing. -/
structure Settles (s : Schema E) (name : String) : Prop where
  /-- A field is found exactly if the name is its own; it is found at its position and under its
  declared name, and there is no other. -/
  found : ∀ f, s.resolve name = .ok f ↔ s.Declares f ∧ Text.fold f.name = Text.fold name
  /-- A name that is nobody's is refused as it is written. -/
  refused : (¬ ∃ field ∈ s.fields, Text.fold field.name = Text.fold name) →
    s.resolve name = .error (.unknownProperty s.name name)
  /-- A field that is spelled in the same way is the one that is found without regard to case. -/
  spelled : ∀ i, s.fields.findIdx? (fun field => field.name == name) = some i →
    s.fields.findIdx? (fun field => Text.sameFolded field.name name) = some i
  /-- In another case the name means the same. -/
  folded : ∀ other, Text.fold other = Text.fold name →
    ∀ f, s.resolve other = .ok f ↔ s.resolve name = .ok f

variable {s : Schema E} {name : String}

lemma exists_resolve_iff :
    (∃ f, s.resolve name = .ok f) ↔ ∃ field ∈ s.fields, Text.fold field.name = Text.fold name := by
  constructor
  · rintro ⟨f, hf⟩
    obtain ⟨⟨field, hfield, hname⟩, hfold⟩ := of_resolve hf
    exact ⟨field, List.mem_of_getElem? hfield, by rw [hname, hfold]⟩
  · rintro ⟨field, hfield, hfold⟩
    obtain ⟨i, hi⟩ := exists_position? hfield hfold
    exact ⟨_, by rw [resolve, hi]⟩

lemma resolve_eq_error (h : ¬ ∃ f, s.resolve name = .ok f) :
    s.resolve name = .error (.unknownProperty s.name name) := by
  unfold resolve at h ⊢
  cases hposition : s.position? name with
  | none => rfl
  | some i =>
    rw [hposition] at h
    exact absurd ⟨_, rfl⟩ h

lemma NamesDiffer.settles (hs : s.NamesDiffer) (name : String) : s.Settles name where
  found _ := resolve_eq_ok_iff hs
  refused h := resolve_eq_error fun hresolve => h (exists_resolve_iff.1 hresolve)
  spelled i hi := by
    obtain ⟨hlt, hname, -⟩ := List.findIdx?_eq_some_iff_getElem.1 hi
    have hsame : s.fields[i].name = name := beq_iff_eq.1 hname
    refine List.findIdx?_eq_some_iff_getElem.2 ⟨hlt, by simp [Text.sameFolded, hsame], ?_⟩
    -- no field in front has the name in another case
    intro j hj
    have hne := List.pairwise_iff_getElem.1 hs j i (by simp; omega) (by simpa using hlt) hj
    simp only [List.getElem_map, hsame] at hne
    simpa [Text.sameFolded] using hne
  folded other h f := by rw [resolve_eq_ok_iff hs, resolve_eq_ok_iff hs, h]

end Schema

namespace SchemaDraft

variable {s : Schema E} {d : SchemaDraft E}

/-- A draft that does not contradict itself. -/
structure Consistent (d : SchemaDraft E) : Prop where
  /-- No two fields have names that differ in ASCII case at most. -/
  fields : (d.fields.map Field.name).Pairwise fun a b => Text.fold a ≠ Text.fold b
  /-- A unique key names at least one field, and only fields that there are. -/
  unique : ∀ key ∈ d.unique, key.2 ≠ [] ∧
    ∀ name ∈ key.2, ∃ field ∈ d.fields, Text.fold field.name = Text.fold name
  /-- The time of the last change is a field that holds times. -/
  modifiedAt : ∀ name ∈ d.modifiedAt, ∃ field ∈ d.fields,
    Text.fold field.name = Text.fold name ∧ field.type.kind = .dateTime

lemma exists_key_iff {name : String} {names : List String} :
    (∃ k, key s name names = .ok k) ↔
      names ≠ [] ∧ ∀ n ∈ names, ∃ field ∈ s.fields, Text.fold field.name = Text.fold n := by
  unfold key
  split
  · rename_i hempty
    exact iff_of_false (by simp) fun h => h.1 (List.isEmpty_iff.1 hempty)
  · rename_i hnames
    simp only [← Schema.exists_resolve_iff, ← Result.exists_mapM_iff]
    rw [and_iff_right fun hempty => hnames (List.isEmpty_iff.2 hempty)]
    constructor
    · rintro ⟨k, hk⟩
      obtain ⟨fields, hfields, -⟩ := Result.bind_eq_ok_iff.1 hk
      exact ⟨fields, hfields⟩
    · rintro ⟨fields, hfields⟩
      exact ⟨_, Result.bind_eq_ok_iff.2 ⟨fields, hfields, rfl⟩⟩

lemma exists_stamp_iff (hs : s.NamesDiffer) {name : String} :
    (∃ f, stamp s name = .ok f) ↔ ∃ field ∈ s.fields,
      Text.fold field.name = Text.fold name ∧ field.type.kind = .dateTime := by
  constructor
  · rintro ⟨f, hf⟩
    obtain ⟨g, hg, hf⟩ := Result.bind_eq_ok_iff.1 hf
    split at hf
    · rename_i hkind
      obtain ⟨⟨field, hfield, hname⟩, hfold⟩ := Schema.of_resolve hg
      rw [Schema.typeOf, Schema.field_eq hfield] at hkind
      exact ⟨field, List.mem_of_getElem? hfield, by rw [hname, hfold], hkind⟩
    · cases hf
  · rintro ⟨field, hfield, hfold, hkind⟩
    obtain ⟨f, hdeclares, hname, hf⟩ := Schema.exists_declares hfield
    have hresolve : s.resolve name = .ok f :=
      (Schema.resolve_eq_ok_iff hs).2 ⟨hdeclares, by rw [hname, hfold]⟩
    have hstamp : (s.typeOf f).kind = .dateTime := by rw [Schema.typeOf, hf, hkind]
    exact ⟨f, Result.bind_eq_ok_iff.2 ⟨f, hresolve, if_pos hstamp⟩⟩

/-- **A draft builds exactly if it is consistent.** -/
theorem exists_build_iff : (∃ s, d.build = .ok s) ↔ d.Consistent := by
  let plain : Schema E := ⟨d.name, d.fields, d.navigations, [], none⟩
  have hbuild (hnames : plain.NamesDiffer) : (∃ s, d.build = .ok s) ↔
      (∃ keys, (d.unique.mapM fun declared => key plain declared.1 declared.2) = .ok keys) ∧
        ∃ field, d.modifiedAt.mapM (stamp plain) = .ok field := by
    have hnone : repeated? [] (d.fields.map Field.name) = none :=
      repeated?_eq_none_iff.2 ⟨hnames, by simp⟩
    rw [build, hnone]
    constructor
    · rintro ⟨s, hs⟩
      obtain ⟨keys, hkeys, hs⟩ := Result.bind_eq_ok_iff.1 hs
      obtain ⟨field, hfield, -⟩ := Result.bind_eq_ok_iff.1 hs
      exact ⟨⟨keys, hkeys⟩, field, hfield⟩
    · rintro ⟨⟨keys, hkeys⟩, field, hfield⟩
      exact ⟨_, Result.bind_eq_ok_iff.2 ⟨keys, hkeys, Result.bind_eq_ok_iff.2 ⟨field, hfield, rfl⟩⟩⟩
  by_cases hnames : plain.NamesDiffer
  · rw [hbuild hnames, Result.exists_mapM_iff, Result.exists_option_mapM_iff]
    simp only [exists_key_iff, exists_stamp_iff hnames]
    exact ⟨fun ⟨hunique, hstamp⟩ => ⟨hnames, hunique, hstamp⟩, fun h => ⟨h.unique, h.modifiedAt⟩⟩
  · refine iff_of_false (fun ⟨s, hs⟩ => hnames ?_) fun h => hnames h.fields
    obtain ⟨-, hfields, -, hdiffer⟩ := of_build_eq_ok hs
    rwa [Schema.NamesDiffer, hfields] at hdiffer

/-- **A draft becomes a schema exactly if it is consistent**, and the schema, which has the fields
of the draft, settles what every name means. The tables that one pass over the names of the fields
fills find the same. -/
theorem settles_of_build (d : SchemaDraft E) :
    ((∃ s, d.build = .ok s) ↔ d.Consistent) ∧
      ∀ s, d.build = .ok s → s.name = d.name ∧ s.fields = d.fields ∧ (∀ name, s.Settles name) ∧
        ∃ index, NameIndex.ofNames (s.fields.map Field.name) = .ok index ∧
          ∀ name, index.position? name = s.position? name := by
  refine ⟨exists_build_iff, fun s hs => ?_⟩
  obtain ⟨hname, hfields, -, hdiffer⟩ := of_build_eq_ok hs
  exact ⟨hname, hfields, hdiffer.settles, NameIndex.exists_of_build hs⟩

/-- The draft of tasks is consistent. In its schema a cost is found in whatever case, and a price
is not; a second field for the title, and a key of prices, would contradict the rest. -/
theorem settles_of_tasks :
    let d := Samples.task.draft
    let s : Schema Slots :=
      { name := "Task"
        fields := d.fields
        navigations := d.navigations
        unique := [⟨"ux_task_title", [⟨5, "Title"⟩]⟩,
          ⟨"ux_task_cost", [⟨6, "Owner"⟩, ⟨8, "Cost"⟩]⟩]
        modifiedAt := some ⟨4, "ModifiedAt"⟩ }
    d.Consistent ∧ d.build = .ok s ∧ s.resolve "cOST" = .ok ⟨8, "Cost"⟩ ∧
      s.resolve "Price" = .error (.unknownProperty "Task" "Price") ∧
      ¬ (d.addField ((Samples.optional "TITLE" .text).field 6)).Consistent ∧
      ¬ (d.addUnique "ux_task_price" ["Title", "Price"]).Consistent := by
  intro d s
  have built : d.build = .ok s := rfl
  obtain ⟨consistent, settles⟩ := settles_of_build d
  obtain ⟨-, -, settles, -⟩ := settles s built
  have refuses {d' : SchemaDraft Slots} {e : QueryError} (h : d'.build = .error e) :
      ¬ d'.Consistent := by
    rw [← (settles_of_build d').1, h]
    rintro ⟨_, ⟨⟩⟩
  refine ⟨consistent.1 ⟨s, built⟩, built, ?_, (settles "Price").refused (by decide +kernel),
    refuses rfl, refuses rfl⟩
  exact ((settles "cOST").found ⟨8, "Cost"⟩).2 ⟨⟨_, rfl, rfl⟩, by decide +kernel⟩

end SchemaDraft

end EntityQuery
