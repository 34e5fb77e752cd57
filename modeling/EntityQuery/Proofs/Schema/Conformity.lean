import EntityQuery.Literal
import EntityQuery.Proofs.Results
import EntityQuery.Schema.Basic

/-!
Values that fit the declared types. A type admits the values of its kind, and null if it may be
null; an entity conforms to its schema if every field admits what it reads there. A literal becomes
a value that its field admits. Main statement: `admits_of_coerce`.
-/

namespace EntityQuery

variable {E : Type}

/-- Whether a value is one of a kind's own. Null belongs to no kind. -/
def FieldKind.admits : FieldKind → Value → Bool
  | .bool, .bool _ => true
  | .int, .int _ => true
  | .float, .float _ => true
  | .decimal, .decimal _ => true
  | .text, .text _ => true
  | .uuid, .uuid _ => true
  | .binary, .bytes _ => true
  | .dateTime, .dateTime _ => true
  | .date, .date _ => true
  | .enum _, .enum _ => true
  | _, _ => false

/-- Whether a value fits a type. -/
def FieldType.admits (t : FieldType) (v : Value) : Bool :=
  if v.isNull then t.nullable else t.kind.admits v

/-- Whether a value is the float that is no number. -/
def Value.isNaN : Value → Bool
  | .float x => x.isNaN
  | _ => false

namespace Schema

/-- Every field of an entity reads as a value of its type. -/
def Conforms (s : Schema E) (e : E) : Prop :=
  ∀ field ∈ s.fields, field.type.admits (field.read e)

/-- No field of an entity reads as NaN. -/
def NaNFree (s : Schema E) (e : E) : Prop :=
  ∀ field ∈ s.fields, (field.read e).isNaN = false

/-- A field of an entity reads as a value of its kind, or as null. -/
def FitsKind (s : Schema E) (f : FieldRef) (e : E) : Prop :=
  (FieldType.optional (s.typeOf f).kind).admits (s.read e f)

instance (s : Schema E) (e : E) : Decidable (s.Conforms e) :=
  inferInstanceAs (Decidable (∀ field ∈ s.fields, field.type.admits (field.read e)))

instance (s : Schema E) (e : E) : Decidable (s.NaNFree e) :=
  inferInstanceAs (Decidable (∀ field ∈ s.fields, (field.read e).isNaN = false))

instance (s : Schema E) (f : FieldRef) (e : E) : Decidable (s.FitsKind f e) :=
  inferInstanceAs (Decidable ((FieldType.optional (s.typeOf f).kind).admits (s.read e f)))

end Schema

lemma Value.eq_null_of_isNull {v : Value} (h : v.isNull) : v = .null := by
  cases v <;> first
    | rfl
    | cases h

lemma FieldKind.isNull_of_admits {kind : FieldKind} {v : Value} (h : kind.admits v) :
    v.isNull = false := by
  cases v <;> first
    | rfl
    | cases kind <;> cases h

lemma FieldType.admits_of_kind {t : FieldType} {v : Value} (h : t.kind.admits v) :
    t.admits v := by
  rw [admits, FieldKind.isNull_of_admits h]
  exact h

lemma Schema.fitsKind_of_admits {s : Schema E} {f : FieldRef} {e : E}
    (h : (s.typeOf f).admits (s.read e f)) : s.FitsKind f e := by
  rw [FitsKind, FieldType.admits]
  rw [FieldType.admits] at h
  split at h
  · rw [if_pos ‹_›]
    rfl
  · rw [if_neg ‹_›]
    exact h

lemma FieldType.isNaN_of_admits {t : FieldType} {v : Value} (h : t.admits v)
    (hkind : t.kind ≠ .float) : v.isNaN = false := by
  cases v with
  | float x =>
    obtain ⟨kind, nullable⟩ := t
    cases kind <;> first
      | exact absurd rfl hkind
      | cases h
  | _ => rfl

namespace Literal

lemma admits_of_valueOf {kind : FieldKind} {text : String} {v : Value}
    (h : valueOf kind text = .ok v) : kind.admits v := by
  cases kind with
  | text =>
    cases h
    rfl
  | dateTime =>
    simp only [valueOf] at h
    split at h <;> cases h
    rfl
  | bool | int | float | decimal | uuid | binary | date | enum =>
    obtain ⟨_, -, rfl⟩ := Result.map_eq_ok_iff.1 h
    rfl

lemma coerce_none_eq_ok_iff {t : FieldType} {v : Value} :
    coerce t none = .ok v ↔ t.nullable ∧ v = .null := by
  rw [coerce]
  cases t.nullable <;> simp [eq_comm]

lemma coerce_some_eq_ok_iff {t : FieldType} {text : String} {v : Value} :
    coerce t (some text) = .ok v ↔ valueOf t.kind text = .ok v :=
  Result.mapError_eq_ok_iff

/-- **A literal becomes a value that its type admits.** -/
theorem admits_of_coerce {t : FieldType} {literal : Option String} {v : Value}
    (h : coerce t literal = .ok v) : t.admits v := by
  cases literal with
  | none =>
    obtain ⟨hnull, rfl⟩ := coerce_none_eq_ok_iff.1 h
    exact hnull
  | some text => exact FieldType.admits_of_kind (admits_of_valueOf (coerce_some_eq_ok_iff.1 h))

end Literal

end EntityQuery
