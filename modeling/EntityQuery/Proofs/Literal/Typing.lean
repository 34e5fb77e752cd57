import EntityQuery.Proofs.Predicate.Equality
import EntityQuery.Proofs.Schema.Conformity
import EntityQuery.Slots

/-!
What literals become. A text becomes a value of the kind that is asked for, and a member of an
enumeration is one of those that are declared; only null becomes null. The place that fits a type
takes each of its values and shows it unchanged. Main statements: `denotes_of_coerce` and
`store_of_admits`.
-/

namespace EntityQuery

/-! ### Places of a type -/

namespace Storage

variable {t : FieldType} {v : Value}

lemma ofValue?_of_not_isNull (s : Storage) (h : v.isNull = false) :
    s.ofValue? v = some <$> s.ofValue v := by
  cases v with
  | null => cases h
  | _ => rfl

lemma toValue_ofValue {kind : FieldKind} (h : kind.admits v) :
    kind.storage.toValue <$> kind.storage.ofValue v = .ok v := by
  cases kind <;> cases v <;> first
    | rfl
    | cases h

lemma exists_ofValue {kind : FieldKind} (h : kind.admits v) :
    ∃ x, kind.storage.ofValue v = .ok x := by
  obtain ⟨x, hx, -⟩ := Result.map_eq_ok_iff.1 (toValue_ofValue h)
  exact ⟨x, hx⟩

/-- **The place that fits a type takes each of its values** and shows it unchanged. -/
theorem store_of_admits (h : t.admits v) : t.kind.storage.store t.nullable v = .ok v := by
  rw [FieldType.admits] at h
  cases hnull : v.isNull with
  | true =>
    rw [hnull, if_pos rfl] at h
    rw [Value.eq_null_of_isNull hnull, store, if_pos h]
    rfl
  | false =>
    rw [hnull, if_neg (by decide)] at h
    have hvalue := toValue_ofValue h
    rw [store]
    split
    · rw [ofValue?_of_not_isNull _ hnull, ← hvalue]
      cases t.kind.storage.ofValue v <;> rfl
    · exact hvalue

end Storage

/-! ### Literals -/

namespace Literal

variable {t : FieldType} {literal : Option String} {v : Value}

lemma mem_of_memberOf {type : EnumType} {s : List Char} {m : EnumMember}
    (h : memberOf type s = .ok m) : m ∈ type.members := by
  unfold memberOf at h
  split at h
  · split at h
    · rename_i hfound
      cases h
      exact List.mem_of_find?_eq_some hfound
    · cases h
  · split at h
    · rename_i hfound
      cases h
      exact List.mem_of_find?_eq_some hfound
    · cases h

lemma declares_of_valueOf {kind : FieldKind} {text : String} (h : valueOf kind text = .ok v) :
    kind.Declares v := by
  cases kind with
  | enum type =>
    obtain ⟨m, hm, rfl⟩ := Result.map_eq_ok_iff.1 h
    exact mem_of_memberOf hm
  | _ => trivial

/-- A value that a literal stands for where a type is asked for. -/
structure Denotes (t : FieldType) (literal : Option String) (v : Value) : Prop where
  /-- Either both are null and the type has null, or there is a text and the value is of the kind,
  a member being one of those declared. -/
  typed : literal = none ∧ t.nullable ∧ v = .null ∨
    literal.isSome ∧ t.kind.admits v ∧ t.kind.Declares v
  /-- The place that fits the type takes the value and shows it unchanged. -/
  stored : t.kind.storage.store t.nullable v = .ok v

lemma Denotes.admits (h : Denotes t literal v) : t.admits v := by
  rcases h.typed with ⟨-, hnull, rfl⟩ | ⟨-, hkind, -⟩
  · exact hnull
  · exact FieldType.admits_of_kind hkind

lemma Denotes.declares (h : Denotes t literal v) : t.kind.Declares v := by
  rcases h.typed with ⟨-, -, rfl⟩ | ⟨-, -, hdeclared⟩
  · cases t.kind <;> trivial
  · exact hdeclared

/-- **What a literal becomes is a value of the type.** -/
theorem denotes_of_coerce (h : coerce t literal = .ok v) : Denotes t literal v := by
  refine ⟨?_, Storage.store_of_admits (admits_of_coerce h)⟩
  cases literal with
  | none => exact .inl ⟨rfl, coerce_none_eq_ok_iff.1 h⟩
  | some text =>
    have hvalue := coerce_some_eq_ok_iff.1 h
    exact .inr ⟨rfl, admits_of_valueOf hvalue, declares_of_valueOf hvalue⟩

end Literal

end EntityQuery
