import EntityQuery.Proofs.Text.Utf8
import EntityQuery.Proofs.Value.Order
import EntityQuery.Sql.Datum
import EntityQuery.Text.Infix

/-!
Values as SQLite stores them. Two values of one kind compare as what is stored for them does: truth
values and members of enumerations as integers, texts as their bytes, identifiers as their texts.
Null is stored for null alone, and comes first in both orders. Main statements: `compare?_eq_order`,
`order_ofValue` and `same_ofValue`.
-/

namespace EntityQuery

/-- The kinds whose values are stored without losing equality or order. -/
def FieldKind.isNative : FieldKind → Bool
  | .bool | .int | .float | .text | .uuid | .binary | .enum _ => true
  | .decimal | .dateTime | .date => false

namespace Sql.Datum

/-- What is stored for a value. -/
def ofValue (v : Value) : Datum := .ofParam (.ofValue v)

lemma ofValue_null : ofValue .null = .null := rfl

lemma ofValue_float {x : Binary64} (h : x.isNaN = false) : ofValue (.float x) = .real x := by
  simp [ofValue, Param.ofValue, ofParam, h]

lemma isNull_ofValue {v : Value} (h : v.isNaN = false) : (ofValue v).isNull = v.isNull := by
  cases v with
  | float x => rw [ofValue_float h]; rfl
  | _ => rfl

/-! ### Order -/

lemma compare_toInt (a b : Int64) : compare a.toInt b.toInt = compare a b := by
  show compareOfLessAndEq a.toInt b.toInt = compareOfLessAndEq a b
  simp only [compareOfLessAndEq, Int64.lt_iff_toInt_lt, Int64.toInt_inj]

lemma compare_truth (a b : Bool) :
    compare (if a then (1 : Int64) else 0).toInt (if b then (1 : Int64) else 0).toInt =
      compare a b := by
  revert a b
  decide

/-- **Two values of one kind compare as what is stored for them.** -/
theorem compare?_eq_order {kind : FieldKind} (hkind : kind.isNative) {a b : Value}
    (ha : kind.admits a) (hb : kind.admits b) (hna : a.isNaN = false) (hnb : b.isNaN = false) :
    a.compare? b = some ((ofValue a).order (ofValue b)) := by
  cases kind with
  | decimal | dateTime | date => cases hkind
  | bool =>
    cases a <;> cases ha
    cases b <;> cases hb
    exact congrArg some (compare_truth _ _).symm
  | int | enum =>
    cases a <;> cases ha
    cases b <;> cases hb
    exact congrArg some (compare_toInt _ _).symm
  | float =>
    cases a <;> cases ha
    cases b <;> cases hb
    simp only [Value.isNaN] at hna hnb
    rw [ofValue_float hna, ofValue_float hnb]
    simp [Value.compare?, Binary64.compare?, hna, hnb, order]
  | text =>
    cases a <;> cases ha
    cases b <;> cases hb
    exact congrArg some (Text.compare_bytes _ _).symm
  | uuid =>
    cases a <;> cases ha
    cases b <;> cases hb
    exact congrArg some ((Uuid.compare_text _ _).symm.trans (Text.compare_bytes _ _).symm)
  | binary =>
    cases a <;> cases ha
    cases b <;> cases hb
    rfl

lemma order_null_left (d : Datum) : order .null d = if d.isNull then .eq else .lt := by
  cases d <;> rfl

lemma order_null_right (d : Datum) : order d .null = if d.isNull then .eq else .gt := by
  cases d <;> rfl

/-- **The values of a type sort as what is stored for them.** -/
theorem order_ofValue {t : FieldType} (hkind : t.kind.isNative) {a b : Value} (ha : t.admits a)
    (hb : t.admits b) (hna : a.isNaN = false) (hnb : b.isNaN = false) :
    (ofValue a).order (ofValue b) = a.sortCompare b := by
  unfold Value.sortCompare
  cases hnulla : a.isNull with
  | true =>
    rw [Value.eq_null_of_isNull hnulla, ofValue_null, order_null_left, isNull_ofValue hnb]
    cases b.isNull <;> rfl
  | false =>
    cases hnullb : b.isNull with
    | true =>
      rw [Value.eq_null_of_isNull hnullb, ofValue_null, order_null_right, isNull_ofValue hna,
        hnulla]
      rfl
    | false =>
      rw [FieldType.admits, hnulla] at ha
      rw [FieldType.admits, hnullb] at hb
      rw [compare?_eq_order hkind ha hb hna hnb]
      rfl

/-- **Two values of one type are stored as the same exactly if they are equal.** -/
theorem same_ofValue {t : FieldType} (hkind : t.kind.isNative) {a b : Value} (ha : t.admits a)
    (hb : t.admits b) (hna : a.isNaN = false) (hnb : b.isNaN = false)
    (hordinals : ∀ m m', a = .enum m → b = .enum m' → m.ordinal = m'.ordinal → m = m') :
    (ofValue a).same (ofValue b) = a.equal b := by
  rw [same, order_ofValue hkind ha hb hna hnb]
  unfold Value.sortCompare
  cases hnulla : a.isNull with
  | true =>
    rw [Value.eq_null_of_isNull hnulla]
    cases b <;> rfl
  | false =>
    cases hnullb : b.isNull with
    | true =>
      rw [Value.eq_null_of_isNull hnullb]
      cases a <;> first
        | rfl
        | cases hnulla
    | false =>
      rw [FieldType.admits, hnulla] at ha
      rw [FieldType.admits, hnullb] at hb
      rw [Bool.eq_iff_iff, Value.equal_iff_compare? ha hb hordinals,
        compare?_eq_order hkind ha hb hna hnb, beq_iff_eq]
      exact (Option.some.injEq _ _).symm.to_iff

/-! ### Search -/

lemma isSome_indexOf? (part whole : List Char) :
    (indexOf? part whole).isSome = Text.occursIn part whole := by
  induction whole with
  | nil => cases part <;> rfl
  | cons c rest ih =>
    rw [indexOf?, Text.occursIn]
    cases h : part.isPrefixOf (c :: rest) with
    | true => rfl
    | false =>
      rw [if_neg (by decide), Option.isSome_map, ih, Bool.false_or]

lemma compared_place (part whole : List Char) :
    compared (· == .gt) (place part whole) (.integer 0) =
      ofTruth (some (Text.occursIn part whole)) := by
  rw [← isSome_indexOf?]
  cases h : indexOf? part whole with
  | none => simp [place, h, compared, isNull, order]
  | some n =>
    have hgt : compare ((n : Int) + 1) 0 = .gt := Int.compare_eq_gt.2 (by omega)
    simp [place, h, compared, isNull, order, hgt]

end Sql.Datum

end EntityQuery
