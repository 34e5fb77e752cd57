import EntityQuery.Proofs.Schema.Conformity
import EntityQuery.Proofs.Uuid

/-!
The order of values. Two values sort the other way around when they change places, and the values
that a type admits, NaN apart, sort transitively, so sorting them is sorting by a total preorder.
Values neither of which is the larger are equal, unless they are members of an enumeration that
share an ordinal. Main statements: `sortCompare_swap`, `sortCompare_trans` and `equal_iff`.
-/

namespace EntityQuery

instance : Std.TransOrd Uuid :=
  inferInstanceAs (Std.TransCmp (compareOn fun u : Uuid => u.bits.toNat))

instance : Std.TransOrd Decimal :=
  inferInstanceAs (Std.TransCmp (compareOn Decimal.units))

instance : Std.TransOrd Date :=
  inferInstanceAs (Std.TransCmp
    (compareLex (compareLex (compareOn Date.year) (compareOn Date.month)) (compareOn Date.day)))

instance : Std.TransOrd Instant :=
  inferInstanceAs (Std.TransCmp
    (compareLex (compareLex (compareOn Instant.date) (compareOn Instant.second))
      (compareOn Instant.nano)))

lemma Date.compare_eq (a b : Date) : compare a b =
    ((compare a.year b.year).then (compare a.month b.month)).then (compare a.day b.day) := rfl

lemma Instant.compare_eq (a b : Instant) : compare a b =
    ((compare a.date b.date).then (compare a.second b.second)).then (compare a.nano b.nano) := rfl

lemma Date.compare_eq_iff {a b : Date} : compare a b = .eq ↔ a = b := by
  constructor
  · intro h
    obtain ⟨hmonths, hday⟩ := Ordering.then_eq_eq.1 h
    obtain ⟨hyear, hmonth⟩ := Ordering.then_eq_eq.1 hmonths
    cases a
    cases b
    simp only [Std.LawfulEqCmp.compare_eq_iff_eq] at hyear hmonth hday
    subst hyear hmonth hday
    rfl
  · rintro rfl
    exact Std.ReflOrd.compare_self

lemma Instant.compare_eq_iff {a b : Instant} : compare a b = .eq ↔ a = b := by
  constructor
  · intro h
    obtain ⟨hseconds, hnano⟩ := Ordering.then_eq_eq.1 h
    obtain ⟨hdate, hsecond⟩ := Ordering.then_eq_eq.1 hseconds
    cases a
    cases b
    simp only [Std.LawfulEqCmp.compare_eq_iff_eq, Date.compare_eq_iff] at hdate hsecond hnano
    subst hdate hsecond hnano
    rfl
  · rintro rfl
    exact Std.ReflOrd.compare_self

namespace Value

/-! ### Two values -/

lemma compare?_swap (a b : Value) : b.compare? a = (a.compare? b).map Ordering.swap := by
  cases a <;> cases b <;> first
    | rfl
    | exact congrArg some Std.OrientedOrd.eq_swap
    | skip
  rename_i x y
  simp only [compare?, Binary64.compare?, Bool.or_comm x.isNaN]
  cases y.isNaN || x.isNaN with
  | true => rfl
  | false => exact congrArg some Std.OrientedOrd.eq_swap

lemma sortCompare_swap (a b : Value) : b.sortCompare a = (a.sortCompare b).swap := by
  unfold sortCompare
  rw [compare?_swap a b]
  cases a.isNull <;> cases b.isNull <;> cases a.compare? b <;> rfl

lemma isNull_of_sortCompare {a b : Value} (h : (a.sortCompare b).isLE) (hb : b.isNull) :
    a.isNull := by
  unfold sortCompare at h
  rw [hb] at h
  cases ha : a.isNull with
  | true => rfl
  | false =>
    rw [ha] at h
    cases h

/-- The name of a member of an enumeration. -/
def memberName? : Value → Option String
  | .enum m => some m.name
  | _ => none

/-- **Two values of one kind are equal exactly if neither is the larger**, members of enumerations
if they bear the same name, too. -/
theorem equal_iff {kind : FieldKind} {a b : Value} (ha : kind.admits a) (hb : kind.admits b) :
    a.equal b ↔ a.compare? b = some .eq ∧ a.memberName? = b.memberName? := by
  cases kind <;> cases a <;> cases ha <;> cases b <;> cases hb <;>
    simp only [equal, compare?, memberName?, and_true, beq_iff_eq, Option.some.injEq]
  case float => exact beq_iff_eq
  case uuid => exact Uuid.compare_eq_iff.symm
  case date => exact Date.compare_eq_iff.symm
  case dateTime => exact Instant.compare_eq_iff.symm
  case decimal => exact beq_iff_eq.trans Std.LawfulEqOrd.compare_eq_iff_eq.symm
  case enum =>
    rename_i m m'
    rw [Std.LawfulEqCmp.compare_eq_iff_eq, EnumMember.mk.injEq, and_comm]
  all_goals rw [Std.LawfulEqCmp.compare_eq_iff_eq]

/-- Where ordinals tell members of enumerations apart, two values of one kind are equal exactly if
neither is the larger. -/
lemma equal_iff_compare? {kind : FieldKind} {a b : Value} (ha : kind.admits a)
    (hb : kind.admits b)
    (hordinals : ∀ m m', a = .enum m → b = .enum m' → m.ordinal = m'.ordinal → m = m') :
    a.equal b ↔ a.compare? b = some .eq := by
  rw [equal_iff ha hb, and_iff_left_iff_imp]
  intro h
  cases a <;> cases b <;> first
    | rfl
    | cases h
    | skip
  rename_i m m'
  rw [compare?, Option.some.injEq, Std.LawfulEqCmp.compare_eq_iff_eq] at h
  rw [hordinals m m' rfl rfl h]

/-! ### Three values -/

lemma exists_compare? {kind : FieldKind} {a b : Value} (ha : kind.admits a) (hb : kind.admits b)
    (hna : a.isNaN = false) (hnb : b.isNaN = false) : ∃ o, a.compare? b = some o := by
  cases kind <;> cases a <;> cases ha <;> cases b <;> cases hb <;> first
    | exact ⟨_, rfl⟩
    | skip
  rename_i x y
  simp only [isNaN] at hna hnb
  exact ⟨compare x.orderKey y.orderKey, by simp [compare?, Binary64.compare?, hna, hnb]⟩

lemma compare?_trans {kind : FieldKind} {a b c : Value} (ha : kind.admits a) (hb : kind.admits b)
    (hc : kind.admits c) (hna : a.isNaN = false) (hnb : b.isNaN = false) (hnc : c.isNaN = false)
    {o o' : Ordering} (hab : a.compare? b = some o) (hbc : b.compare? c = some o') (ho : o.isLE)
    (ho' : o'.isLE) : ∃ r, a.compare? c = some r ∧ r.isLE := by
  cases kind <;> cases a <;> cases ha <;> cases b <;> cases hb <;> cases c <;> cases hc <;>
    first
    | (cases hab
       cases hbc
       exact ⟨_, rfl, Std.TransOrd.isLE_trans ho ho'⟩)
    | skip
  rename_i x y z
  simp only [isNaN] at hna hnb hnc
  simp only [compare?, Binary64.compare?, hna, hnb, hnc, Bool.or_false, Bool.false_eq_true,
    if_false, Option.some.injEq] at hab hbc ⊢
  subst hab hbc
  exact ⟨_, rfl, Std.TransOrd.isLE_trans ho ho'⟩

/-- **The values of a type sort transitively**, NaN apart; null comes first. -/
theorem sortCompare_trans {t : FieldType} {a b c : Value} (ha : t.admits a) (hb : t.admits b)
    (hc : t.admits c) (hna : a.isNaN = false) (hnb : b.isNaN = false) (hnc : c.isNaN = false)
    (hab : (a.sortCompare b).isLE) (hbc : (b.sortCompare c).isLE) : (a.sortCompare c).isLE := by
  unfold FieldType.admits at ha hb hc
  unfold sortCompare at hab hbc ⊢
  cases hnulla : a.isNull with
  | true => cases c.isNull <;> rfl
  | false =>
    cases hnullb : b.isNull with
    | true => simp [hnulla, hnullb] at hab
    | false =>
      cases hnullc : c.isNull with
      | true => simp [hnullb, hnullc] at hbc
      | false =>
        simp only [hnulla, hnullb, hnullc, Bool.false_eq_true, if_false] at ha hb hc hab hbc ⊢
        obtain ⟨o, ho⟩ := exists_compare? ha hb hna hnb
        obtain ⟨o', ho'⟩ := exists_compare? hb hc hnb hnc
        rw [ho] at hab
        rw [ho'] at hbc
        obtain ⟨r, hr, hle⟩ := compare?_trans ha hb hc hna hnb hnc ho ho' hab hbc
        rw [hr]
        exact hle

end Value

end EntityQuery
