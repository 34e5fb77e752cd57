import EntityQuery.Proofs.Predicate.Typing
import EntityQuery.Proofs.Value.Order
import EntityQuery.Samples

/-!
How comparisons with a literal cut the entities. One that has a value in the field is less than the
literal, equal to it or greater, and only one of these; one that has none is not equal, and nothing
else. With the literal null, equality is the test for null, and nothing is less or greater. Main
statement: `cuts_filters`.
-/

namespace EntityQuery

variable {E : Type} {s : Schema E}

/-- A filter finds an entity: it has a predicate, which holds of the entity. -/
def Filter.Finds (s : Schema E) (filter : Filter) (e : E) : Prop :=
  ∃ p, Predicate.ofFilter s filter = .ok p ∧ p.holds s e

namespace Comparison

/-- The operator of the filters that ask for a comparison. -/
def operator : Comparison → Operator
  | .equal => .equal
  | .notEqual => .notEqual
  | .greater => .greaterThan
  | .greaterOrEqual => .greaterThanOrEqual
  | .less => .lessThan
  | .lessOrEqual => .lessThanOrEqual

/-- The filter that compares a property with a literal. -/
def filter (op : Comparison) (property : String) (literal : Option String) : Filter :=
  ⟨property, op.operator, literal⟩

/-! ### Two values -/

section Values

variable {op : Comparison} {a b : Value}

lemma compare?_null (a : Value) : a.compare? .null = none := by
  cases a <;> rfl

lemma test_of_isNull (ha : a.isNull) (hb : b.isNull = false) : op.test a b = (op == .notEqual) := by
  have hcompare : a.compare? b = none := by
    rw [Value.eq_null_of_isNull ha]
    rfl
  cases op <;> simp [test, same, ha, hb, hcompare]

lemma test_of_compare? {o : Ordering} (ha : a.isNull = false) (hb : b.isNull = false)
    (h : a.compare? b = some o) : op.test a b = op.holds o := by
  cases op <;> simp [test, same, holds, ha, hb, h, bne]

lemma test_equal_null : Comparison.equal.test a .null = a.isNull := by
  cases a <;> rfl

lemma test_null_of_asksOrder (hop : op.asksOrder) : op.test a .null = false := by
  cases op with
  | equal | notEqual => cases hop
  | greater | greaterOrEqual | less | lessOrEqual =>
    show (a.compare? .null).any _ = false
    rw [compare?_null]
    rfl

/-- Of less, equal and greater one and only one holds between values with an order. -/
lemma existsUnique_holds (o : Ordering) :
    ∃! op : Comparison, op ∈ [.less, .equal, .greater] ∧ op.holds o := by
  cases o
  case lt => exact ⟨.less, by decide, fun op => by cases op <;> decide⟩
  case eq => exact ⟨.equal, by decide, fun op => by cases op <;> decide⟩
  case gt => exact ⟨.greater, by decide, fun op => by cases op <;> decide⟩

end Values

/-! ### Filters -/

section Filters

variable {property : String} {f : FieldRef} {literal : Option String} {v : Value} {op : Comparison}
  {e : E} (hf : s.resolve property = .ok f)

include hf

/-- A comparison is compiled if its field has an order or it does not ask for one. -/
lemma ofFilter_filter :
    Predicate.ofFilter s (op.filter property literal) =
      if op.asksOrder → (s.typeOf f).kind.isOrdered then
        Predicate.comparing f (s.typeOf f) op literal
      else .error (.unsupportedOperator op.operator.name f.name (s.typeOf f).text
        (Operator.list (Predicate.allowed (s.typeOf f).kind))) := by
  have hsupports : Predicate.supports (s.typeOf f).kind op.operator ↔
      (op.asksOrder → (s.typeOf f).kind.isOrdered) := by
    cases op <;> simp [operator, Predicate.supports, asksOrder]
  have hbuild : Predicate.build f (s.typeOf f) literal op.operator =
      Predicate.comparing f (s.typeOf f) op literal := by
    cases op <;> rfl
  simp only [Predicate.ofFilter, filter, hf, bind, Except.bind, hsupports, hbuild]

lemma finds_filter_iff :
    (op.filter property literal).Finds s e ↔
      (op.asksOrder → (s.typeOf f).kind.isOrdered) ∧
        ∃ v, Literal.coerce (s.typeOf f) literal = .ok v ∧ op.test (s.read e f) v := by
  rw [Filter.Finds, ofFilter_filter hf]
  split
  · rename_i hop
    rw [and_iff_right hop]
    constructor
    · rintro ⟨p, hp, hholds⟩
      obtain ⟨v, hv, rfl⟩ := Result.map_eq_ok_iff.1 hp
      exact ⟨v, hv, hholds⟩
    · rintro ⟨v, hv, htest⟩
      exact ⟨_, Result.map_eq_ok_iff.2 ⟨v, hv, rfl⟩, htest⟩
  · rename_i hop
    exact iff_of_false (fun ⟨p, hp, _⟩ => by cases hp) (fun h => hop h.1)

lemma not_finds_null (hop : op.asksOrder) : ¬ (op.filter property none).Finds s e := by
  intro h
  obtain ⟨-, v, hv, htest⟩ := (finds_filter_iff hf).1 h
  obtain ⟨-, rfl⟩ := Literal.coerce_none_eq_ok_iff.1 hv
  rw [test_null_of_asksOrder hop] at htest
  cases htest

lemma finds_isNull_iff :
    Filter.Finds s ⟨property, .isNull, literal⟩ e ↔ (s.read e f).isNull := by
  have hcompiled : Predicate.ofFilter s ⟨property, .isNull, literal⟩ = .ok (.isNull f) := by
    simp only [Predicate.ofFilter, hf]
    rfl
  exact ⟨fun ⟨p, hp, hholds⟩ => by cases hcompiled.symm.trans hp; exact hholds,
    fun h => ⟨_, hcompiled, h⟩⟩

variable (hv : Literal.coerce (s.typeOf f) literal = .ok v)

include hv

lemma exists_ofFilter_iff :
    (∃ p, Predicate.ofFilter s (op.filter property literal) = .ok p) ↔
      (op.asksOrder → (s.typeOf f).kind.isOrdered) := by
  rw [ofFilter_filter hf, Predicate.comparing, hv]
  split
  · rename_i hop
    exact iff_of_true ⟨_, rfl⟩ hop
  · rename_i hop
    exact iff_of_false (fun ⟨p, hp⟩ => by cases hp) hop

lemma finds_iff_test (hop : op.asksOrder → (s.typeOf f).kind.isOrdered) :
    (op.filter property literal).Finds s e ↔ op.test (s.read e f) v := by
  rw [finds_filter_iff hf, and_iff_right hop, hv]
  simp

lemma finds_notEqual_iff :
    (notEqual.filter property literal).Finds s e ↔
      ¬ (equal.filter property literal).Finds s e := by
  rw [finds_iff_test hf hv (fun h => by cases h), finds_iff_test hf hv (fun h => by cases h)]
  show (!same _ v) = true ↔ ¬ same _ v
  rw [Bool.not_eq_true, Bool.not_eq_true']

end Filters

/-- The comparisons of a property with a literal cut an entity off or let it pass: without a value
it is not equal and nothing else; with a value it is less, equal or greater, and only one of these.
Less or equal, and greater or equal, mean what they say. -/
structure Cuts (s : Schema E) (property text : String) (f : FieldRef) (e : E) : Prop where
  null : (s.read e f).isNull →
    ∀ op : Comparison, (op.filter property (some text)).Finds s e ↔ op = .notEqual
  one : (s.read e f).isNull = false →
    ∃! op : Comparison, op ∈ [.less, .equal, .greater] ∧
      (op.filter property (some text)).Finds s e
  lessOrEqual : (lessOrEqual.filter property (some text)).Finds s e ↔
    (less.filter property (some text)).Finds s e ∨ (equal.filter property (some text)).Finds s e
  greaterOrEqual : (greaterOrEqual.filter property (some text)).Finds s e ↔
    (greater.filter property (some text)).Finds s e ∨ (equal.filter property (some text)).Finds s e

lemma cuts_of_coerce {property text : String} {f : FieldRef} {v : Value} {e : E}
    (hf : s.resolve property = .ok f) (hordered : (s.typeOf f).kind.isOrdered)
    (hv : Literal.coerce (s.typeOf f) (some text) = .ok v) (hnan : v.isNaN = false)
    (he : (s.typeOf f).admits (s.read e f)) (hnan' : (s.read e f).isNaN = false) :
    Cuts s property text f e := by
  have finds (op : Comparison) :
      (op.filter property (some text)).Finds s e ↔ op.test (s.read e f) v :=
    finds_iff_test hf hv fun _ => hordered
  have hkind : (s.typeOf f).kind.admits v :=
    Literal.admits_of_valueOf (Literal.coerce_some_eq_ok_iff.1 hv)
  have hnull := FieldKind.isNull_of_admits hkind
  cases hread : (s.read e f).isNull with
  | true =>
    have test (op : Comparison) : op.test (s.read e f) v = (op == .notEqual) :=
      test_of_isNull hread hnull
    refine ⟨fun _ op => ?_, fun h => ?_, ?_, ?_⟩
    · rw [finds, test, beq_iff_eq]
    · rw [hread] at h
      cases h
    · simp only [finds, test]
      decide
    · simp only [finds, test]
      decide
  | false =>
    rw [FieldType.admits, hread] at he
    obtain ⟨o, ho⟩ := Value.exists_compare? he hkind hnan' hnan
    have test (op : Comparison) : op.test (s.read e f) v = op.holds o :=
      test_of_compare? hread hnull ho
    refine ⟨fun h => ?_, fun _ => ?_, ?_, ?_⟩
    · rw [hread] at h
      cases h
    · simp only [finds, test]
      exact existsUnique_holds o
    · simp only [finds, test]
      cases o <;> decide
    · simp only [finds, test]
      cases o <;> decide

/-- **Comparisons cut every field exactly.** A literal that the field accepts makes a predicate with
each operator that the field supports, and not equal finds what equal does not. Equal to null finds
what the test for null finds, and nothing is less or greater than null. Where the field has an
order, a literal cuts all entities that conform to the schema, NaN on either side apart. -/
theorem cuts_filters (s : Schema E) {property : String} {f : FieldRef}
    (hf : s.resolve property = .ok f) :
    (∀ literal v, Literal.coerce (s.typeOf f) literal = .ok v →
      (∀ op : Comparison, (∃ p, Predicate.ofFilter s (op.filter property literal) = .ok p) ↔
        (op.asksOrder → (s.typeOf f).kind.isOrdered)) ∧
      ∀ e, (notEqual.filter property literal).Finds s e ↔
        ¬ (equal.filter property literal).Finds s e) ∧
    ((s.typeOf f).nullable → ∀ literal e, (equal.filter property none).Finds s e ↔
      Filter.Finds s ⟨property, .isNull, literal⟩ e) ∧
    (∀ op : Comparison, op.asksOrder → ∀ e, ¬ (op.filter property none).Finds s e) ∧
    ((s.typeOf f).kind.isOrdered → ∀ text v, Literal.coerce (s.typeOf f) (some text) = .ok v →
      v.isNaN = false → ∀ e, s.Conforms e → (s.read e f).isNaN = false →
        Cuts s property text f e) := by
  refine ⟨fun literal v hv => ⟨fun op => exists_ofFilter_iff hf hv, fun e => ?_⟩,
    fun hnullable literal e => ?_, fun op hop e => not_finds_null hf hop, ?_⟩
  · exact finds_notEqual_iff hf hv
  · rw [finds_isNull_iff hf, ← test_equal_null]
    exact finds_iff_test hf (Literal.coerce_none_eq_ok_iff.2 ⟨hnullable, rfl⟩) fun h => by cases h
  · intro hordered text v hv hnan e he hnan'
    have hfits := he _ (Schema.declares_of_resolve hf).mem
    exact cuts_of_coerce hf hordered hv hnan hfits hnan'

/-- The cost 1.0 cuts tasks: one that costs 1.00 is equal, one that costs 0.99 is less, and one
without a cost is not equal and nothing else. -/
theorem cuts_of_costs :
    let s : Schema Slots := ⟨"Task", Samples.task.draft.fields, [], [], none⟩
    let task (cost : Value) : Slots :=
      ⟨.fresh Uuid.nil Instant.epoch, [.text "dig", .null, .null, cost, .null, .bool false], [],
        none⟩
    let one : Value := .decimal ⟨false, 10, 1, by decide, by decide⟩
    let same := task (.decimal ⟨false, 100, 2, by decide, by decide⟩)
    let cheap := task (.decimal ⟨false, 99, 2, by decide, by decide⟩)
    let free := task .null
    let f : FieldRef := ⟨8, "Cost"⟩
    s.resolve "COST" = .ok f ∧ (s.typeOf f).kind.isOrdered ∧ (s.typeOf f).nullable ∧
      Literal.coerce (s.typeOf f) (some " 1.0 ") = .ok one ∧ s.Conforms same ∧ s.Conforms cheap ∧
      s.Conforms free ∧ Cuts s "COST" " 1.0 " f same ∧ Cuts s "COST" " 1.0 " f cheap ∧
      Cuts s "COST" " 1.0 " f free ∧ (equal.filter "COST" (some " 1.0 ")).Finds s same ∧
      (less.filter "COST" (some " 1.0 ")).Finds s cheap ∧
      (notEqual.filter "COST" (some " 1.0 ")).Finds s free ∧
      (equal.filter "COST" none).Finds s free ∧ ¬ (less.filter "COST" none).Finds s free := by
  intro s task one same cheap free f
  have resolved : s.resolve "COST" = .ok f := rfl
  have coerced : Literal.coerce (s.typeOf f) (some " 1.0 ") = .ok one := rfl
  have fits : s.Conforms same ∧ s.Conforms cheap ∧ s.Conforms free := by decide
  obtain ⟨-, null, never, cut⟩ := cuts_filters s resolved
  have cuts (e : Slots) (he : s.Conforms e) (hnan : (s.read e f).isNaN = false) :=
    cut rfl " 1.0 " one coerced rfl e he hnan
  have finds (op : Comparison) (e : Slots) : op.test (s.read e f) one →
      (op.filter "COST" (some " 1.0 ")).Finds s e :=
    (finds_iff_test resolved coerced fun _ => rfl).2
  exact ⟨resolved, rfl, rfl, coerced, fits.1, fits.2.1, fits.2.2, cuts same fits.1 rfl,
    cuts cheap fits.2.1 rfl, cuts free fits.2.2 rfl, finds .equal same (by decide),
    finds .less cheap (by decide), ((cuts free fits.2.2 rfl).null rfl .notEqual).2 rfl,
    (null rfl none free).2 ((finds_isNull_iff resolved).2 rfl), never .less rfl free⟩

end Comparison

end EntityQuery
