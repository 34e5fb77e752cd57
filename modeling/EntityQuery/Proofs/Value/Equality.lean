import EntityQuery.Proofs.Schema.Conformity
import EntityQuery.Value.Basic
import Mathlib.Tactic.Common

/-!
Equality of values is symmetric and transitive, for every kind of value and through the whole of a
document; and a value equals itself exactly if it holds no NaN. Main statements: `equal_comm`,
`equal_trans` and `equal_self_iff`.
-/

namespace EntityQuery

lemma Binary64.equal_comm (x y : Binary64) : x.equal y = y.equal x := by
  unfold Binary64.equal Binary64.compare?
  rw [Bool.or_comm y.isNaN]
  split
  · rfl
  · rw [Bool.eq_iff_iff]
    simp only [beq_iff_eq, Option.some.injEq, Std.LawfulEqCmp.compare_eq_iff_eq]
    exact eq_comm

lemma Decimal.equal_comm (a b : Decimal) : a.equal b = b.equal a := by
  unfold Decimal.equal
  exact Bool.beq_comm

lemma JsonNumber.equal_comm (a b : JsonNumber) : a.equal b = b.equal a := by
  cases a <;> cases b <;>
    simp only [JsonNumber.equal, Binary64.equal_comm, Bool.beq_comm]

namespace Json

mutual

lemma equal_comm : ∀ a b : Json, a.equal b = b.equal a
  | .array as, .array bs => by simpa only [equal] using equalItems_comm as bs
  | .object as, .object bs => by simpa only [equal] using equalMembers_comm as bs
  | .null, b => by cases b <;> rfl
  | .bool a, b => by cases b <;> simp only [equal, Bool.beq_comm]
  | .number a, b => by cases b <;> simp only [equal, JsonNumber.equal_comm]
  | .string a, b => by cases b <;> simp only [equal, Bool.beq_comm]
  | .array as, .null | .array as, .bool _ | .array as, .number _ | .array as, .string _
  | .array as, .object _ => rfl
  | .object as, .null | .object as, .bool _ | .object as, .number _ | .object as, .string _
  | .object as, .array _ => rfl

lemma equalItems_comm : ∀ as bs : List Json, equalItems as bs = equalItems bs as
  | [], [] | [], _ :: _ | _ :: _, [] => rfl
  | a :: as, b :: bs => by simp only [equalItems, equal_comm a b, equalItems_comm as bs]

lemma equalMembers_comm : ∀ as bs : List (String × Json), equalMembers as bs = equalMembers bs as
  | [], [] | [], _ :: _ | _ :: _, [] => rfl
  | (k, a) :: as, (l, b) :: bs => by
    simp only [equalMembers, equal_comm a b, equalMembers_comm as bs, Bool.beq_comm (a := k)]

end

end Json

/-- **Equality of values is symmetric.** -/
theorem Value.equal_comm (a b : Value) : a.equal b = b.equal a := by
  cases a <;> cases b <;>
    simp only [Value.equal, Binary64.equal_comm, Decimal.equal_comm, Json.equal_comm, Bool.beq_comm]

/-! ### Three values, and one alone -/

lemma Binary64.equal_iff {x y : Binary64} :
    x.equal y ↔ x.isNaN = false ∧ y.isNaN = false ∧ x.orderKey = y.orderKey := by
  unfold Binary64.equal Binary64.compare?
  cases x.isNaN <;> cases y.isNaN <;> simp

lemma Binary64.equal_trans {x y z : Binary64} (hxy : x.equal y) (hyz : y.equal z) : x.equal z := by
  obtain ⟨hx, -, hxy⟩ := equal_iff.1 hxy
  obtain ⟨-, hz, hyz⟩ := equal_iff.1 hyz
  exact equal_iff.2 ⟨hx, hz, hxy.trans hyz⟩

lemma Binary64.equal_self_iff {x : Binary64} : x.equal x ↔ x.isNaN = false :=
  equal_iff.trans ⟨fun h => h.1, fun h => ⟨h, h, rfl⟩⟩

namespace JsonNumber

/-- Whether a number is the float that is no number. -/
def isNaN : JsonNumber → Bool
  | .float x => x.isNaN
  | _ => false

lemma equal_trans {a b c : JsonNumber} (hab : a.equal b) (hbc : b.equal c) : a.equal c := by
  cases a <;> cases b <;> simp only [equal, Bool.false_eq_true] at hab <;>
    cases c <;> simp only [equal, Bool.false_eq_true] at hbc ⊢
  case float.float.float => exact Binary64.equal_trans hab hbc
  all_goals exact beq_iff_eq.2 ((beq_iff_eq.1 hab).trans (beq_iff_eq.1 hbc))

lemma equal_self_iff {a : JsonNumber} : a.equal a ↔ a.isNaN = false := by
  cases a with
  | float x => exact Binary64.equal_self_iff
  | natural | negative => simp [equal, isNaN]

end JsonNumber

namespace Json

mutual

/-- Whether a document holds the float that is no number. -/
def holdsNaN : Json → Bool
  | .number n => n.isNaN
  | .array items => itemsHoldNaN items
  | .object members => membersHoldNaN members
  | _ => false

/-- Whether an item of an array holds it. -/
def itemsHoldNaN : List Json → Bool
  | [] => false
  | a :: as => holdsNaN a || itemsHoldNaN as

/-- Whether a member of an object holds it. -/
def membersHoldNaN : List (String × Json) → Bool
  | [] => false
  | (_, a) :: as => holdsNaN a || membersHoldNaN as

end

mutual

lemma equal_trans : ∀ a b c : Json, a.equal b → b.equal c → a.equal c
  | .array as, b, c => by
    cases b <;> cases c <;> simp only [equal, Bool.false_eq_true, false_implies, implies_true]
    exact equalItems_trans as _ _
  | .object as, b, c => by
    cases b <;> cases c <;> simp only [equal, Bool.false_eq_true, false_implies, implies_true]
    exact equalMembers_trans as _ _
  | .number a, b, c => by
    cases b <;> cases c <;> simp only [equal, Bool.false_eq_true, false_implies, implies_true]
    exact JsonNumber.equal_trans
  | .null, b, c | .bool a, b, c | .string a, b, c => by
    cases b <;> cases c <;>
      simp +contextual only [equal, beq_iff_eq, Bool.false_eq_true, false_implies, implies_true]

lemma equalItems_trans : ∀ as bs cs : List Json, equalItems as bs → equalItems bs cs →
    equalItems as cs
  | [], bs, cs => by
    cases bs <;> cases cs <;> simp [equalItems]
  | a :: as, bs, cs => by
    cases bs <;> cases cs <;>
      simp only [equalItems, Bool.and_eq_true, Bool.false_eq_true, false_implies, implies_true]
    rintro ⟨hab, habs⟩ ⟨hbc, hbcs⟩
    exact ⟨equal_trans a _ _ hab hbc, equalItems_trans as _ _ habs hbcs⟩

lemma equalMembers_trans : ∀ as bs cs : List (String × Json), equalMembers as bs →
    equalMembers bs cs → equalMembers as cs
  | [], bs, cs => by
    cases bs <;> cases cs <;> simp [equalMembers]
  | (k, a) :: as, bs, cs => by
    cases bs <;> cases cs <;>
      simp only [equalMembers, Bool.and_eq_true, beq_iff_eq, Bool.false_eq_true, false_implies,
        implies_true]
    rintro ⟨⟨hkl, hab⟩, habs⟩ ⟨⟨hlm, hbc⟩, hbcs⟩
    exact ⟨⟨hkl.trans hlm, equal_trans a _ _ hab hbc⟩, equalMembers_trans as _ _ habs hbcs⟩

end

mutual

lemma equal_self_iff : ∀ a : Json, a.equal a ↔ a.holdsNaN = false
  | .array as => equalItems_self_iff as
  | .object as => equalMembers_self_iff as
  | .number _ => JsonNumber.equal_self_iff
  | .null | .bool _ | .string _ => by simp [equal, holdsNaN]

lemma equalItems_self_iff : ∀ as : List Json, equalItems as as ↔ itemsHoldNaN as = false
  | [] => by simp [equalItems, itemsHoldNaN]
  | a :: as => by
    rw [equalItems, itemsHoldNaN, Bool.and_eq_true, Bool.or_eq_false_iff, equal_self_iff a,
      equalItems_self_iff as]

lemma equalMembers_self_iff : ∀ as : List (String × Json),
    equalMembers as as ↔ membersHoldNaN as = false
  | [] => by simp [equalMembers, membersHoldNaN]
  | (k, a) :: as => by
    rw [equalMembers, membersHoldNaN, beq_self_eq_true, Bool.true_and, Bool.and_eq_true,
      Bool.or_eq_false_iff, equal_self_iff a, equalMembers_self_iff as]

end

end Json

namespace Value

/-- Whether a value holds the float that is no number, be it inside of a document. -/
def holdsNaN : Value → Bool
  | .float x => x.isNaN
  | .json j => j.holdsNaN
  | _ => false

/-- **Equality of values is transitive.** -/
theorem equal_trans {a b c : Value} (hab : a.equal b) (hbc : b.equal c) : a.equal c := by
  cases a <;> cases b <;> simp only [equal, Bool.false_eq_true] at hab <;>
    cases c <;> simp only [equal, Bool.false_eq_true] at hbc ⊢
  case float.float.float => exact Binary64.equal_trans hab hbc
  case json.json.json => exact Json.equal_trans _ _ _ hab hbc
  all_goals exact beq_iff_eq.2 ((beq_iff_eq.1 hab).trans (beq_iff_eq.1 hbc))

/-- **A value equals itself exactly if it holds no NaN.** -/
theorem equal_self_iff {a : Value} : a.equal a ↔ a.holdsNaN = false := by
  cases a with
  | float x => exact Binary64.equal_self_iff
  | json j => exact Json.equal_self_iff j
  | _ => simp [equal, holdsNaN, Decimal.equal]

/-! ### Values of a type -/

lemma not_admits_json (t : FieldType) (j : Json) : t.admits (.json j) = false := by
  cases t with
  | mk kind nullable => cases kind <;> rfl

/-- No type admits documents, so of what fits a type only NaN itself holds it. -/
lemma holdsNaN_of_admits {t : FieldType} {a : Value} (ha : t.admits a) :
    a.holdsNaN = a.isNaN := by
  cases a with
  | json j =>
    rw [not_admits_json] at ha
    cases ha
  | _ => rfl

lemma isNaN_of_equal {v w : Value} (h : v.equal w) : v.isNaN = false ∧ w.isNaN = false := by
  cases v <;> cases w <;> first
    | exact ⟨rfl, rfl⟩
    | cases h
    | skip
  obtain ⟨hv, hw, -⟩ := Binary64.equal_iff.1 h
  exact ⟨hv, hw⟩

lemma admits_of_equal {v w : Value} (h : v.equal w) (kind : FieldKind) :
    kind.admits v = kind.admits w := by
  cases v <;> cases w <;> first
    | (cases kind <;> rfl)
    | cases h

end Value

end EntityQuery
