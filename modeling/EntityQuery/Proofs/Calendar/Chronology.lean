import EntityQuery.Proofs.Calendar.Dates
import EntityQuery.Proofs.Value.Order
import Mathlib.Logic.Relation

/-!
The order in time. Comparing dates by year, month and day is going through the calendar day by day:
the day after is the next date in the order, so a date comes before another exactly if some number
of next days lead from the one to the other. Points in time stay in order when what is finer than a
microsecond is cut off. Main statements: `compare_eq_lt_iff_precedes` and `isLE_truncated`.
-/

namespace EntityQuery

/-! ### Days -/

namespace Date

variable {a b c : Date}

/-- One day or more lead from a date to another one. -/
def Precedes : Date → Date → Prop := Relation.TransGen fun a b => a.next? = some b

/-- The place of a date among all triples of a year, one of 12 months and one of 31 days. -/
def place (d : Date) : ℤ := (d.year * 12 + d.month) * 31 + d.day

lemma compare_eq_lt_iff : compare a b = .lt ↔ a.place < b.place := by
  obtain ⟨-, -, ⟨hmonth, hmonth'⟩, hday, hday'⟩ := Calendar.bounds_of_isDate a.valid
  obtain ⟨-, -, ⟨hmonthb, hmonthb'⟩, hdayb, hdayb'⟩ := Calendar.bounds_of_isDate b.valid
  rw [compare_eq, Ordering.then_eq_lt, Ordering.then_eq_lt, Ordering.then_eq_eq, compare_lt_iff_lt,
    compare_lt_iff_lt, compare_lt_iff_lt, compare_eq_iff_eq, compare_eq_iff_eq, place, place]
  omega

lemma eq_of_place (h : a.place = b.place) : a = b := by
  obtain ⟨-, -, ⟨hmonth, hmonth'⟩, hday, hday'⟩ := Calendar.bounds_of_isDate a.valid
  obtain ⟨-, -, ⟨hmonthb, hmonthb'⟩, hdayb, hdayb'⟩ := Calendar.bounds_of_isDate b.valid
  unfold place at h
  obtain ⟨y, m, d, ha⟩ := a
  obtain ⟨y', m', d', hb⟩ := b
  simp only at *
  obtain rfl : y = y' := by omega
  obtain rfl : m = m' := by omega
  obtain rfl : d = d' := by omega
  rfl

lemma day_le (d : Date) : d.day ≤ daysInMonth d.year d.month := by
  have hvalid := d.valid
  simp only [isDate, Bool.and_eq_true, decide_eq_true_eq] at hvalid
  exact hvalid.2

lemma make?_eq_some {y : ℤ} {m n : ℕ} (hlow : -262143 ≤ y) (hhigh : y ≤ 262142) (hpos : 1 ≤ n)
    (hle : n ≤ daysInMonth y m) : ∃ d, make? y m n = some d ∧ d.place = (y * 12 + m) * 31 + n := by
  have hvalid : isDate y m n = true := by
    simp only [isDate, Bool.and_eq_true, decide_eq_true_eq]
    exact ⟨⟨⟨hlow, hhigh⟩, hpos⟩, hle⟩
  exact ⟨⟨y, m, n, hvalid⟩, dif_pos hvalid, rfl⟩

lemma place_of_make? {y : ℤ} {m n : ℕ} {d : Date} (h : make? y m n = some d) :
    d.place = (y * 12 + m) * 31 + n := by
  unfold make? at h
  split at h
  · cases h
    rfl
  · cases h

lemma daysInMonth_pos (y : ℤ) {m : ℕ} (hlow : 1 ≤ m) (hhigh : m ≤ 12) : 1 ≤ daysInMonth y m := by
  unfold daysInMonth
  grind

lemma place_lt_of_next? (h : a.next? = some b) : a.place < b.place := by
  obtain ⟨-, -, ⟨hmonth, hmonth'⟩, hday, hday'⟩ := Calendar.bounds_of_isDate a.valid
  unfold next? at h
  split_ifs at h <;> rw [place, place_of_make? h] <;> omega

lemma months_lt_of_place_lt (hend : ¬ a.day < daysInMonth a.year a.month)
    (h : a.place < b.place) : a.year * 12 + a.month < b.year * 12 + b.month := by
  obtain ⟨-, -, ⟨hmonth, hmonth'⟩, hday, hday'⟩ := Calendar.bounds_of_isDate a.valid
  obtain ⟨-, -, ⟨hmonthb, hmonthb'⟩, hdayb, hdayb'⟩ := Calendar.bounds_of_isDate b.valid
  refine Int.not_le.1 fun hle => ?_
  have hdays := b.day_le
  unfold place at h
  have hyear : b.year = a.year := by omega
  have hsame : b.month = a.month := by omega
  rw [hyear, hsame] at hdays
  rw [hyear, hsame] at h
  omega

/-- A date that is not the last one has a day after, and there is no date between. -/
lemma exists_next?_of_lt (h : a.place < b.place) : ∃ c, a.next? = some c ∧ c.place ≤ b.place := by
  obtain ⟨hlow, hhigh, ⟨hmonth, hmonth'⟩, hday, hday'⟩ := Calendar.bounds_of_isDate a.valid
  obtain ⟨-, hhighb, ⟨hmonthb, hmonthb'⟩, hdayb, hdayb'⟩ := Calendar.bounds_of_isDate b.valid
  unfold next?
  split_ifs with hwithin hlast
  · obtain ⟨c, hc, hplace⟩ := make?_eq_some hlow hhigh (Nat.succ_pos _) hwithin
    refine ⟨c, hc, ?_⟩
    unfold place at h hplace ⊢
    omega
  · obtain ⟨c, hc, hplace⟩ := make?_eq_some hlow hhigh (Nat.le_refl 1)
      (daysInMonth_pos a.year (Nat.le_add_left 1 a.month) hlast)
    have hmonths := months_lt_of_place_lt hwithin h
    refine ⟨c, hc, ?_⟩
    rw [hplace, place]
    omega
  · have hmonths := months_lt_of_place_lt hwithin h
    obtain ⟨c, hc, hplace⟩ := make?_eq_some (y := a.year + 1) (by omega) (by omega) (Nat.le_refl 1)
      (daysInMonth_pos (a.year + 1) (Nat.le_refl 1) (by decide))
    refine ⟨c, hc, ?_⟩
    rw [hplace, place]
    omega

/-- **A date comes before another one exactly if days lead from it to the other**, whatever the
lengths of the months and years between them. -/
theorem compare_eq_lt_iff_precedes : compare a b = .lt ↔ a.Precedes b := by
  rw [compare_eq_lt_iff]
  constructor
  · intro h
    -- by induction on the distance: each day after comes nearer to `b`
    obtain ⟨n, hn⟩ : ∃ n : ℕ, b.place - a.place ≤ n := ⟨(b.place - a.place).toNat, by omega⟩
    induction n generalizing a with
    | zero => omega
    | succ n ih =>
      obtain ⟨c, hnext, hle⟩ := exists_next?_of_lt h
      have hlater := place_lt_of_next? hnext
      rcases Int.lt_or_eq_of_le hle with hlt | heq
      · exact .head hnext (ih hlt (by omega))
      · rw [eq_of_place heq] at hnext
        exact .single hnext
  · intro h
    induction h with
    | single hnext => exact place_lt_of_next? hnext
    | tail _ hnext ih => exact ih.trans (place_lt_of_next? hnext)

end Date

/-! ### Microseconds -/

namespace Instant

/-- The point in time with what is finer than a microsecond cut off. A leap second stays one. -/
def truncated (t : Instant) : Instant where
  date := t.date
  second := t.second
  nano := t.nano / 1000 * 1000
  second_lt := t.second_lt
  nano_lt := (Nat.div_mul_le_self _ _).trans_lt t.nano_lt
  leap h := t.leap (h.trans (Nat.div_mul_le_self _ _))

lemma compare_truncated (a b : Instant) : compare a.truncated b.truncated =
    ((compare a.date b.date).then (compare a.second b.second)).then
      (compare (a.nano / 1000) (b.nano / 1000)) := by
  have hmicros : compare (a.nano / 1000 * 1000) (b.nano / 1000 * 1000) =
      compare (a.nano / 1000) (b.nano / 1000) := by
    rw [← Nat.add_zero (a.nano / 1000 * 1000), ← Nat.add_zero (b.nano / 1000 * 1000),
      Text.compare_mul_add (by decide) (by decide), Std.ReflOrd.compare_self, Ordering.then_eq]
  rw [compare_eq, truncated, truncated, hmicros]

/-- **Truncated points in time are in the same order**, but some become equal. -/
theorem isLE_truncated {a b : Instant} (h : (compare a b).isLE) :
    (compare a.truncated b.truncated).isLE := by
  rw [compare_truncated, Ordering.isLE_then_iff_and]
  rw [compare_eq, Ordering.isLE_then_iff_and] at h
  obtain ⟨hseconds, hnanos⟩ := h
  refine ⟨hseconds, hnanos.imp_right fun hle => ?_⟩
  rw [Nat.isLE_compare] at hle ⊢
  exact Nat.div_le_div_right hle

end Instant

end EntityQuery
