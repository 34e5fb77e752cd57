import EntityQuery.Proofs.Calendar.Chronology
import EntityQuery.Proofs.Calendar.Instants
import EntityQuery.Sql.Fragment

/-!
Dates and points in time as SQL sorts them, by the bytes of their texts. Every number in such a text
has a fixed width if the year has four digits and no sign, so the texts compare number by number:
those of dates as the dates, and those of points in time as the points to the microsecond. Main
statement: `bytes_sort_chronologically`.
-/

namespace EntityQuery

/-! ### Dates -/

namespace Date

variable {a b : Date}

lemma HasPlainYear.natAbs_lt (h : a.HasPlainYear) : a.year.natAbs < 10 ^ 4 := by
  obtain ⟨hlow, hhigh⟩ := h
  omega

lemma compare_natAbs_year (ha : a.HasPlainYear) (hb : b.HasPlainYear) :
    compare a.year.natAbs b.year.natAbs = compare a.year b.year := by
  have hle := ha.1
  have hle' := hb.1
  rcases Int.lt_trichotomy a.year b.year with h | h | h
  · rw [compare_lt_iff_lt.2 h, compare_lt_iff_lt.2 (by omega)]
  · rw [h, Std.ReflOrd.compare_self, Std.ReflOrd.compare_self]
  · rw [compare_gt_iff_gt.2 h, compare_gt_iff_gt.2 (by omega)]

lemma compare_bytes_twoDigits {m n : ℕ} (hm : m < 100) (hn : n < 100) (cs ds : List Char) :
    compare (Text.bytes (twoDigits m ++ cs)) (Text.bytes (twoDigits n ++ ds)) =
      (compare m n).then (compare (Text.bytes cs) (Text.bytes ds)) :=
  Text.compare_bytes_padZeros (by decide) hm hn cs ds

lemma length_bytes_twoDigits {n : ℕ} (h : n < 100) (cs : List Char) :
    (Text.bytes (twoDigits n ++ cs)).length = 2 + (Text.bytes cs).length :=
  Text.length_bytes_padZeros (by decide) h cs

lemma compare_bytes_append (ha : a.HasPlainYear) (hb : b.HasPlainYear) (cs ds : List Char) :
    compare (Text.bytes (a.toChars ++ cs)) (Text.bytes (b.toChars ++ ds)) =
      (compare a b).then (compare (Text.bytes cs) (Text.bytes ds)) := by
  obtain ⟨-, -, ⟨-, hmonth⟩, -, hday⟩ := Calendar.bounds_of_isDate a.valid
  obtain ⟨-, -, ⟨-, hmonth'⟩, -, hday'⟩ := Calendar.bounds_of_isDate b.valid
  rw [toChars, toChars, ha.yearChars_eq, hb.yearChars_eq]
  simp only [List.append_assoc, List.cons_append]
  rw [Text.compare_bytes_padZeros (by decide) ha.natAbs_lt hb.natAbs_lt, Text.compare_bytes_cons,
    compare_bytes_twoDigits (by omega) (by omega), Text.compare_bytes_cons,
    compare_bytes_twoDigits (by omega) (by omega), compare_natAbs_year ha hb, compare_eq,
    Ordering.then_assoc, Ordering.then_assoc]

/-- **Dates compare as the bytes of their texts.** -/
theorem compare_bytes_toChars (ha : a.HasPlainYear) (hb : b.HasPlainYear) :
    compare (Text.bytes a.toChars) (Text.bytes b.toChars) = compare a b := by
  have hcompare := compare_bytes_append ha hb [] []
  rwa [List.append_nil, List.append_nil, Std.ReflOrd.compare_self, Ordering.then_eq] at hcompare

lemma length_bytes_append (h : a.HasPlainYear) (cs : List Char) :
    (Text.bytes (a.toChars ++ cs)).length = 10 + (Text.bytes cs).length := by
  obtain ⟨-, -, ⟨-, hmonth⟩, -, hday⟩ := Calendar.bounds_of_isDate a.valid
  rw [toChars, h.yearChars_eq]
  simp only [List.append_assoc, List.cons_append]
  rw [Text.length_bytes_padZeros (by decide) h.natAbs_lt, Text.bytes_cons, List.length_append,
    length_bytes_twoDigits (by omega), Text.bytes_cons, List.length_append,
    length_bytes_twoDigits (by omega)]
  show 4 + (1 + (2 + (1 + (2 + _)))) = _
  omega

end Date

/-! ### Points in time -/

namespace Instant

variable {a b : Instant}

/-- The microseconds of the second as it is written. -/
def shownMicros (t : Instant) : ℕ := t.shownNano / 1000

lemma shownMicros_lt (t : Instant) : t.shownMicros < 10 ^ 6 := by
  have hnano := t.shownNano_lt
  rw [nanosPerSecond] at hnano
  unfold shownMicros
  omega

lemma fractionChars_micros (t : Instant) : fractionChars .micros t.shownNano =
    '.' :: Text.padZeros 6 (Text.decimalDigits t.shownMicros) := rfl

lemma compare_hour_minute (a b : Instant) :
    (compare a.hour b.hour).then (compare a.minute b.minute) =
      compare (a.second / 60) (b.second / 60) := by
  rw [← Text.compare_div_then (show 0 < 60 by decide) (a.second / 60), Nat.div_div_eq_div_mul,
    Nat.div_div_eq_div_mul]
  rfl

/-- Seconds and microseconds as they are written compare as those that are counted, since only the
last second of a minute can be a leap second. -/
lemma compare_shown (a b : Instant) :
    (compare a.shownSecond b.shownSecond).then (compare a.shownMicros b.shownMicros) =
      (compare (a.second % 60) (b.second % 60)).then
        (compare (a.nano / 1000) (b.nano / 1000)) := by
  have hshown (t : Instant) : t.shownSecond * 10 ^ 6 + t.shownMicros =
      t.second % 60 * 10 ^ 6 + t.nano / 1000 := by
    unfold shownSecond shownMicros shownNano
    rw [nanosPerSecond]
    omega
  -- in a minute the microseconds of an earlier second come first
  have hearlier {t u : Instant} (h : t.second % 60 < u.second % 60) :
      t.second % 60 * 10 ^ 6 + t.nano / 1000 < u.second % 60 * 10 ^ 6 + u.nano / 1000 := by
    have hleap := t.leap
    rw [nanosPerSecond] at hleap
    omega
  rw [← Text.compare_mul_add a.shownMicros_lt b.shownMicros_lt, hshown, hshown]
  rcases Nat.lt_trichotomy (a.second % 60) (b.second % 60) with h | h | h
  · rw [compare_lt_iff_lt.2 (hearlier h), compare_lt_iff_lt.2 h]
    rfl
  · rw [h, Std.ReflOrd.compare_self, Ordering.eq_then, Text.compare_add_left]
  · rw [compare_gt_iff_gt.2 (hearlier h), compare_gt_iff_gt.2 h]
    rfl

/-- **Points in time compare to the microsecond as the bytes of their texts.** -/
theorem compare_bytes_toChars (ha : a.date.HasPlainYear) (hb : b.date.HasPlainYear) :
    compare (Text.bytes (a.toChars .micros)) (Text.bytes (b.toChars .micros)) =
      compare a.truncated b.truncated := by
  have hours := a.hour_lt
  have hours' := b.hour_lt
  have minutes := a.minute_lt
  have minutes' := b.minute_lt
  have seconds := a.shownSecond_le
  have seconds' := b.shownSecond_le
  rw [a.toChars_eq, b.toChars_eq, Date.compare_bytes_append ha hb, Text.compare_bytes_cons,
    Date.compare_bytes_twoDigits (by omega) (by omega), Text.compare_bytes_cons,
    Date.compare_bytes_twoDigits (by omega) (by omega), Text.compare_bytes_cons,
    Date.compare_bytes_twoDigits (by omega) (by omega), fractionChars_micros,
    fractionChars_micros, List.cons_append, List.cons_append, Text.compare_bytes_cons,
    Text.compare_bytes_padZeros (by decide) a.shownMicros_lt b.shownMicros_lt,
    Std.ReflOrd.compare_self, Ordering.then_eq, compare_shown,
    ← Ordering.then_assoc (compare a.hour b.hour), compare_hour_minute,
    ← Ordering.then_assoc (compare (a.second / 60) _), Text.compare_div_then (by decide),
    compare_truncated, Ordering.then_assoc]

lemma length_bytes_toChars (h : a.date.HasPlainYear) :
    (Text.bytes (a.toChars .micros)).length = 27 := by
  have hours := a.hour_lt
  have minutes := a.minute_lt
  have seconds := a.shownSecond_le
  rw [a.toChars_eq, Date.length_bytes_append h, Text.bytes_cons, List.length_append,
    Date.length_bytes_twoDigits (by omega), Text.bytes_cons, List.length_append,
    Date.length_bytes_twoDigits (by omega), Text.bytes_cons, List.length_append,
    Date.length_bytes_twoDigits (by omega), fractionChars_micros, List.cons_append,
    Text.bytes_cons, List.length_append,
    Text.length_bytes_padZeros (by decide) a.shownMicros_lt]
  rfl

lemma isLE_bytes_text (ha : a.date.HasPlainYear) (hb : b.date.HasPlainYear)
    (h : (compare a b).isLE) :
    (compare (Text.bytes (a.text .micros).toList) (Text.bytes (b.text .micros).toList)).isLE := by
  rw [text, text, String.toList_ofList, String.toList_ofList, compare_bytes_toChars ha hb]
  exact isLE_truncated h

lemma text_micros_eq_iff (ha : a.date.HasPlainYear) (hb : b.date.HasPlainYear) :
    a.text .micros = b.text .micros ↔ a.truncated = b.truncated := by
  rw [← compare_eq_iff, ← compare_bytes_toChars ha hb, Std.LawfulEqCmp.compare_eq_iff_eq,
    Text.bytes_injective.eq_iff, text, text, String.ofList_inj]

end Instant

/-! ### Parameters -/

namespace Sql.Param

variable {a b : Instant} {c d : Date}

/-- **What SQL is given for dates and points in time sorts by its bytes as these do in time**, for
years of four digits without sign. The texts of points in time have one length, that of an earlier
point does not come after that of a later one, and only points in the same microsecond share a text.
The text of a date comes before that of another one exactly if days lead from the one date to the
other. -/
theorem bytes_sort_chronologically (ha : a.date.HasPlainYear) (hb : b.date.HasPlainYear)
    (hc : c.HasPlainYear) (hd : d.HasPlainYear) :
    (∃ s t, ofValue (.dateTime a) = .string s ∧ ofValue (.dateTime b) = .string t ∧
      (Text.bytes s.toList).length = (Text.bytes t.toList).length ∧
      ((compare a b).isLE → (compare (Text.bytes s.toList) (Text.bytes t.toList)).isLE) ∧
      (s = t ↔ a.truncated = b.truncated)) ∧
    ∃ s t, ofValue (.date c) = .string s ∧ ofValue (.date d) = .string t ∧
      compare (Text.bytes s.toList) (Text.bytes t.toList) = compare c d ∧
      (compare (Text.bytes s.toList) (Text.bytes t.toList) = .lt ↔ c.Precedes d) := by
  have hlength {t : Instant} (h : t.date.HasPlainYear) :
      (Text.bytes (t.text .micros).toList).length = 27 := by
    rw [Instant.text, String.toList_ofList, Instant.length_bytes_toChars h]
  have hdates : compare (Text.bytes c.text.toList) (Text.bytes d.text.toList) = compare c d := by
    rw [Date.text, Date.text, String.toList_ofList, String.toList_ofList,
      Date.compare_bytes_toChars hc hd]
  refine ⟨⟨_, _, rfl, rfl, ?_, Instant.isLE_bytes_text ha hb, Instant.text_micros_eq_iff ha hb⟩,
    _, _, rfl, rfl, hdates, ?_⟩
  · rw [hlength ha, hlength hb]
  · rw [hdates, Date.compare_eq_lt_iff_precedes]

/-- Two points in the leap second before 2017 that are less than a microsecond apart, and the days
around the end of February in a leap year. -/
theorem bytes_sort_leap_second :
    let a : Instant :=
      ⟨⟨2016, 12, 31, by decide⟩, 86399, 1250000001, by decide, by decide, by decide⟩
    let b : Instant :=
      ⟨⟨2016, 12, 31, by decide⟩, 86399, 1250000999, by decide, by decide, by decide⟩
    let c : Date := ⟨2024, 2, 29, by decide⟩
    let d : Date := ⟨2024, 3, 1, by decide⟩
    (a.date.HasPlainYear ∧ b.date.HasPlainYear ∧ c.HasPlainYear ∧ d.HasPlainYear) ∧
      ofValue (.dateTime a) = .string "2016-12-31T23:59:60.250000Z" ∧
      ofValue (.dateTime b) = .string "2016-12-31T23:59:60.250000Z" ∧ c.Precedes d := by
  intro a b c d
  have ha : a.date.HasPlainYear := by decide
  have hb : b.date.HasPlainYear := by decide
  have hc : c.HasPlainYear := by decide
  have hd : d.HasPlainYear := by decide
  have written : ofValue (.dateTime a) = .string "2016-12-31T23:59:60.250000Z" :=
    congrArg string (by decide +kernel)
  obtain ⟨⟨s, t, hs, ht, -, -, heq⟩, s', t', -, -, hcompare, hprecedes⟩ :=
    bytes_sort_chronologically ha hb hc hd
  have same : s = t := heq.2 (by decide)
  have later : compare c d = .lt := by decide
  refine ⟨⟨ha, hb, hc, hd⟩, written, ?_, hprecedes.1 (hcompare.trans later)⟩
  rw [ht, ← same, ← hs, written]

end Sql.Param

end EntityQuery
