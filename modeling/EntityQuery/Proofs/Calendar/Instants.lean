import EntityQuery.Proofs.Calendar.Dates

/-!
Points in time and their texts. The text of a point in time is read in the strict layout, which
gives the point back, if its year has four digits. A year with a sign is not read there, and the
other layouts have no place for the `Z` at the end. Main statement: `readInstant_toChars`.
-/

namespace EntityQuery

namespace Date

/-- The year is one of those that are written in four digits and without a sign. -/
def HasPlainYear (d : Date) : Prop := 0 ≤ d.year ∧ d.year ≤ 9999

instance (d : Date) : Decidable d.HasPlainYear :=
  inferInstanceAs (Decidable (0 ≤ d.year ∧ d.year ≤ 9999))

lemma HasPlainYear.yearChars_eq {d : Date} (h : d.HasPlainYear) :
    yearChars d.year = Text.padZeros 4 (Text.decimalDigits d.year.natAbs) := by
  obtain ⟨hlow, hhigh⟩ := h
  rw [Calendar.yearChars_eq, if_neg (by omega), if_neg (by omega), Calendar.yearDigits]

lemma exists_sign_of_not_hasPlainYear {d : Date} (h : ¬ d.HasPlainYear) :
    ∃ sign digits, yearChars d.year = sign :: digits ∧ Text.digit? sign = none := by
  rw [Calendar.yearChars_eq]
  split_ifs with hnegative hlarge
  · exact ⟨_, _, rfl, rfl⟩
  · exact ⟨_, _, rfl, rfl⟩
  · exact absurd ⟨by omega, by omega⟩ h

end Date

namespace Calendar

open Instant (FractionStyle fractionChars)

/-! ### Numbers of fixed width -/

lemma number_padZeros {width n : ℕ} (hpos : 0 < width) (h : n < 10 ^ width) (rest : List Char) :
    number width width (Text.padZeros width (Text.decimalDigits n) ++ rest) = .ok (n, rest) := by
  obtain ⟨hnumeral, hvalue⟩ := Text.of_padZeros (Text.isNumeral_decimalDigits n) width
  have hlength := Text.length_padZeros_of_lt hpos h
  rw [number_numeral hnumeral (by omega) (by omega) (.inl hlength), hvalue,
    Text.numeral_decimalDigits]

lemma number_two {n : ℕ} (h : n < 100) (rest : List Char) :
    number 2 2 (Date.twoDigits n ++ rest) = .ok (n, rest) :=
  number_padZeros (by decide) h rest

lemma number_eq_error {min : ℕ} (max : ℕ) (hmin : 0 < min) {c : Char} (hc : Text.digit? c = none)
    (rest : List Char) : ∃ problem, number min max (c :: rest) = .error problem := by
  have hdigits : (digitsUpTo max (c :: rest)).1 = [] := by
    cases max with
    | zero => rfl
    | succ max => simp [digitsUpTo, hc]
  unfold number
  split
  · exact ⟨_, rfl⟩
  · simp only [hdigits, List.length_nil, if_pos hmin]
    exact ⟨_, rfl⟩

/-! ### Fractions -/

/-- A point and no more than nine digits are read as nanoseconds. -/
lemma fraction_padZeros {width m : ℕ} (hpos : 0 < width) (hwidth : width ≤ 9)
    (h : m < 10 ^ width) {rest : List Char} (hstop : StopsDigits rest) :
    fraction ('.' :: Text.padZeros width (Text.decimalDigits m) ++ rest) =
      .ok (m * 10 ^ (9 - width), rest) := by
  obtain ⟨hnumeral, hvalue⟩ := Text.of_padZeros (Text.isNumeral_decimalDigits m) width
  have hlength := Text.length_padZeros_of_lt hpos h
  have hcount := Text.length_filterMap_digit? hnumeral
  rw [List.cons_append, fraction, if_neg (by simp [← List.length_eq_zero_iff]; omega),
    digitsUpTo_numeral hnumeral (by omega) (.inr hstop)]
  simp only
  rw [if_neg (by rw [← List.length_eq_zero_iff]; omega), hcount, hlength,
    Text.takeDigits_of_not_digit hstop]
  rw [Text.numeral, Text.numeral_decimalDigits] at hvalue
  rw [hvalue]
  rfl

lemma fraction_shortest {n : ℕ} (h : n < nanosPerSecond) {rest : List Char}
    (hstop : StopsDigits rest) (hpoint : rest.head? ≠ some '.') :
    fraction (fractionChars .shortest n ++ rest) = .ok (n, rest) := by
  rw [nanosPerSecond] at h
  unfold fractionChars
  simp only
  split_ifs with hzero hmillis hmicros
  · rw [List.nil_append, hzero]
    unfold fraction
    split
    · simp at hpoint
    · rfl
  · rw [fraction_padZeros (by decide) (by decide) (by omega) hstop]
    congr 2
    omega
  · rw [fraction_padZeros (by decide) (by decide) (by omega) hstop]
    congr 2
    omega
  · rw [fraction_padZeros (by decide) (by decide) h hstop]
    congr 2
    omega

end Calendar

/-! ### The time of day -/

namespace Instant

variable (t : Instant)

/-- The hour of the day. -/
def hour : ℕ := t.second / 3600

/-- The minute of the hour. -/
def minute : ℕ := t.second / 60 % 60

/-- The second as it is written, which is 60 in a leap second. -/
def shownSecond : ℕ := t.second % 60 + t.nano / nanosPerSecond

/-- The nanosecond of the second as it is written. -/
def shownNano : ℕ := t.nano % nanosPerSecond

lemma hour_lt : t.hour < 24 := by
  have := t.second_lt
  unfold hour
  omega

lemma minute_lt : t.minute < 60 := Nat.mod_lt _ (by decide)

lemma shownSecond_le : t.shownSecond ≤ 60 := by
  have := t.nano_lt
  unfold shownSecond
  rw [nanosPerSecond] at *
  omega

lemma shownNano_lt : t.shownNano < nanosPerSecond := Nat.mod_lt _ (by decide)

lemma toChars_eq (style : FractionStyle) :
    t.toChars style = t.date.toChars ++ 'T' :: (Date.twoDigits t.hour ++
      ':' :: (Date.twoDigits t.minute ++ ':' :: (Date.twoDigits t.shownSecond ++
        (fractionChars style t.shownNano ++ ['Z'])))) := by
  simp only [toChars, hour, minute, shownSecond, shownNano, List.append_assoc, List.cons_append]

lemma make?_eq : make? t.date t.second t.nano = some t :=
  dif_pos ⟨t.second_lt, t.nano_lt, t.leap⟩

/-- A point in time is the one that is shown: the second 60 is the leap second of the minute. -/
lemma instantOf_shown :
    Calendar.instantOf t.date t.hour t.minute t.shownSecond t.shownNano = .ok t := by
  have hleap := t.leap
  have hnano := t.nano_lt
  have hsum : t.hour * 3600 + t.minute * 60 + t.second % 60 = t.second := by
    unfold hour minute
    omega
  unfold Calendar.instantOf shownSecond shownNano
  rw [nanosPerSecond] at *
  by_cases h : t.nano < 1000000000
  · rw [Nat.div_eq_of_lt h, Nat.mod_eq_of_lt h, if_neg (by omega)]
    simp only [Nat.add_zero, hsum, make?_eq]
  · have hsecond := hleap (by omega)
    have hsum : t.hour * 3600 + t.minute * 60 + 59 = t.second := by omega
    have hrest : t.nano % 1000000000 + 1000000000 = t.nano := by omega
    rw [if_pos (by omega)]
    simp only [hsum, hrest, make?_eq]

end Instant

/-! ### Layouts -/

namespace Calendar

variable {t : Instant}

lemma stopsDigits_zulu : StopsDigits ['Z'] := by
  intro c hc
  cases hc
  rfl

lemma fraction_zulu (t : Instant) :
    fraction (Instant.fractionChars .shortest t.shownNano ++ ['Z']) = .ok (t.shownNano, ['Z']) :=
  fraction_shortest t.shownNano_lt stopsDigits_zulu (by decide)

lemma atOffset_zero (t : Instant) : atOffset t 0 = .ok t := by
  have hlow : ¬ (t.second : ℤ) - 60 * 0 < 0 := by omega
  have hhigh : (t.second : ℤ) - 60 * 0 < 86400 := by
    have := t.second_lt
    omega
  have hsecond : (((t.second : ℤ) - 60 * 0) % 86400).toNat = t.second := by omega
  have hbehind : t.behind? 0 = some t := by
    simp only [Instant.behind?, if_neg hlow, if_pos hhigh, Option.bind_some, hsecond, t.make?_eq]
  rw [atOffset, hbehind]
  rfl

/-- **The text of a point in time is read strictly** if the year is a plain one. -/
theorem readStrict_toChars (h : t.date.HasPlainYear) :
    readStrict (t.toChars .shortest) = .ok t := by
  obtain ⟨-, -, ⟨hmonth, hmonth'⟩, hday, hday'⟩ := bounds_of_isDate t.date.valid
  have hyear : t.date.year.natAbs < 10 ^ 4 := by
    obtain ⟨hlow, hhigh⟩ := h
    omega
  have hcast : (t.date.year.natAbs : ℤ) = t.date.year := Int.natAbs_of_nonneg h.1
  have hhour := t.hour_lt
  have hminute := t.minute_lt
  have hsecond := t.shownSecond_le
  rw [t.toChars_eq, Date.toChars, h.yearChars_eq]
  simp only [List.append_assoc, List.cons_append]
  refine Result.bind_eq_ok_iff.2 ⟨_, number_padZeros (by decide) hyear _, ?_⟩
  refine Result.bind_eq_ok_iff.2 ⟨((), _), rfl, ?_⟩
  refine Result.bind_eq_ok_iff.2 ⟨_, bounded_eq (number_two (by omega) _) hmonth hmonth', ?_⟩
  refine Result.bind_eq_ok_iff.2 ⟨((), _), rfl, ?_⟩
  refine Result.bind_eq_ok_iff.2 ⟨_, bounded_eq (number_two (by omega) _) hday hday', ?_⟩
  refine Result.bind_eq_ok_iff.2 ⟨((), _), rfl, ?_⟩
  refine Result.bind_eq_ok_iff.2
    ⟨_, bounded_eq (number_two (by omega) _) (Nat.zero_le _) (by omega), ?_⟩
  refine Result.bind_eq_ok_iff.2 ⟨((), _), rfl, ?_⟩
  refine Result.bind_eq_ok_iff.2
    ⟨_, bounded_eq (number_two (by omega) _) (Nat.zero_le _) (by omega), ?_⟩
  refine Result.bind_eq_ok_iff.2 ⟨((), _), rfl, ?_⟩
  refine Result.bind_eq_ok_iff.2
    ⟨_, bounded_eq (number_two (by omega) _) (Nat.zero_le _) hsecond, ?_⟩
  refine Result.bind_eq_ok_iff.2 ⟨_, fraction_zulu t, ?_⟩
  refine Result.bind_eq_ok_iff.2 ⟨(0, []), rfl, ?_⟩
  refine Result.bind_eq_ok_iff.2 ⟨(), rfl, ?_⟩
  rw [hcast]
  refine Result.bind_eq_ok_iff.2 ⟨_, dateOf_eq t.date, ?_⟩
  exact Result.bind_eq_ok_iff.2 ⟨_, t.instantOf_shown, atOffset_zero t⟩

lemma fails_readStrict (h : ¬ t.date.HasPlainYear) :
    Result.Fails (readStrict (t.toChars .shortest)) := by
  obtain ⟨sign, digits, hyear, hsign⟩ := Date.exists_sign_of_not_hasPlainYear h
  rw [t.toChars_eq, Date.toChars, hyear]
  obtain ⟨problem, hproblem⟩ := number_eq_error 4 (show 0 < 4 by decide) hsign _
  exact ⟨problem, Result.bind_eq_error_iff.2 (.inl hproblem)⟩

/-- The layout of a date has no place for a time of day. -/
lemma fails_readDate (t : Instant) : Result.Fails (readDate (t.toChars .shortest)) := by
  rw [t.toChars_eq]
  exact ⟨.tooLong, Result.bind_eq_error_iff.2
    (.inr ⟨_, dateNumbers_toChars _ _, Result.bind_eq_error_iff.2 (.inl rfl)⟩)⟩

/-- The layouts without offset have no place for the `Z`, or none for the `T`. -/
lemma fails_readLocal (spaced fractional : Bool) (t : Instant) :
    Result.Fails (readLocal spaced fractional (t.toChars .shortest)) := by
  have hhour := t.hour_lt
  have hminute := t.minute_lt
  have hsecond := t.shownSecond_le
  rw [t.toChars_eq]
  cases spaced with
  | true =>
    obtain ⟨problem, hproblem⟩ := number_eq_error 2 (show 0 < 1 by decide)
      (show Text.digit? 'T' = none from rfl) _
    refine ⟨problem, Result.bind_eq_error_iff.2 (.inr ⟨_, dateNumbers_toChars _ _, ?_⟩)⟩
    refine Result.bind_eq_error_iff.2 (.inr ⟨_, rfl, ?_⟩)
    exact Result.bind_eq_error_iff.2 (.inl (Result.bind_eq_error_iff.2 (.inl hproblem)))
  | false =>
    refine ⟨.tooLong, Result.bind_eq_error_iff.2 (.inr ⟨_, dateNumbers_toChars _ _, ?_⟩)⟩
    refine Result.bind_eq_error_iff.2 (.inr ⟨_, rfl, ?_⟩)
    refine Result.bind_eq_error_iff.2 (.inr
      ⟨_, bounded_eq (number_twoDigits (by omega) _) (Nat.zero_le _) (by omega), ?_⟩)
    refine Result.bind_eq_error_iff.2 (.inr ⟨((), _), rfl, ?_⟩)
    refine Result.bind_eq_error_iff.2 (.inr
      ⟨_, bounded_eq (number_twoDigits (by omega) _) (Nat.zero_le _) (by omega), ?_⟩)
    refine Result.bind_eq_error_iff.2 (.inr ⟨((), _), rfl, ?_⟩)
    refine Result.bind_eq_error_iff.2 (.inr
      ⟨_, bounded_eq (number_twoDigits (by omega) _) (Nat.zero_le _) hsecond, ?_⟩)
    -- something is left in any case: `Z`, and in front of it the fraction if it was not read
    cases fractional with
    | true =>
      exact Result.bind_eq_error_iff.2 (.inr
        ⟨_, fraction_zulu t, Result.bind_eq_error_iff.2 (.inl rfl)⟩)
    | false =>
      obtain ⟨c, rest, hrest⟩ := List.exists_cons_of_ne_nil
        (List.append_ne_nil_of_right_ne_nil (Instant.fractionChars .shortest t.shownNano)
          (List.cons_ne_nil 'Z' []))
      rw [hrest]
      exact Result.bind_eq_error_iff.2 (.inr
        ⟨_, rfl, Result.bind_eq_error_iff.2 (.inl rfl)⟩)

/-- **The text of a point in time is read**, as this point, if the year is a plain one, and not at
all otherwise. -/
theorem readInstant_toChars (t : Instant) :
    readInstant (t.toChars .shortest) = if t.date.HasPlainYear then some t else none := by
  split
  · rename_i h
    rw [readInstant, readStrict_toChars h]
    rfl
  · rename_i h
    have hnone {α : Type} {x : Except Problem α} (hx : Result.Fails x) : x.toOption = none := by
      obtain ⟨problem, rfl⟩ := hx
      rfl
    rw [readInstant, hnone (fails_readStrict h), hnone (fails_readDate t)]
    simp only [hnone (fails_readLocal _ _ t)]
    rfl

end Calendar

/-! ### Blanks -/

namespace Instant

lemma hasNoBlank_fractionChars (style : FractionStyle) (n : ℕ) :
    Text.HasNoBlank (fractionChars style n) := by
  have hpoint (width m : ℕ) :
      Text.HasNoBlank ('.' :: Text.padZeros width (Text.decimalDigits m)) :=
    List.forall_mem_cons.2 ⟨rfl, Text.hasNoBlank_padZeros width m⟩
  cases style with
  | micros => exact hpoint 6 _
  | shortest =>
    unfold fractionChars
    simp only
    split_ifs
    · exact fun c hc => absurd hc List.not_mem_nil
    · exact hpoint 3 _
    · exact hpoint 6 _
    · exact hpoint 9 _

lemma hasNoBlank_toChars (style : FractionStyle) (t : Instant) :
    Text.HasNoBlank (t.toChars style) := by
  intro c hc
  rw [t.toChars_eq] at hc
  simp only [List.mem_append, List.mem_cons, List.not_mem_nil, or_false] at hc
  rcases hc with hc | rfl | hc | rfl | hc | rfl | hc | hc | rfl
  · exact Calendar.hasNoBlank_toChars t.date c hc
  · rfl
  · exact Text.hasNoBlank_padZeros 2 _ c hc
  · rfl
  · exact Text.hasNoBlank_padZeros 2 _ c hc
  · rfl
  · exact Text.hasNoBlank_padZeros 2 _ c hc
  · exact hasNoBlank_fractionChars style _ c hc
  · rfl

end Instant

end EntityQuery
