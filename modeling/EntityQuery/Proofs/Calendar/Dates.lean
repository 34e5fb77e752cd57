import EntityQuery.Calendar.Reading
import EntityQuery.Proofs.Results
import EntityQuery.Proofs.Text.Blanks

/-!
Dates and their texts. A reader takes off the start of a text what is written there and leaves the
rest, so the text of a date is read number by number, whatever follows it. Main statements:
`dateNumbers_toChars` and `readDate_toChars`.
-/

namespace EntityQuery

namespace Text

lemma length_le_byteCount (cs : List Char) : cs.length ≤ byteCount cs := by
  have hfold (n : ℕ) : n + cs.length ≤ cs.foldl (fun n c => n + c.utf8Size) n := by
    induction cs generalizing n with
    | nil => exact Nat.le_refl _
    | cons c cs ih =>
      have hstep := ih (n + c.utf8Size)
      have hpos := c.utf8Size_pos
      rw [List.length_cons, List.foldl_cons]
      omega
  simpa [byteCount] using hfold 0

end Text

namespace Calendar

/-! ### Numbers -/

/-- The text goes on with something that is not a digit, or ends. -/
def StopsDigits (rest : List Char) : Prop := ∀ c ∈ rest.head?, Text.digit? c = none

lemma digitsUpTo_numeral {cs rest : List Char} (hcs : Text.IsNumeral cs) {max : ℕ}
    (hmax : cs.length ≤ max) (hstop : cs.length = max ∨ StopsDigits rest) :
    digitsUpTo max (cs ++ rest) = (cs.filterMap Text.digit?, rest) := by
  induction cs generalizing max with
  | nil =>
    cases max with
    | zero => rfl
    | succ max =>
      cases rest with
      | nil => rfl
      | cons c rest =>
        have hc : Text.digit? c = none := (hstop.resolve_left (by simp)) c rfl
        simp [digitsUpTo, hc]
  | cons c cs ih =>
    obtain ⟨d, hd, hrest⟩ := Text.exists_digit_of_cons hcs
    cases max with
    | zero => simp at hmax
    | succ max =>
      rw [List.length_cons] at hmax hstop
      rw [List.cons_append, digitsUpTo, hd]
      simp only
      rw [ih hrest (by omega) (hstop.imp_left Nat.succ.inj), List.filterMap_cons_some hd]

lemma number_numeral {cs rest : List Char} (hcs : Text.IsNumeral cs) {min max : ℕ}
    (hmin : min ≤ cs.length) (hmax : cs.length ≤ max)
    (hstop : cs.length = max ∨ StopsDigits rest) :
    number min max (cs ++ rest) = .ok (Text.numeral cs, rest) := by
  have hbytes := Text.length_le_byteCount (cs ++ rest)
  rw [List.length_append] at hbytes
  rw [number, if_neg (by omega), digitsUpTo_numeral hcs hmax hstop]
  simp only
  rw [Text.length_filterMap_digit? hcs, if_neg (by omega)]
  rfl

lemma bounded_eq {low high n : ℕ} {read : Reader ℕ} {s rest : List Char}
    (h : read s = .ok (n, rest)) (hlow : low ≤ n) (hhigh : n ≤ high) :
    bounded low high read s = .ok (n, rest) := by
  rw [bounded, h]
  exact if_pos ⟨hlow, hhigh⟩

lemma number_twoDigits {n : ℕ} (h : n < 100) (rest : List Char) :
    afterBlanks (number 1 2) (Date.twoDigits n ++ rest) = .ok (n, rest) := by
  rw [Date.twoDigits]
  obtain ⟨hnumeral, hvalue⟩ := Text.of_padZeros (Text.isNumeral_decimalDigits n) 2
  have hlength : (Text.padZeros 2 (Text.decimalDigits n)).length = 2 :=
    Text.length_padZeros_of_lt (by decide) h
  rw [afterBlanks, Text.trimStart_append (Text.hasNoBlank_of_isNumeral hnumeral)
      (List.ne_nil_of_length_pos (by omega)),
    number_numeral hnumeral (by omega) (by omega) (.inl hlength), hvalue,
    Text.numeral_decimalDigits]

/-! ### Years -/

/-- The digits of a year. -/
def yearDigits (y : ℤ) : List Char := Text.padZeros 4 (Text.decimalDigits y.natAbs)

lemma isNumeral_yearDigits (y : ℤ) : Text.IsNumeral (yearDigits y) :=
  (Text.of_padZeros (Text.isNumeral_decimalDigits _) 4).1

lemma numeral_yearDigits (y : ℤ) : Text.numeral (yearDigits y) = y.natAbs := by
  rw [yearDigits, (Text.of_padZeros (Text.isNumeral_decimalDigits _) 4).2,
    Text.numeral_decimalDigits]

lemma le_length_yearDigits (y : ℤ) : 4 ≤ (yearDigits y).length := by
  rw [yearDigits, Text.length_padZeros]
  exact Nat.le_max_left _ _

lemma yearChars_eq (y : ℤ) :
    Date.yearChars y =
      if y < 0 then '-' :: yearDigits y else if 9999 < y then '+' :: yearDigits y
      else yearDigits y := rfl

lemma hasNoBlank_yearChars (y : ℤ) : Text.HasNoBlank (Date.yearChars y) := by
  have hdigits := Text.hasNoBlank_of_isNumeral (isNumeral_yearDigits y)
  rw [yearChars_eq]
  split_ifs
  · exact List.forall_mem_cons.2 ⟨rfl, hdigits⟩
  · exact List.forall_mem_cons.2 ⟨rfl, hdigits⟩
  · exact hdigits

lemma year_yearChars {y : ℤ} (hlow : -0x80000000 ≤ y) (hhigh : y < 0x80000000) {rest : List Char}
    (hstop : StopsDigits rest) : year (Date.yearChars y ++ rest) = .ok (y, rest) := by
  have hnumeral := isNumeral_yearDigits y
  have hlength := le_length_yearDigits y
  have hsigned : number 1 (yearDigits y ++ rest).length.succ (yearDigits y ++ rest) =
      .ok (Text.numeral (yearDigits y), rest) :=
    number_numeral hnumeral (by omega) (by rw [List.length_append]; omega) (.inr hstop)
  rw [numeral_yearDigits] at hsigned
  rw [yearChars_eq]
  -- behind a sign any number of digits is read, without one no more than four
  split_ifs with hnegative hlarge
  · simp only [List.cons_append, year, hsigned, bind, Except.bind, if_true]
    rw [if_pos (by omega), show -(y.natAbs : ℤ) = y by omega]
  · simp only [List.cons_append, year, hsigned, bind, Except.bind, Bool.false_eq_true, if_false]
    rw [if_pos (by omega), show (y.natAbs : ℤ) = y by omega]
  · obtain ⟨c, cs, hcs⟩ := List.exists_cons_of_length_pos (show 0 < (yearDigits y).length by omega)
    obtain ⟨hminus, hplus⟩ := Text.ne_sign_of_digit? (hnumeral c (hcs ▸ List.mem_cons_self))
    have hplain : (yearDigits y).length = 4 := Text.length_padZeros_of_lt (by decide) (by omega)
    have hunsigned : number 1 4 (yearDigits y ++ rest) =
        .ok (Text.numeral (yearDigits y), rest) :=
      number_numeral hnumeral (by omega) (by omega) (.inl hplain)
    rw [numeral_yearDigits, hcs, List.cons_append] at hunsigned
    rw [hcs, List.cons_append, year, hunsigned]
    · show Except.ok ((y.natAbs : ℤ), rest) = _
      rw [show (y.natAbs : ℤ) = y by omega]
    · exact fun digits h => hminus (List.cons.inj h).1
    · exact fun digits h => hplus (List.cons.inj h).1

lemma yearChars_ne_nil (y : ℤ) : Date.yearChars y ≠ [] := by
  have hlength := le_length_yearDigits y
  rw [yearChars_eq]
  split_ifs
  · exact List.cons_ne_nil _ _
  · exact List.cons_ne_nil _ _
  · exact List.ne_nil_of_length_pos (by omega)

/-! ### Dates -/

lemma daysInMonth_le (y : ℤ) (m : ℕ) : daysInMonth y m ≤ 31 := by
  unfold daysInMonth
  split <;> try decide
  split <;> decide

lemma month_of_daysInMonth {y : ℤ} {m : ℕ} (h : 1 ≤ daysInMonth y m) : 1 ≤ m ∧ m ≤ 12 := by
  unfold daysInMonth at h
  split at h <;> omega

lemma bounds_of_isDate {y : ℤ} {m n : ℕ} (h : isDate y m n = true) :
    -262143 ≤ y ∧ y ≤ 262142 ∧ (1 ≤ m ∧ m ≤ 12) ∧ 1 ≤ n ∧ n ≤ 31 := by
  simp only [isDate, Bool.and_eq_true, decide_eq_true_eq] at h
  obtain ⟨⟨⟨hlow, hhigh⟩, hpos⟩, hle⟩ := h
  exact ⟨hlow, hhigh, month_of_daysInMonth (hpos.trans hle), hpos, hle.trans (daysInMonth_le _ _)⟩

/-- **The numbers of a date are read from its text, whatever follows.** -/
theorem dateNumbers_toChars (d : Date) (rest : List Char) :
    dateNumbers (d.toChars ++ rest) = .ok ((d.year, d.month, d.day), rest) := by
  obtain ⟨hlow, hhigh, ⟨hmonth, hmonth'⟩, hday, hday'⟩ := bounds_of_isDate d.valid
  have hyear (cs : List Char) :
      afterBlanks year (Date.yearChars d.year ++ '-' :: cs) = .ok (d.year, '-' :: cs) := by
    rw [afterBlanks, Text.trimStart_append (hasNoBlank_yearChars _) (yearChars_ne_nil _)]
    refine year_yearChars (by omega) (by omega) fun c hc => ?_
    cases hc
    rfl
  rw [Date.toChars, List.append_assoc, List.cons_append, List.append_assoc, List.cons_append]
  refine Result.bind_eq_ok_iff.2 ⟨_, hyear _, ?_⟩
  refine Result.bind_eq_ok_iff.2 ⟨((), _), rfl, ?_⟩
  refine Result.bind_eq_ok_iff.2
    ⟨_, bounded_eq (number_twoDigits (by omega) _) hmonth hmonth', ?_⟩
  refine Result.bind_eq_ok_iff.2 ⟨((), _), rfl, ?_⟩
  exact Result.bind_eq_ok_iff.2
    ⟨_, bounded_eq (number_twoDigits (by omega) _) hday hday', rfl⟩

lemma dateOf_eq (d : Date) : dateOf d.year d.month d.day = .ok d := by
  rw [dateOf, Date.make?, dif_pos d.valid]

/-- **The text of a date is read as this date.** -/
theorem readDate_toChars (d : Date) : readDate d.toChars = .ok d := by
  have hnumbers := dateNumbers_toChars d []
  rw [List.append_nil] at hnumbers
  rw [readDate, hnumbers]
  exact dateOf_eq d

lemma hasNoBlank_toChars (d : Date) : Text.HasNoBlank d.toChars := by
  intro c hc
  simp only [Date.toChars, List.mem_append, List.mem_cons] at hc
  rcases hc with (hc | rfl | hc) | rfl | hc
  · exact hasNoBlank_yearChars _ c hc
  · rfl
  · exact Text.hasNoBlank_padZeros 2 _ c hc
  · rfl
  · exact Text.hasNoBlank_padZeros 2 _ c hc

end Calendar

end EntityQuery
