import EntityQuery.Number.Decimal
import EntityQuery.Proofs.Results
import EntityQuery.Proofs.Text.Blanks

/-!
Decimals and their texts. The written form is a sign, the digits in front of the point and, if there
are any, a point and the digits behind it. It is read as the decimal it is written for, but zero has
no sign then. Main statement: `read_toChars`.
-/

namespace EntityQuery.Decimal

variable (d : Decimal)

/-! ### The written form -/

/-- The digits of the written form. -/
def digits : List Char := Text.padZeros (d.scale + 1) (Text.decimalDigits d.magnitude)

/-- The number of digits in front of the point. -/
def places : ℕ := d.digits.length - d.scale

/-- The absolute value in units of `10 ^ -28`. -/
def size : ℕ := d.magnitude * 10 ^ (28 - d.scale)

/-- Digits behind the point, and the point if there are any. -/
def behind : List Char → List Char
  | [] => []
  | c :: cs => '.' :: c :: cs

/-- The written form without sign. -/
def body : List Char := d.digits.take d.places ++ behind (d.digits.drop d.places)

lemma units_eq : d.units = if d.negative then -(d.size : ℤ) else d.size := by
  rw [units, coefficient, size]
  split <;> simp

lemma isNumeral_digits : Text.IsNumeral d.digits :=
  (Text.of_padZeros (Text.isNumeral_decimalDigits _) _).1

lemma numeral_digits : Text.numeral d.digits = d.magnitude := by
  rw [digits, (Text.of_padZeros (Text.isNumeral_decimalDigits _) _).2, Text.numeral_decimalDigits]

lemma scale_lt_length : d.scale < d.digits.length := by
  rw [digits, Text.padZeros, List.length_append, List.length_replicate]
  omega

lemma places_pos : 0 < d.places := Nat.sub_pos_of_lt d.scale_lt_length

lemma length_digits : d.digits.length = d.places + d.scale :=
  (Nat.sub_add_cancel (Nat.le_of_lt d.scale_lt_length)).symm

lemma toChars_eq : d.toChars = if d.negative then '-' :: d.body else d.body := by
  have hbody : (if d.scale = 0 then d.digits
      else d.digits.take d.places ++ '.' :: d.digits.drop d.places) = d.body := by
    have hlength := d.length_digits
    rw [body]
    split
    · rw [List.drop_of_length_le (by omega), List.take_of_length_le (by omega)]
      exact (List.append_nil _).symm
    · cases hdrop : d.digits.drop d.places with
      | nil =>
        rw [List.drop_eq_nil_iff] at hdrop
        omega
      | cons c cs => rfl
  rw [← hbody]
  rfl

lemma exists_body (d : Decimal) : ∃ c n cs, d.body = c :: cs ∧ Text.digit? c = some n := by
  obtain ⟨c, cs, hdigits⟩ := List.exists_cons_of_length_pos (Nat.zero_lt_of_lt d.scale_lt_length)
  obtain ⟨n, hn, -⟩ := Text.exists_digit_of_cons (hdigits ▸ d.isNumeral_digits)
  obtain ⟨k, hk⟩ := Nat.exists_eq_succ_of_ne_zero (Nat.ne_of_gt d.places_pos)
  have hbody : d.body = c :: (cs.take k ++ behind (d.digits.drop d.places)) := by
    rw [body, hdigits, hk, List.take_succ_cons, List.cons_append]
  exact ⟨c, n, _, hbody, hn⟩

lemma mem_behind {c : Char} {cs : List Char} (h : c ∈ behind cs) : c = '.' ∨ c ∈ cs := by
  cases cs with
  | nil => cases h
  | cons _ _ => exact List.mem_cons.1 h

lemma hasNoBlank_toChars : Text.HasNoBlank d.toChars := by
  have hdigits := Text.hasNoBlank_of_isNumeral d.isNumeral_digits
  have hbody : Text.HasNoBlank d.body := by
    intro c hc
    rw [body, List.mem_append] at hc
    rcases hc with hc | hc
    · exact hdigits c (List.mem_of_mem_take hc)
    · rcases mem_behind hc with rfl | hc
      · rfl
      · exact hdigits c (List.mem_of_mem_drop hc)
  rw [toChars_eq]
  split
  · exact List.forall_mem_cons.2 ⟨rfl, hbody⟩
  · exact hbody

/-! ### Reading -/

lemma readDigits_front {cs : List Char} (hcs : Text.IsNumeral cs) {m : ℕ}
    (h : m * 10 ^ cs.length + Text.numeral cs < bound) (seen : Bool) (rest : List Char) :
    readDigits false seen m 0 (cs ++ rest) =
      readDigits false (seen || !cs.isEmpty) (m * 10 ^ cs.length + Text.numeral cs) 0 rest := by
  induction cs generalizing m seen with
  | nil => simp [Text.numeral, Text.digitsValue]
  | cons c cs ih =>
    obtain ⟨d, hd, hrest⟩ := Text.exists_digit_of_cons hcs
    rw [Text.before_numeral_cons hd hrest] at h ⊢
    rw [List.cons_append, readDigits, if_neg (by decide), hd]
    simp only
    rw [if_pos ((Text.before_le _ cs).trans_lt h), if_neg (by decide), ih hrest h]
    simp

lemma readDigits_behind {cs : List Char} (hcs : Text.IsNumeral cs) {m scale : ℕ}
    (h : m * 10 ^ cs.length + Text.numeral cs < bound) (hscale : scale + cs.length ≤ 28) :
    readDigits true true m scale cs =
      .ok (m * 10 ^ cs.length + Text.numeral cs, scale + cs.length) := by
  induction cs generalizing m scale with
  | nil => simp [readDigits, Text.numeral, Text.digitsValue]
  | cons c cs ih =>
    obtain ⟨d, hd, hrest⟩ := Text.exists_digit_of_cons hcs
    rw [List.length_cons] at hscale
    rw [Text.before_numeral_cons hd hrest] at h ⊢
    rw [readDigits, if_neg (by omega), hd]
    simp only
    rw [if_pos ((Text.before_le _ cs).trans_lt h), if_pos trivial, ih hrest h (by omega),
      List.length_cons, Nat.add_assoc, Nat.add_comm 1]

lemma readDigits_body : readDigits false false 0 0 d.body = .ok (d.magnitude, d.scale) := by
  have hfront : Text.IsNumeral (d.digits.take d.places) :=
    fun c hc => d.isNumeral_digits c (List.mem_of_mem_take hc)
  have hrear : Text.IsNumeral (d.digits.drop d.places) :=
    fun c hc => d.isNumeral_digits c (List.mem_of_mem_drop hc)
  have hlength : (d.digits.drop d.places).length = d.scale := by
    rw [List.length_drop, length_digits, Nat.add_sub_cancel_left]
  have hvalue := Text.numeral_append (d.digits.take d.places) hrear
  rw [List.take_append_drop, numeral_digits] at hvalue
  -- what is read at the point is no more than the whole, so it fits the 96 bits, too
  have hlt : Text.numeral (d.digits.take d.places) < bound :=
    (Text.before_le _ (d.digits.drop d.places)).trans_lt (hvalue ▸ d.magnitude_lt)
  have hsome : (d.digits.take d.places).isEmpty = false := by
    have hpos := d.places_pos
    rw [List.isEmpty_eq_false_iff_exists_mem, ← List.length_pos_iff_exists_mem, List.length_take,
      length_digits]
    omega
  rw [body, readDigits_front hfront (by rwa [Nat.zero_mul, Nat.zero_add]), hsome, Nat.zero_mul,
    Nat.zero_add]
  cases hdrop : d.digits.drop d.places with
  | nil =>
    rw [hdrop] at hlength hvalue
    rw [behind, hvalue, ← hlength]
    simp [readDigits, Text.numeral, Text.digitsValue]
  | cons c cs =>
    rw [hdrop] at hlength hvalue hrear
    have hpoint : Text.digit? '.' = none := rfl
    rw [behind, readDigits, if_neg (by decide), hpoint]
    simp only
    rw [if_pos ⟨trivial, rfl⟩, Bool.false_or, Bool.not_false,
      readDigits_behind hrear (hvalue ▸ d.magnitude_lt) (by have := d.scale_le; omega), ← hvalue,
      hlength, Nat.zero_add]

/-- The decimal that the written form is read as: zero has no sign. -/
def withoutZeroSign : Decimal := { d with negative := d.negative && d.magnitude != 0 }

lemma equal_withoutZeroSign : d.withoutZeroSign.equal d := by
  have hunits : d.withoutZeroSign.units = d.units := by
    rw [units, units, coefficient, coefficient, withoutZeroSign]
    by_cases hzero : d.magnitude = 0 <;> simp [hzero]
  rw [equal, hunits, beq_self_eq_true]

/-- **The text of a decimal is read as this decimal**; only the sign of zero is lost. -/
theorem read_toChars : read d.toChars = .ok d.withoutZeroSign := by
  have hofDigits (negative : Bool) : ofDigits negative d.body =
      .ok { d with negative := negative && d.magnitude != 0 } := by
    rw [ofDigits, readDigits_body]
    show fitted _ _ _ = _
    rw [fitted, make?, dif_pos ⟨d.magnitude_lt, d.scale_le⟩]
  have hplain : readPlain d.toChars = .ok d.withoutZeroSign := by
    rw [toChars_eq, withoutZeroSign]
    cases d.negative with
    | true => exact hofDigits true
    | false =>
      obtain ⟨c, n, cs, hbody, hc⟩ := d.exists_body
      obtain ⟨hminus, hplus⟩ := Text.ne_sign_of_digit? (Option.isSome_iff_exists.2 ⟨n, hc⟩)
      rw [if_neg (by decide), ← hofDigits false, hbody, readPlain]
      · exact List.cons_ne_nil _ _
      · exact fun rest h => hminus (List.cons.inj h).1
      · exact fun rest h => hplus (List.cons.inj h).1
  rw [read, hplain]

end EntityQuery.Decimal
