import EntityQuery.Proofs.Number.Decimals
import EntityQuery.Proofs.Sql.Meaning

/-!
Decimals in a table, where they are texts. Texts are compared from the left: the sign first, then
the digits, wherever the point is. With equally many digits in front of the point decimals without
sign compare by value, and by the number of digits behind the point where they are equal; otherwise
the one with fewer digits comes first, unless its digits outrun the first ones of the other, as 9
outruns 10. Negative decimals compare the wrong way around by value. Main statements: `compare_text`
and `agrees_decimal_iff`.
-/

namespace EntityQuery

namespace Decimal

variable (d : Decimal)

/-- The number that the first digits denote. -/
def leading (n : ℕ) : ℕ := Text.numeral (d.digits.take n)

/-- A decimal outruns one with more digits in front of the point if its own there are ahead of the
first ones of the other. -/
def Outruns (a b : Decimal) : Prop :=
  a.places < b.places ∧ b.leading a.places < a.leading a.places

lemma eq_of_units_eq {a b : Decimal} (hn : a.negative = b.negative) (hs : a.scale = b.scale)
    (hu : a.units = b.units) : a = b := by
  have hsize : a.size = b.size := by
    rw [units_eq, units_eq, hn] at hu
    split at hu <;> omega
  rw [size, size, hs] at hsize
  have hmagnitude := Nat.eq_of_mul_eq_mul_right (Nat.pow_pos (by decide)) hsize
  cases a
  cases b
  subst hn hs hmagnitude
  rfl

lemma units_le_of_signs {a b : Decimal} (ha : a.negative = true) (hb : b.negative = false) :
    a.units ≤ b.units := by
  rw [units_eq, units_eq, ha, hb, if_pos rfl, if_neg (by decide)]
  omega

lemma padded_digits : Text.padded (d.places + 28) d.digits = d.size := by
  rw [Text.padded, numeral_digits, length_digits, Nat.add_sub_add_left, size]

lemma size_lt_of_places {a b : Decimal} (h : a.places < b.places) : a.size < b.size := by
  have ha := a.padded_digits ▸ Text.padded_lt a.isNumeral_digits
    (show a.digits.length ≤ a.places + 28 by have := a.length_digits; have := a.scale_le; omega)
  have hpos := a.places_pos
  have hdigits : b.digits = Text.decimalDigits b.magnitude := by
    have hlength := b.length_digits
    rw [digits, Text.padZeros, List.length_append, List.length_replicate] at hlength
    rw [digits, Text.padZeros, show b.scale + 1 - (Text.decimalDigits b.magnitude).length = 0 by
      omega]
    rfl
  have hlength := b.length_digits
  rw [hdigits] at hlength
  have hle := Text.le_of_length_decimalDigits (n := b.magnitude) (by omega)
  have hscale := b.scale_le
  calc a.size < 10 ^ (a.places + 28) := ha
    _ ≤ 10 ^ ((Text.decimalDigits b.magnitude).length - 1 + (28 - b.scale)) :=
      Nat.pow_le_pow_right (by decide) (by omega)
    _ = 10 ^ ((Text.decimalDigits b.magnitude).length - 1) * 10 ^ (28 - b.scale) := Nat.pow_add ..
    _ ≤ b.size := Nat.mul_le_mul_right _ hle

/-! ### Order -/

/-- What comes first behind the point is compared there, and the point itself tells nothing. -/
lemma compare_behind (cs ds : List Char) :
    compare (Text.bytes (behind cs)) (Text.bytes (behind ds)) =
      compare (Text.bytes cs) (Text.bytes ds) := by
  have hbytes (c : Char) : ∃ b bs, String.utf8EncodeChar c = b :: bs :=
    List.exists_cons_of_ne_nil String.utf8EncodeChar_ne_nil
  cases cs with
  | nil =>
    cases ds with
    | nil => rfl
    | cons d ds =>
      obtain ⟨b, bs, hb⟩ := hbytes d
      rw [Text.bytes_cons, hb]
      rfl
  | cons c cs =>
    cases ds with
    | nil =>
      obtain ⟨b, bs, hb⟩ := hbytes c
      rw [Text.bytes_cons, hb]
      rfl
    | cons d ds =>
      rw [behind, behind, Text.compare_bytes_cons]

lemma compare_body {a b : Decimal} (h : a.places = b.places) :
    compare (Text.bytes a.body) (Text.bytes b.body) =
      (compare a.size b.size).then (compare a.scale b.scale) := by
  have hla := a.length_digits
  have hlb := b.length_digits
  have hfront : (Text.bytes (a.digits.take a.places)).length =
      (Text.bytes (b.digits.take b.places)).length := by
    rw [Text.length_bytes fun c hc => a.isNumeral_digits c (List.mem_of_mem_take hc),
      Text.length_bytes fun c hc => b.isNumeral_digits c (List.mem_of_mem_take hc),
      List.length_take, List.length_take]
    omega
  have hsa := a.scale_le
  have hsb := b.scale_le
  rw [body, body, Text.bytes_append, Text.bytes_append, Text.compare_append hfront, compare_behind,
    ← Text.compare_append hfront, ← Text.bytes_append, ← Text.bytes_append, List.take_append_drop,
    List.take_append_drop, Text.compare_bytes_numerals a.isNumeral_digits b.isNumeral_digits
      (show a.digits.length ≤ a.places + 28 by omega) (by omega), padded_digits, h, padded_digits,
    hla, hlb, h, Text.compare_add_left]

lemma compare_digit {b c : Char} {n : ℕ} (hb : b = '-' ∨ b = '.') (hc : Text.digit? c = some n)
    (bs cs : List Char) : compare (Text.bytes (b :: bs)) (Text.bytes (c :: cs)) = .lt := by
  have hminus : ∀ n < 10, compare (45 : UInt8) (UInt8.ofNat (48 + n)) = .lt := by decide
  have hpoint : ∀ n < 10, compare (46 : UInt8) (UInt8.ofNat (48 + n)) = .lt := by decide
  obtain ⟨hlt, hbyte⟩ := Text.of_digit? hc
  rw [Text.bytes_cons, Text.bytes_cons, hbyte]
  rcases hb with rfl | rfl
  · show compare ((45 : UInt8) :: _) (_ :: _) = _
    rw [List.compare_cons_cons, hminus n hlt]
    rfl
  · show compare ((46 : UInt8) :: _) (_ :: _) = _
    rw [List.compare_cons_cons, hpoint n hlt]
    rfl

lemma length_take {n : ℕ} (h : n ≤ d.places) : (d.digits.take n).length = n := by
  rw [List.length_take, d.length_digits]
  omega

lemma isNumeral_take (n : ℕ) : Text.IsNumeral (d.digits.take n) :=
  fun c hc => d.isNumeral_digits c (List.mem_of_mem_take hc)

/-- Without sign, a decimal with fewer digits in front of the point comes first, unless its digits
are ahead. -/
lemma compare_body_of_places {a b : Decimal} (h : a.places < b.places) :
    compare (Text.bytes a.body) (Text.bytes b.body) =
      (compare (a.leading a.places) (b.leading a.places)).then .lt := by
  have hla := a.length_take (Nat.le_refl _)
  have hlb := b.length_take (Nat.le_of_lt h)
  have hfront : (Text.bytes (a.digits.take a.places)).length =
      (Text.bytes (b.digits.take a.places)).length := by
    rw [Text.length_bytes (a.isNumeral_take _), Text.length_bytes (b.isNumeral_take _), hla, hlb]
  -- where the first is at its point or its end, the second has one more digit
  obtain ⟨c, rest, hrest⟩ : ∃ c rest, (b.digits.take b.places).drop a.places = c :: rest := by
    refine List.exists_cons_of_length_pos ?_
    rw [List.length_drop, b.length_take (Nat.le_refl _)]
    omega
  obtain ⟨n, hn⟩ := Option.isSome_iff_exists.1 (b.isNumeral_take b.places c
    (List.mem_of_mem_drop (hrest ▸ List.mem_cons_self)))
  have hsplit := List.take_append_drop a.places (b.digits.take b.places)
  rw [List.take_take, Nat.min_eq_left (Nat.le_of_lt h), hrest] at hsplit
  have hbehind : compare (Text.bytes (behind (a.digits.drop a.places)))
      (Text.bytes (c :: rest ++ behind (b.digits.drop b.places))) = .lt := by
    cases a.digits.drop a.places with
    | nil =>
      rw [List.cons_append, Text.bytes_cons, (Text.of_digit? hn).2]
      rfl
    | cons d ds => exact compare_digit (.inr rfl) hn _ _
  rw [body, body, ← hsplit, List.append_assoc, Text.bytes_append, Text.bytes_append,
    Text.compare_append hfront, hbehind,
    Text.compare_bytes_of_length (a.isNumeral_take _) (b.isNumeral_take _) (hla.trans hlb.symm)]
  rfl

lemma compare_minus (cs : List Char) (d : Decimal) :
    compare (Text.bytes ('-' :: cs)) (Text.bytes d.body) = .lt := by
  obtain ⟨c, n, rest, hbody, hn⟩ := d.exists_body
  rw [hbody]
  exact compare_digit (.inl rfl) hn cs rest

lemma compare_size (m n : ℕ) : compare (m : ℤ) n = compare m n := by
  show compareOfLessAndEq (m : ℤ) n = compareOfLessAndEq m n
  simp only [compareOfLessAndEq, Int.ofNat_lt, Int.ofNat_inj]

lemma compare_neg_size (m n : ℕ) : compare (-(m : ℤ)) (-n) = compare n m := by
  rw [← compare_size]
  show compareOfLessAndEq (-(m : ℤ)) (-n) = compareOfLessAndEq (n : ℤ) m
  simp only [compareOfLessAndEq, Int.neg_lt_neg_iff, Int.neg_inj, eq_comm]

/-! ### Decimals without sign -/

lemma size_ne_of_outruns {a b : Decimal} (h : a.Outruns b ∨ b.Outruns a) : a.size ≠ b.size := by
  rcases h with h | h
  · exact Nat.ne_of_lt (size_lt_of_places h.1)
  · exact Nat.ne_of_gt (size_lt_of_places h.1)

section Places

variable {a b : Decimal} (h : a.places < b.places)

include h

lemma outruns_iff_compare :
    a.Outruns b ↔ compare (a.leading a.places) (b.leading a.places) = .gt := by
  rw [Outruns, Nat.compare_eq_gt]
  exact and_iff_right h

lemma compare_body_eq_lt_iff :
    compare (Text.bytes a.body) (Text.bytes b.body) = .lt ↔ ¬a.Outruns b := by
  rw [compare_body_of_places h, outruns_iff_compare h]
  cases compare (a.leading a.places) (b.leading a.places) <;> simp

lemma compare_body_eq_gt_iff :
    compare (Text.bytes a.body) (Text.bytes b.body) = .gt ↔ a.Outruns b := by
  rw [compare_body_of_places h, outruns_iff_compare h]
  cases compare (a.leading a.places) (b.leading a.places) <;> simp

end Places

lemma then_eq_left_iff {o p : Ordering} : o.then p = o ↔ (o = .eq → p = .eq) := by
  cases o <;> simp

lemma then_eq_swap_iff {o p : Ordering} : o.then p = o.swap ↔ o = .eq ∧ p = .eq := by
  cases o <;> simp

variable (a b : Decimal)

/-- Where the bodies compare as the absolute values do. -/
lemma compare_body_eq_iff :
    compare (Text.bytes a.body) (Text.bytes b.body) = compare a.size b.size ↔
      (a.size = b.size → a.scale = b.scale) ∧ ¬(a.Outruns b ∨ b.Outruns a) := by
  rcases Nat.lt_trichotomy a.places b.places with h | h | h
  · have hsize := size_lt_of_places h
    rw [Nat.compare_eq_lt.2 hsize, compare_body_eq_lt_iff h]
    have hback : ¬b.Outruns a := fun hb => Nat.lt_asymm h hb.1
    simp [hback, Nat.ne_of_lt hsize]
  · rw [compare_body h, then_eq_left_iff, Nat.compare_eq_eq, Nat.compare_eq_eq]
    simp [Outruns, h]
  · have hsize := size_lt_of_places h
    rw [Std.OrientedOrd.eq_swap (a := Text.bytes a.body), Std.OrientedOrd.eq_swap (a := a.size),
      Ordering.swap_inj, Nat.compare_eq_lt.2 hsize, compare_body_eq_lt_iff h]
    have hback : ¬a.Outruns b := fun ha => Nat.lt_asymm h ha.1
    simp [hback, Nat.ne_of_gt hsize]

/-- Where the bodies compare the other way around. -/
lemma compare_body_eq_swap_iff :
    compare (Text.bytes a.body) (Text.bytes b.body) = compare b.size a.size ↔
      a.size = b.size ∧ a.scale = b.scale ∨ a.Outruns b ∨ b.Outruns a := by
  rcases Nat.lt_trichotomy a.places b.places with h | h | h
  · have hsize := size_lt_of_places h
    rw [Nat.compare_eq_gt.2 hsize, compare_body_eq_gt_iff h]
    have hback : ¬b.Outruns a := fun hb => Nat.lt_asymm h hb.1
    simp [hback, Nat.ne_of_lt hsize]
  · rw [compare_body h, Std.OrientedOrd.eq_swap (a := b.size), then_eq_swap_iff,
      Nat.compare_eq_eq, Nat.compare_eq_eq]
    simp [Outruns, h]
  · have hsize := size_lt_of_places h
    rw [Std.OrientedOrd.eq_swap (a := Text.bytes a.body), Std.OrientedOrd.eq_swap (a := b.size),
      Ordering.swap_inj, Nat.compare_eq_gt.2 hsize, compare_body_eq_gt_iff h]
    have hback : ¬a.Outruns b := fun ha => Nat.lt_asymm h ha.1
    simp [hback, Nat.ne_of_gt hsize]

/-! ### Signs -/

/-- **The order of the texts of decimals**: the sign comes first, and then the bodies. -/
theorem compare_text :
    compare (Text.bytes a.toChars) (Text.bytes b.toChars) =
      match a.negative, b.negative with
      | true, false => .lt
      | false, true => .gt
      | _, _ => compare (Text.bytes a.body) (Text.bytes b.body) := by
  rw [toChars_eq, toChars_eq]
  cases a.negative <;> cases b.negative
  · rfl
  · exact Std.OrientedOrd.eq_swap.trans (congrArg Ordering.swap (compare_minus _ a))
  · exact compare_minus _ b
  · rw [if_pos rfl, if_pos rfl, Text.compare_bytes_cons]

end Decimal

namespace Sql.Datum

/-- A table agrees with memory on two values: all comparisons with each other come out the same, and
they sort in the same order. -/
def Agrees (a b : Value) : Prop :=
  (∀ op : Comparison, compared op.holds (ofValue a) (ofValue b) = ofTruth (some (op.test a b))) ∧
    (ofValue a).order (ofValue b) = a.sortCompare b

lemma ofTruth_inj {t u : Option Bool} : ofTruth t = ofTruth u ↔ t = u := by
  rcases t with _ | _ | _ <;> rcases u with _ | _ | _ <;> simp [ofTruth]

lemma forall_holds_iff {o o' : Ordering} :
    (∀ op : Comparison, op.holds o = op.holds o') ↔ o = o' := by
  refine ⟨fun h => ?_, fun h op => by rw [h]⟩
  have hequal := h .equal
  have hless := h .less
  revert hequal hless
  cases o <;> cases o' <;> decide

/-- A table agrees on decimals exactly if their texts have the order of their values. -/
lemma agrees_decimal_iff_order {a b : Decimal} :
    Agrees (.decimal a) (.decimal b) ↔
      compare (Text.bytes a.toChars) (Text.bytes b.toChars) = compare a b := by
  have horder : (ofValue (.decimal a)).order (ofValue (.decimal b)) =
      compare (Text.bytes a.toChars) (Text.bytes b.toChars) := by
    show compare (Text.bytes a.text.toList) (Text.bytes b.text.toList) = _
    rw [Decimal.text, Decimal.text, String.toList_ofList, String.toList_ofList]
  have hcompared (op : Comparison) :
      compared op.holds (ofValue (.decimal a)) (ofValue (.decimal b)) =
        ofTruth (some (op.holds (compare (Text.bytes a.toChars) (Text.bytes b.toChars)))) := by
    rw [← horder]
    rfl
  have htest (op : Comparison) : op.test (.decimal a) (.decimal b) = op.holds (compare a b) :=
    test_eq_holds rfl rfl rfl
  rw [Agrees, horder]
  simp only [hcompared, htest, ofTruth_inj, Option.some.injEq, forall_holds_iff]
  exact and_self_iff

/-- **Where a table agrees with memory on decimals.** Of equal decimals only those written alike
agree. Unequal ones agree if their signs differ; without sign they agree if neither outruns the
other, and two negative ones if one of them does. -/
theorem agrees_decimal_iff {a b : Decimal} :
    Agrees (.decimal a) (.decimal b) ↔
      a = b ∨ a.units ≠ b.units ∧
        (a.negative = b.negative → (a.negative ↔ a.Outruns b ∨ b.Outruns a)) := by
  have hvalue : compare a b = compare a.units b.units := rfl
  have hsame (hn : a.negative = b.negative) : a.size = b.size ∧ a.scale = b.scale ↔ a = b := by
    refine ⟨fun ⟨hsize, hscale⟩ => Decimal.eq_of_units_eq hn hscale ?_, fun hab => ?_⟩
    · rw [Decimal.units_eq, Decimal.units_eq, hn, hsize]
    · rw [hab]
      exact ⟨rfl, rfl⟩
  have hunequal := Decimal.size_ne_of_outruns (a := a) (b := b)
  rw [agrees_decimal_iff_order, Decimal.compare_text, hvalue]
  cases hna : a.negative <;> cases hnb : b.negative
  · have hunits : compare a.units b.units = compare a.size b.size := by
      rw [Decimal.units_eq, Decimal.units_eq, hna, hnb]
      exact Decimal.compare_size _ _
    have hequal : a.units = b.units ↔ a.size = b.size := by
      rw [← Int.compare_eq_eq, hunits, Nat.compare_eq_eq]
    rw [hunits, Decimal.compare_body_eq_iff, ← hsame (hna.trans hnb.symm), ne_eq, hequal]
    simp only [true_implies, Bool.false_eq_true, false_iff]
    tauto
  · have hsigns := Decimal.units_le_of_signs hnb hna
    have hne : a ≠ b := fun hab => by simp [hab, hnb] at hna
    rw [eq_comm, Int.compare_eq_gt]
    simp only [hne, false_or, Bool.false_eq_true, false_implies, and_true]
    omega
  · have hsigns := Decimal.units_le_of_signs hna hnb
    have hne : a ≠ b := fun hab => by simp [hab, hnb] at hna
    rw [eq_comm, Int.compare_eq_lt]
    simp only [hne, false_or, Bool.true_eq_false, false_implies, and_true]
    omega
  · have hunits : compare a.units b.units = compare b.size a.size := by
      rw [Decimal.units_eq, Decimal.units_eq, hna, hnb]
      exact Decimal.compare_neg_size _ _
    have hequal : a.units = b.units ↔ a.size = b.size := by
      rw [← Int.compare_eq_eq, hunits, Nat.compare_eq_eq, eq_comm]
    rw [hunits, Decimal.compare_body_eq_swap_iff, ← hsame (hna.trans hnb.symm), ne_eq, hequal]
    simp only [true_implies, true_iff]
    tauto

/-- A table takes `1.0` and `1.00` for different, `9` for larger than `10`, and `-2` for larger than
`-1`. -/
theorem not_agrees_decimals :
    let one : Decimal := ⟨false, 10, 1, by decide, by decide⟩
    let one' : Decimal := ⟨false, 100, 2, by decide, by decide⟩
    let nine : Decimal := ⟨false, 9, 0, by decide, by decide⟩
    let ten : Decimal := ⟨false, 10, 0, by decide, by decide⟩
    let minusOne : Decimal := ⟨true, 1, 0, by decide, by decide⟩
    let minusTwo : Decimal := ⟨true, 2, 0, by decide, by decide⟩
    ¬Agrees (.decimal one) (.decimal one') ∧ ¬Agrees (.decimal nine) (.decimal ten) ∧
      ¬Agrees (.decimal minusTwo) (.decimal minusOne) := by
  intro one one' nine ten minusOne minusTwo
  simp only [agrees_decimal_iff_order]
  decide +kernel

end Sql.Datum

end EntityQuery
