import EntityQuery.Proofs.Text.Digits
import EntityQuery.Proofs.Text.Utf8
import Mathlib.Tactic.Ring

/-!
The order of numerals. Digits are written below each other from the left, with zeros behind the
shorter ones: numerals compare as the numbers that stand there then, and where these are equal the
shorter numeral comes first. Main statement: `compare_bytes_numerals`.
-/

namespace EntityQuery.Text

/-- Nothing but digits. -/
def IsNumeral (cs : List Char) : Prop := ∀ c ∈ cs, (digit? c).isSome

/-- The number that digits denote. -/
def numeral (cs : List Char) : ℕ := digitsValue (cs.filterMap digit?) 0

lemma exists_digit_of_cons {c : Char} {cs : List Char} (h : IsNumeral (c :: cs)) :
    ∃ d, digit? c = some d ∧ IsNumeral cs := by
  obtain ⟨hc, hcs⟩ := List.forall_mem_cons.1 h
  obtain ⟨d, hd⟩ := Option.isSome_iff_exists.1 hc
  exact ⟨d, hd, hcs⟩

/-! ### Digits -/

lemma of_digit? {c : Char} {d : ℕ} (h : digit? c = some d) :
    d < 10 ∧ String.utf8EncodeChar c = [UInt8.ofNat (48 + d)] := by
  obtain ⟨hlt, hc⟩ := toNat_of_digit? h
  have hval : c.val.toNat = 48 + d := hc
  exact ⟨hlt, by rw [String.utf8EncodeChar, if_pos (by omega), hval]⟩

lemma compare_digits : ∀ d < 10, ∀ e < 10,
    compare (UInt8.ofNat (48 + d)) (UInt8.ofNat (48 + e)) = compare d e := by
  decide

/-! ### Numbers -/

lemma digitsValue_eq (ds : List ℕ) (before : ℕ) :
    digitsValue ds before = before * 10 ^ ds.length + digitsValue ds 0 := by
  induction ds generalizing before with
  | nil => simp [digitsValue]
  | cons d ds ih =>
    have hcons (n : ℕ) : digitsValue (d :: ds) n = digitsValue ds (n * 10 + d) := rfl
    rw [hcons, hcons, ih, ih (0 * 10 + d), List.length_cons, Nat.pow_succ]
    ring

lemma length_filterMap_digit? {cs : List Char} (h : IsNumeral cs) :
    (cs.filterMap digit?).length = cs.length := by
  induction cs with
  | nil => rfl
  | cons c cs ih =>
    obtain ⟨d, hd, hcs⟩ := exists_digit_of_cons h
    rw [List.filterMap_cons_some hd, List.length_cons, ih hcs, List.length_cons]

lemma numeral_cons {c : Char} {d : ℕ} {cs : List Char} (hd : digit? c = some d)
    (hcs : IsNumeral cs) : numeral (c :: cs) = d * 10 ^ cs.length + numeral cs := by
  have hcons : digitsValue (d :: cs.filterMap digit?) 0 =
      digitsValue (cs.filterMap digit?) (0 * 10 + d) := rfl
  rw [numeral, List.filterMap_cons_some hd, hcons, digitsValue_eq, length_filterMap_digit? hcs,
    Nat.zero_mul, Nat.zero_add, numeral]

lemma numeral_append (cs : List Char) {ds : List Char} (hds : IsNumeral ds) :
    numeral (cs ++ ds) = numeral cs * 10 ^ ds.length + numeral ds := by
  rw [numeral, List.filterMap_append, digitsValue_append, digitsValue_eq,
    length_filterMap_digit? hds, numeral, numeral]

/-- The number before a numeral takes up its digits one by one. -/
lemma before_numeral_cons {c : Char} {d : ℕ} {cs : List Char} (hd : digit? c = some d)
    (hcs : IsNumeral cs) (before : ℕ) :
    before * 10 ^ (c :: cs).length + numeral (c :: cs) =
      (before * 10 + d) * 10 ^ cs.length + numeral cs := by
  rw [numeral_cons hd hcs, List.length_cons, Nat.pow_succ]
  ring

lemma before_le (before : ℕ) (cs : List Char) : before ≤ before * 10 ^ cs.length + numeral cs :=
  (Nat.le_mul_of_pos_right _ (Nat.pow_pos (by decide))).trans (Nat.le_add_right _ _)

lemma numeral_lt {cs : List Char} (h : IsNumeral cs) : numeral cs < 10 ^ cs.length := by
  induction cs with
  | nil => exact Nat.one_pos
  | cons c cs ih =>
    obtain ⟨d, hd, hcs⟩ := exists_digit_of_cons h
    have hdigit : d * 10 ^ cs.length ≤ 9 * 10 ^ cs.length :=
      Nat.mul_le_mul_right _ (Nat.le_of_lt_succ (of_digit? hd).1)
    have hrest := ih hcs
    rw [numeral_cons hd hcs, List.length_cons, Nat.pow_succ]
    omega

lemma compare_add_left (k a b : ℕ) : compare (k + a) (k + b) = compare a b := by
  show compareOfLessAndEq (k + a) (k + b) = compareOfLessAndEq a b
  simp only [compareOfLessAndEq, Nat.add_lt_add_iff_left, Nat.add_left_cancel_iff]

lemma compare_mul_add {x y a b k : ℕ} (ha : a < k) (hb : b < k) :
    compare (x * k + a) (y * k + b) = (compare x y).then (compare a b) := by
  have hstep {x y a : ℕ} (b : ℕ) (h : x < y) (ha : a < k) : x * k + a < y * k + b := by
    have hmul : (x + 1) * k ≤ y * k := Nat.mul_le_mul_right k h
    rw [Nat.succ_mul] at hmul
    omega
  rcases Nat.lt_trichotomy x y with h | rfl | h
  · rw [Nat.compare_eq_lt.2 h, Nat.compare_eq_lt.2 (hstep b h ha)]
    rfl
  · rw [Std.ReflOrd.compare_self, Ordering.eq_then]
    exact compare_add_left _ a b
  · rw [Nat.compare_eq_gt.2 h, Nat.compare_eq_gt.2 (hstep a h hb)]
    rfl

lemma compare_div_then {k : ℕ} (hk : 0 < k) (m n : ℕ) :
    (compare (m / k) (n / k)).then (compare (m % k) (n % k)) = compare m n := by
  rw [← compare_mul_add (Nat.mod_lt m hk) (Nat.mod_lt n hk), Nat.div_add_mod', Nat.div_add_mod']

/-! ### Printing -/

lemma decimalDigits_eq (n : ℕ) : decimalDigits n = Nat.toDigits 10 n := by
  have hdigit : ∀ d < 10, Char.ofNat ('0'.toNat + d) = d.digitChar := by decide
  induction n using Nat.strongRecOn with
  | ind n ih =>
    rw [decimalDigits, Nat.toDigits_eq_if (by decide)]
    split
    · rename_i hlt
      rw [hdigit n hlt]
    · rw [ih (n / 10) (by omega), hdigit (n % 10) (Nat.mod_lt _ (by decide))]

lemma isNumeral_decimalDigits (n : ℕ) : IsNumeral (decimalDigits n) := by
  rw [decimalDigits_eq]
  exact fun c hc => isSome_digit?_of_mem_toDigits hc

lemma numeral_decimalDigits (n : ℕ) : numeral (decimalDigits n) = n := by
  rw [numeral, decimalDigits_eq, digitsValue_toDigits]

lemma decimalDigits_ne_nil (n : ℕ) : decimalDigits n ≠ [] := by
  rw [decimalDigits_eq]
  exact Nat.toDigits_ne_nil

lemma le_of_length_decimalDigits {n : ℕ} (h : 1 < (decimalDigits n).length) :
    10 ^ ((decimalDigits n).length - 1) ≤ n := by
  rw [decimalDigits_eq] at h ⊢
  have hlength := Nat.length_toDigits_le_iff (n := n) (show 1 < 10 by decide) (Nat.sub_pos_of_lt h)
  by_contra hlt
  have := hlength.2 (Nat.lt_of_not_le hlt)
  omega

lemma of_padZeros {cs : List Char} (h : IsNumeral cs) (width : ℕ) :
    IsNumeral (padZeros width cs) ∧ numeral (padZeros width cs) = numeral cs := by
  unfold padZeros
  induction width - cs.length with
  | zero => exact ⟨h, rfl⟩
  | succ n ih =>
    have hzero : digit? '0' = some 0 := rfl
    rw [List.replicate_succ, List.cons_append]
    refine ⟨List.forall_mem_cons.2 ⟨by rw [hzero]; rfl, ih.1⟩, ?_⟩
    rw [numeral_cons hzero ih.1, Nat.zero_mul, Nat.zero_add, ih.2]

lemma length_padZeros (width : ℕ) (cs : List Char) :
    (padZeros width cs).length = max width cs.length := by
  rw [padZeros, List.length_append, List.length_replicate]
  omega

lemma length_padZeros_of_lt {width n : ℕ} (hpos : 0 < width) (h : n < 10 ^ width) :
    (padZeros width (decimalDigits n)).length = width := by
  have hdigits : (decimalDigits n).length ≤ width := by
    rw [decimalDigits_eq]
    exact (Nat.length_toDigits_le_iff (by decide) hpos).2 h
  rw [length_padZeros, Nat.max_eq_left hdigits]

/-! ### Order -/

lemma length_bytes {cs : List Char} (h : IsNumeral cs) : (bytes cs).length = cs.length := by
  induction cs with
  | nil => rfl
  | cons c cs ih =>
    obtain ⟨d, hd, hcs⟩ := exists_digit_of_cons h
    rw [bytes_cons, (of_digit? hd).2, List.singleton_append, List.length_cons, ih hcs,
      List.length_cons]

/-- The number that stands there with zeros up to a width. -/
def padded (width : ℕ) (cs : List Char) : ℕ := numeral cs * 10 ^ (width - cs.length)

lemma padded_cons {c : Char} {d : ℕ} {cs : List Char} (hd : digit? c = some d)
    (hcs : IsNumeral cs) {width : ℕ} (h : cs.length ≤ width) :
    padded (width + 1) (c :: cs) = d * 10 ^ width + padded width cs := by
  have hpow : 10 ^ cs.length * 10 ^ (width - cs.length) = 10 ^ width := by
    rw [← Nat.pow_add, Nat.add_sub_cancel' h]
  rw [padded, numeral_cons hd hcs, List.length_cons, Nat.add_sub_add_right, Nat.add_mul,
    Nat.mul_assoc, hpow, padded]

lemma padded_lt {cs : List Char} (hcs : IsNumeral cs) {width : ℕ} (h : cs.length ≤ width) :
    padded width cs < 10 ^ width := by
  have hpow : 10 ^ cs.length * 10 ^ (width - cs.length) = 10 ^ width := by
    rw [← Nat.pow_add, Nat.add_sub_cancel' h]
  rw [← hpow]
  exact Nat.mul_lt_mul_of_pos_right (numeral_lt hcs) (Nat.pow_pos (by decide))

lemma padded_length (cs : List Char) : padded cs.length cs = numeral cs := by
  rw [padded, Nat.sub_self, Nat.pow_zero, Nat.mul_one]

/-- **Numerals compare as numbers of one width**, and then by their lengths. -/
theorem compare_bytes_numerals {cs ds : List Char} (hcs : IsNumeral cs) (hds : IsNumeral ds)
    {width : ℕ} (hc : cs.length ≤ width) (hd : ds.length ≤ width) :
    compare (bytes cs) (bytes ds) =
      (compare (padded width cs) (padded width ds)).then (compare cs.length ds.length) := by
  induction cs generalizing ds width with
  | nil =>
    have hzero : padded width [] = 0 := Nat.zero_mul _
    cases ds with
    | nil => rw [Std.ReflOrd.compare_self, Std.ReflOrd.compare_self, Std.ReflOrd.compare_self]; rfl
    | cons d ds =>
      obtain ⟨y, hy, -⟩ := exists_digit_of_cons hds
      rw [hzero, bytes_cons, (of_digit? hy).2]
      cases padded width (d :: ds) <;> rfl
  | cons c cs ih =>
    cases ds with
    | nil =>
      obtain ⟨x, hx, -⟩ := exists_digit_of_cons hcs
      have hzero : padded width [] = 0 := Nat.zero_mul _
      rw [hzero, bytes_cons, (of_digit? hx).2]
      cases padded width (c :: cs) <;> rfl
    | cons d ds =>
      obtain ⟨width, rfl⟩ : ∃ w, width = w + 1 := ⟨width - 1, by simp at hc; omega⟩
      obtain ⟨x, hx, hcs⟩ := exists_digit_of_cons hcs
      obtain ⟨y, hy, hds⟩ := exists_digit_of_cons hds
      have hc := Nat.le_of_succ_le_succ hc
      have hd := Nat.le_of_succ_le_succ hd
      rw [padded_cons hx hcs hc, padded_cons hy hds hd,
        compare_mul_add (padded_lt hcs hc) (padded_lt hds hd), Ordering.then_assoc]
      rw [bytes_cons, bytes_cons, (of_digit? hx).2, (of_digit? hy).2, List.singleton_append,
        List.singleton_append, List.compare_cons_cons, ih hcs hds hc hd,
        compare_digits x (of_digit? hx).1 y (of_digit? hy).1, List.length_cons, List.length_cons,
        Nat.add_comm, Nat.add_comm ds.length, compare_add_left]

lemma compare_bytes_of_length {cs ds : List Char} (hcs : IsNumeral cs) (hds : IsNumeral ds)
    (h : cs.length = ds.length) :
    compare (bytes cs) (bytes ds) = compare (numeral cs) (numeral ds) := by
  rw [compare_bytes_numerals hcs hds (Nat.le_of_eq h) (Nat.le_refl _), padded_length, ← h,
    padded_length, Std.ReflOrd.compare_self, Ordering.then_eq]

lemma compare_bytes_padZeros {width m n : ℕ} (hpos : 0 < width) (hm : m < 10 ^ width)
    (hn : n < 10 ^ width) (cs ds : List Char) :
    compare (bytes (padZeros width (decimalDigits m) ++ cs))
        (bytes (padZeros width (decimalDigits n) ++ ds)) =
      (compare m n).then (compare (bytes cs) (bytes ds)) := by
  obtain ⟨hnumeral, hvalue⟩ := of_padZeros (isNumeral_decimalDigits m) width
  obtain ⟨hnumeral', hvalue'⟩ := of_padZeros (isNumeral_decimalDigits n) width
  have hlength : (padZeros width (decimalDigits m)).length =
      (padZeros width (decimalDigits n)).length := by
    rw [length_padZeros_of_lt hpos hm, length_padZeros_of_lt hpos hn]
  have hbytes : (bytes (padZeros width (decimalDigits m))).length =
      (bytes (padZeros width (decimalDigits n))).length := by
    rw [length_bytes hnumeral, length_bytes hnumeral', hlength]
  rw [bytes_append, bytes_append, compare_append hbytes,
    compare_bytes_of_length hnumeral hnumeral' hlength, hvalue, hvalue', numeral_decimalDigits,
    numeral_decimalDigits]

lemma length_bytes_padZeros {width n : ℕ} (hpos : 0 < width) (h : n < 10 ^ width)
    (cs : List Char) : (bytes (padZeros width (decimalDigits n) ++ cs)).length =
      width + (bytes cs).length := by
  rw [bytes_append, List.length_append,
    length_bytes (of_padZeros (isNumeral_decimalDigits n) width).1, length_padZeros_of_lt hpos h]

end EntityQuery.Text
