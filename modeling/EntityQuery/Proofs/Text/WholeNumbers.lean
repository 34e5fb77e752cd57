import EntityQuery.Proofs.Results
import EntityQuery.Proofs.Text.Blanks
import EntityQuery.Text.Whole

/-!
Whole numbers and their texts. A text denotes a number if it is made of a sign, which may be left
out, and of digits; what is read is what denotes a number of the range. So every 64 bit integer is
read from its decimal text. Main statement: `read_eq_ok_iff`.
-/

namespace EntityQuery

namespace Text

lemma hasNoBlank_decimalInt (i : ℤ) : HasNoBlank (decimalInt i) := by
  have hdigits := hasNoBlank_of_isNumeral (isNumeral_decimalDigits i.natAbs)
  rw [decimalInt]
  split
  · exact List.forall_mem_cons.2 ⟨rfl, hdigits⟩
  · exact hdigits

end Text

namespace Whole

variable {limit below above : ℕ} {overflow : Problem} {cs : List Char}

/-! ### Digits -/

lemma readDigits_numeral (hcs : Text.IsNumeral cs) {before : ℕ}
    (h : before * 10 ^ cs.length + Text.numeral cs ≤ limit) :
    readDigits limit overflow before cs = .ok (before * 10 ^ cs.length + Text.numeral cs) := by
  induction cs generalizing before with
  | nil => simp [readDigits, Text.numeral, Text.digitsValue]
  | cons c cs ih =>
    obtain ⟨d, hd, hrest⟩ := Text.exists_digit_of_cons hcs
    rw [Text.before_numeral_cons hd hrest] at h ⊢
    rw [readDigits, hd]
    simp only
    rw [if_pos ((Text.before_le _ cs).trans h), ih hrest h]

/-- What is read is nothing but digits, and their number does not pass the limit. -/
lemma of_readDigits {before n : ℕ} (h : before ≤ limit)
    (hread : readDigits limit overflow before cs = .ok n) :
    Text.IsNumeral cs ∧ before * 10 ^ cs.length + Text.numeral cs = n ∧ n ≤ limit := by
  induction cs generalizing before with
  | nil =>
    cases hread
    exact ⟨by simp [Text.IsNumeral], by simp [Text.numeral, Text.digitsValue], h⟩
  | cons c cs ih =>
    rw [readDigits] at hread
    cases hd : Text.digit? c with
    | none => simp [hd] at hread
    | some d =>
      simp only [hd] at hread
      split at hread
      · rename_i hlimit
        obtain ⟨hcs, hvalue, hn⟩ := ih hlimit hread
        have hc : (Text.digit? c).isSome := by rw [hd]; rfl
        refine ⟨List.forall_mem_cons.2 ⟨hc, hcs⟩, ?_, hn⟩
        rw [Text.before_numeral_cons hd hcs, hvalue]
      · cases hread

lemma readDigits_eq_ok_iff {n : ℕ} :
    readDigits limit overflow 0 cs = .ok n ↔
      Text.IsNumeral cs ∧ Text.numeral cs = n ∧ n ≤ limit := by
  constructor
  · intro h
    simpa using of_readDigits (Nat.zero_le _) h
  · rintro ⟨hcs, rfl, hn⟩
    simpa using @readDigits_numeral limit overflow cs hcs 0 (by simpa using hn)

/-! ### Signs -/

lemma read_of_digit {c : Char} (hc : (Text.digit? c).isSome) :
    read below above (c :: cs) =
      (fun n : ℕ => (n : ℤ)) <$> readDigits above .tooLarge 0 (c :: cs) := by
  obtain ⟨hminus, hplus⟩ := Text.ne_sign_of_digit? hc
  unfold read
  split
  case h_6 => rfl
  all_goals simp_all

/-- A text is a whole number: digits, with a sign in front or not. -/
def Denotes (s : List Char) (i : ℤ) : Prop :=
  ∃ digits, digits ≠ [] ∧ Text.IsNumeral digits ∧
    (s = digits ∧ i = Text.numeral digits ∨ s = '+' :: digits ∧ i = Text.numeral digits ∨
      s = '-' :: digits ∧ i = -Text.numeral digits)

lemma denotes_of_read {s : List Char} {i : ℤ} (h : read below above s = .ok i) :
    Denotes s i ∧ -below ≤ i ∧ i ≤ above := by
  unfold read at h
  split at h
  case h_1 | h_2 | h_3 => cases h
  all_goals
    obtain ⟨n, hn, h⟩ := Result.bind_eq_ok_iff.1 h
    obtain ⟨hnumeral, rfl, hlimit⟩ := readDigits_eq_ok_iff.1 hn
    cases h
  case h_4 digits hne => exact ⟨⟨digits, hne, hnumeral, .inr (.inr ⟨rfl, rfl⟩)⟩, by omega, by omega⟩
  case h_5 digits hne => exact ⟨⟨digits, hne, hnumeral, .inr (.inl ⟨rfl, rfl⟩)⟩, by omega, by omega⟩
  case h_6 hne _ _ _ _ => exact ⟨⟨s, hne, hnumeral, .inl ⟨rfl, rfl⟩⟩, by omega, by omega⟩

/-- **What is read is what denotes a number of the range**, and nothing else. -/
theorem read_eq_ok_iff {s : List Char} {i : ℤ} :
    read below above s = .ok i ↔ Denotes s i ∧ -below ≤ i ∧ i ≤ above := by
  refine ⟨denotes_of_read, ?_⟩
  rintro ⟨⟨digits, hne, hnumeral, hform⟩, hbelow, habove⟩
  obtain ⟨c, cs, rfl⟩ := List.exists_cons_of_ne_nil hne
  have hread {limit : ℕ} (overflow : Problem) (h : Text.numeral (c :: cs) ≤ limit) :
      readDigits limit overflow 0 (c :: cs) = .ok (Text.numeral (c :: cs)) :=
    readDigits_eq_ok_iff.2 ⟨hnumeral, rfl, h⟩
  rcases hform with ⟨rfl, rfl⟩ | ⟨rfl, rfl⟩ | ⟨rfl, rfl⟩
  · rw [read_of_digit (hnumeral c List.mem_cons_self), hread _ (by omega)]
    rfl
  · rw [read, hread _ (by omega)]
    · rfl
    · simp
  · rw [read, hread _ (by omega)]
    · rfl
    · simp

/-! ### Integers -/

lemma denotes_decimalInt (i : ℤ) : Denotes (Text.decimalInt i) i := by
  refine ⟨_, Text.decimalDigits_ne_nil i.natAbs, Text.isNumeral_decimalDigits _, ?_⟩
  rw [Text.numeral_decimalDigits, Text.decimalInt]
  split
  · exact .inr (.inr ⟨rfl, by omega⟩)
  · exact .inl ⟨rfl, by omega⟩

/-- A text is read as a 64 bit integer exactly if it denotes this integer. -/
lemma readInt64_eq_ok_iff {s : List Char} {n : Int64} :
    readInt64 s = .ok n ↔ Denotes s n.toInt := by
  have hlow := n.le_toInt
  have hhigh := n.toInt_lt
  constructor
  · intro h
    obtain ⟨i, hi, h⟩ := Result.bind_eq_ok_iff.1 h
    obtain ⟨hdenotes, hbelow, habove⟩ := read_eq_ok_iff.1 hi
    cases h
    rwa [Int64.toInt_ofInt_of_le (by omega) (by omega)]
  · intro h
    rw [readInt64, read_eq_ok_iff.2 ⟨h, by omega, by omega⟩]
    exact congrArg Except.ok (Int64.ofInt_toInt n)

lemma readInt64_decimalInt (i : Int64) : readInt64 (Text.decimalInt i.toInt) = .ok i :=
  readInt64_eq_ok_iff.2 (denotes_decimalInt _)

end Whole

end EntityQuery
