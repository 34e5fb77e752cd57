import EntityQuery.Text.Ascii
import Mathlib.Tactic.Common

/-!
Decimal numbers. The digits that a number is written in are taken off the start of a text as a
whole, up to the first character that is no digit, and denote this number.
-/

namespace EntityQuery.Text

lemma toNat_of_digit? {c : Char} {d : ℕ} (h : digit? c = some d) : d < 10 ∧ c.toNat = 48 + d := by
  unfold digit? at h
  split at h
  · rename_i hc
    rw [Char.le_def, Char.le_def, UInt32.le_iff_toNat_le, UInt32.le_iff_toNat_le] at hc
    have hlo : 48 ≤ c.toNat := hc.1
    have hhi : c.toNat ≤ 57 := hc.2
    have hd : c.toNat - 48 = d := Option.some.inj h
    omega
  · cases h

lemma ne_sign_of_digit? {c : Char} (h : (digit? c).isSome) : c ≠ '-' ∧ c ≠ '+' := by
  constructor <;> rintro rfl <;> cases h

lemma digit?_digitChar {n : ℕ} (h : n < 10) : digit? n.digitChar = some n := by
  revert n
  decide

lemma isSome_digit?_of_mem_toDigits {n : ℕ} {c : Char} (h : c ∈ Nat.toDigits 10 n) :
    (digit? c).isSome := by
  induction n using Nat.strongRecOn with
  | ind n ih =>
    rw [Nat.toDigits_eq_if (by decide)] at h
    split at h
    · rename_i hlt
      rw [List.mem_singleton.1 h, digit?_digitChar hlt]
      rfl
    · rw [List.mem_append, List.mem_singleton] at h
      rcases h with h | rfl
      · exact ih (n / 10) (by omega) h
      · rw [digit?_digitChar (Nat.mod_lt _ (by decide))]
        rfl

lemma digitsValue_append (ds es : List ℕ) (before : ℕ) :
    digitsValue (ds ++ es) before = digitsValue es (digitsValue ds before) :=
  List.foldl_append

lemma digitsValue_toDigits (n : ℕ) :
    digitsValue ((Nat.toDigits 10 n).filterMap digit?) 0 = n := by
  induction n using Nat.strongRecOn with
  | ind n ih =>
    rw [Nat.toDigits_eq_if (by decide)]
    split
    · rename_i hlt
      simp [digit?_digitChar hlt, digitsValue]
    · have hlt : n % 10 < 10 := Nat.mod_lt _ (by decide)
      rw [List.filterMap_append, digitsValue_append, ih (n / 10) (by omega)]
      simp only [digit?_digitChar hlt, List.filterMap_cons, List.filterMap_nil, digitsValue,
        List.foldl_cons, List.foldl_nil]
      omega

lemma takeDigits_append {xs : List Char} (h : ∀ c ∈ xs, (digit? c).isSome) (ys : List Char) :
    takeDigits (xs ++ ys) = (xs.filterMap digit? ++ (takeDigits ys).1, (takeDigits ys).2) := by
  induction xs with
  | nil => rfl
  | cons x xs ih =>
    rw [List.forall_mem_cons] at h
    obtain ⟨d, hd⟩ := Option.isSome_iff_exists.1 h.1
    rw [List.cons_append, takeDigits]
    simp [hd, ih h.2]

lemma takeDigits_of_not_digit {cs : List Char} (h : ∀ c ∈ cs.head?, digit? c = none) :
    takeDigits cs = ([], cs) := by
  cases cs with
  | nil => rfl
  | cons c cs => simp [takeDigits, h c rfl]

end EntityQuery.Text
