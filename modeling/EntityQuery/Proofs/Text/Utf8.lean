import EntityQuery.Text.Ascii
import Mathlib.Tactic.Common

/-!
UTF-8 keeps the order: two texts compare as their bytes do. Of two different characters the smaller
one has the smaller byte at the first place where their bytes differ, so what follows them does not
matter. Main statement: `compare_bytes`.
-/

namespace EntityQuery.Text

lemma compare_ofNat_cons {m n : ℕ} {xs ys : List UInt8} (hm : m < 256) (hn : n < 256)
    (h : m < n ∨ m = n ∧ compare xs ys = .lt) :
    compare (UInt8.ofNat m :: xs) (UInt8.ofNat n :: ys) = .lt := by
  rw [List.compare_cons_cons, Ordering.then_eq_lt]
  rcases h with h | ⟨rfl, h⟩
  · left
    have hlt : UInt8.ofNat m < UInt8.ofNat n := by
      rw [UInt8.lt_iff_toNat_lt, UInt8.toNat_ofNat', UInt8.toNat_ofNat', Nat.mod_eq_of_lt hm,
        Nat.mod_eq_of_lt hn]
      exact h
    exact if_pos hlt
  · exact Or.inr ⟨Std.ReflOrd.compare_self, h⟩

lemma compare_utf8EncodeChar_append {c d : Char} (h : c < d) (xs ys : List UInt8) :
    compare (String.utf8EncodeChar c ++ xs) (String.utf8EncodeChar d ++ ys) = .lt := by
  have hlt : c.val.toNat < d.val.toNat := h
  have hc : c.val.toNat < 0x110000 := by rcases c.valid with hv | ⟨-, hv⟩ <;> omega
  have hd : d.val.toNat < 0x110000 := by rcases d.valid with hv | ⟨-, hv⟩ <;> omega
  unfold String.utf8EncodeChar
  generalize c.val.toNat = m at *
  generalize d.val.toNat = n at *
  simp only
  split_ifs
  -- of different lengths: the first byte tells
  all_goals try omega
  all_goals try (refine compare_ofNat_cons ?_ ?_ (Or.inl ?_) <;> omega)
  · refine compare_ofNat_cons (by omega) (by omega) ?_
    by_cases h₁ : m / 64 = n / 64
    · exact Or.inr ⟨by omega, compare_ofNat_cons (by omega) (by omega) (Or.inl (by omega))⟩
    · exact Or.inl (by omega)
  · refine compare_ofNat_cons (by omega) (by omega) ?_
    by_cases h₁ : m / 4096 = n / 4096
    · refine Or.inr ⟨by omega, compare_ofNat_cons (by omega) (by omega) ?_⟩
      by_cases h₂ : m / 64 = n / 64
      · exact Or.inr ⟨by omega, compare_ofNat_cons (by omega) (by omega) (Or.inl (by omega))⟩
      · exact Or.inl (by omega)
    · exact Or.inl (by omega)
  · refine compare_ofNat_cons (by omega) (by omega) ?_
    by_cases h₁ : m / 262144 = n / 262144
    · refine Or.inr ⟨by omega, compare_ofNat_cons (by omega) (by omega) ?_⟩
      by_cases h₂ : m / 4096 = n / 4096
      · refine Or.inr ⟨by omega, compare_ofNat_cons (by omega) (by omega) ?_⟩
        by_cases h₃ : m / 64 = n / 64
        · exact Or.inr ⟨by omega, compare_ofNat_cons (by omega) (by omega) (Or.inl (by omega))⟩
        · exact Or.inl (by omega)
      · exact Or.inl (by omega)
    · exact Or.inl (by omega)

/-- What begins with as many bytes is compared there before it is compared in the rest. -/
lemma compare_append {xs xs' : List UInt8} (h : xs.length = xs'.length) (ys ys' : List UInt8) :
    compare (xs ++ ys) (xs' ++ ys') = (compare xs xs').then (compare ys ys') := by
  induction xs generalizing xs' with
  | nil =>
    cases xs' with
    | nil => rfl
    | cons x' xs' => cases h
  | cons x xs ih =>
    cases xs' with
    | nil => cases h
    | cons x' xs' =>
      simp only [List.cons_append, List.compare_cons_cons, Ordering.then_assoc,
        ih (Nat.succ.inj h)]

lemma bytes_append (cs ds : List Char) : bytes (cs ++ ds) = bytes cs ++ bytes ds :=
  List.flatMap_append

lemma bytes_cons (c : Char) (cs : List Char) :
    bytes (c :: cs) = String.utf8EncodeChar c ++ bytes cs := rfl

lemma compare_bytes_cons (c : Char) (cs ds : List Char) :
    compare (bytes (c :: cs)) (bytes (c :: ds)) = compare (bytes cs) (bytes ds) := by
  rw [bytes_cons, bytes_cons, compare_append rfl, Std.ReflOrd.compare_self, Ordering.eq_then]

lemma compare_bytes_of_lt {cs ds : List Char} (h : cs < ds) :
    compare (bytes cs) (bytes ds) = .lt := by
  induction cs generalizing ds with
  | nil =>
    cases ds with
    | nil => exact absurd h (List.lt_irrefl _)
    | cons d ds =>
      rw [bytes_cons]
      cases hd : String.utf8EncodeChar d with
      | nil => exact absurd hd String.utf8EncodeChar_ne_nil
      | cons b bs => rfl
  | cons c cs ih =>
    cases ds with
    | nil => exact absurd h (List.not_lt_nil _)
    | cons d ds =>
      rcases List.cons_lt_cons_iff.1 h with hlt | ⟨rfl, hlt⟩
      · exact compare_utf8EncodeChar_append hlt _ _
      · rw [compare_bytes_cons, ih hlt]

/-- **Texts compare as their bytes do.** -/
theorem compare_bytes (s t : String) :
    compare (bytes s.toList) (bytes t.toList) = compare s t := by
  rcases Std.lt_trichotomy s t with h | rfl | h
  · rw [compare_bytes_of_lt h]
    exact (if_pos h).symm
  · rw [Std.ReflOrd.compare_self, Std.ReflOrd.compare_self]
  · rw [Std.OrientedOrd.eq_swap, compare_bytes_of_lt h, Std.OrientedOrd.eq_swap (a := s)]
    exact congrArg Ordering.swap (if_pos h).symm

lemma bytes_injective : Function.Injective bytes := by
  intro cs ds h
  have hcompare := compare_bytes (String.ofList cs) (String.ofList ds)
  rw [String.toList_ofList, String.toList_ofList, h, Std.ReflOrd.compare_self] at hcompare
  exact String.ofList_injective (Std.LawfulEqOrd.eq_of_compare hcompare.symm)

end EntityQuery.Text
