import EntityQuery.Proofs.Text.Numerals
import EntityQuery.Text.Blank
import Mathlib.Data.List.TakeWhile

/-!
Blanks around a text. Trimming takes off whatever blanks are put around a text, and nothing from a
text that has none in it. Main statement: `trimChars_surrounded`.
-/

namespace EntityQuery.Text

/-- Nothing but blanks. -/
def IsBlanks (cs : List Char) : Prop := ∀ c ∈ cs, isBlank c

instance (cs : List Char) : Decidable (IsBlanks cs) :=
  decidable_of_iff (cs.all isBlank) List.all_eq_true

/-- No blank at all. -/
def HasNoBlank (cs : List Char) : Prop := ∀ c ∈ cs, isBlank c = false

/-- **Blanks around a text are taken off.** -/
theorem trimChars_surrounded {before after : List Char} (hbefore : IsBlanks before)
    (hafter : IsBlanks after) (cs : List Char) :
    trimChars (before ++ cs ++ after) = trimChars cs := by
  rw [trimChars, trimChars, trimStart, trimStart, List.append_assoc,
    List.dropWhile_append_of_pos hbefore, List.dropWhile_append]
  split
  · rename_i hempty
    rw [List.dropWhile_eq_nil_iff.2 hafter, List.isEmpty_iff.1 hempty]
  · rw [List.reverse_append,
      List.dropWhile_append_of_pos fun c hc => hafter c (List.mem_reverse.1 hc)]

lemma trimStart_append {cs : List Char} (h : HasNoBlank cs) (hne : cs ≠ []) (rest : List Char) :
    trimStart (cs ++ rest) = cs ++ rest := by
  obtain ⟨c, cs, rfl⟩ := List.exists_cons_of_ne_nil hne
  rw [List.cons_append, trimStart, List.dropWhile_cons, if_neg (by simp [h c])]

lemma trimStart_eq_self {cs : List Char} (h : HasNoBlank cs) : trimStart cs = cs := by
  by_cases hne : cs = []
  · rw [hne]
    rfl
  · simpa using trimStart_append h hne []

lemma trimChars_eq_self {cs : List Char} (h : HasNoBlank cs) : trimChars cs = cs := by
  have hback : trimStart cs.reverse = cs.reverse :=
    trimStart_eq_self fun c hc => h c (List.mem_reverse.1 hc)
  rw [trimStart] at hback
  rw [trimChars, trimStart_eq_self h, hback, List.reverse_reverse]

/-! ### Characters -/

lemma isBlank_of_lt {c : Char} (h : 32 < c.toNat) (h' : c.toNat < 128) : isBlank c = false := by
  simp only [isBlank, Bool.or_eq_false_iff, Bool.and_eq_false_iff, decide_eq_false_iff_not,
    beq_eq_false_iff_ne]
  omega

lemma isBlank_of_digit? {c : Char} (h : (digit? c).isSome) : isBlank c = false := by
  obtain ⟨d, hd⟩ := Option.isSome_iff_exists.1 h
  obtain ⟨hlt, hc⟩ := toNat_of_digit? hd
  exact isBlank_of_lt (by omega) (by omega)

lemma hasNoBlank_of_isNumeral {cs : List Char} (h : IsNumeral cs) : HasNoBlank cs :=
  fun c hc => isBlank_of_digit? (h c hc)

lemma hasNoBlank_padZeros (width n : ℕ) : HasNoBlank (padZeros width (decimalDigits n)) :=
  hasNoBlank_of_isNumeral (of_padZeros (isNumeral_decimalDigits n) width).1

end EntityQuery.Text
