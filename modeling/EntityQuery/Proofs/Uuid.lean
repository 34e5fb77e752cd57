import EntityQuery.Proofs.Text.Blanks
import EntityQuery.Proofs.Text.Utf8
import EntityQuery.Uuid
import Mathlib.Algebra.Group.Nat.Defs
import Mathlib.Tactic.Common

/-!
Identifiers and their texts. The grouped text of an identifier reads back as this identifier, with
or without the blanks around it removed, and identifiers compare as their texts. Main statements:
`read_text` and `compare_text`.
-/

namespace EntityQuery

namespace Text

lemma hexDigit?_hexDigit {n : ℕ} (h : n < 16) : hexDigit? (hexDigit n) = some n := by
  revert n
  decide

lemma isBlank_hexDigit {n : ℕ} (h : n < 16) : isBlank (hexDigit n) = false := by
  revert n
  decide

lemma length_bytes_hexDigit {n : ℕ} (h : n < 16) : (bytes [hexDigit n]).length = 1 := by
  revert n
  decide

lemma compare_bytes_hexDigit :
    ∀ m < 16, ∀ n < 16, compare (bytes [hexDigit m]) (bytes [hexDigit n]) = compare m n := by
  decide

lemma hexDigit_ne {n : ℕ} (h : n < 16) : hexDigit n ≠ '\x7b' ∧ hexDigit n ≠ 'u' := by
  revert n
  decide

end Text

namespace Uuid

lemma compare_eq_iff {u v : Uuid} : compare u v = .eq ↔ u = v := by
  show compare u.bits.toNat v.bits.toNat = .eq ↔ u = v
  rw [Nat.compare_eq_eq, BitVec.toNat_inj]
  constructor
  · intro h
    cases u
    cases v
    simpa using h
  · rintro rfl
    rfl

/-! ### Digits -/

lemma length_hexDigits (count n : ℕ) : (hexDigits count n).length = count := by
  induction count generalizing n with
  | zero => rfl
  | succ count ih => rw [hexDigits, List.length_append, ih, List.length_singleton]

lemma exists_of_mem_hexDigits {count n : ℕ} {c : Char} (h : c ∈ hexDigits count n) :
    ∃ d < 16, c = Text.hexDigit d := by
  induction count generalizing n with
  | zero => cases h
  | succ count ih =>
    rw [hexDigits, List.mem_append, List.mem_singleton] at h
    rcases h with h | h
    · exact ih h
    · exact ⟨n % 16, Nat.mod_lt _ (by decide), h⟩

lemma hexDigits_add (a b n : ℕ) :
    hexDigits (a + b) n = hexDigits a (n >>> (4 * b)) ++ hexDigits b n := by
  induction b generalizing n with
  | zero => simp [hexDigits]
  | succ b ih =>
    have shift : (n / 16) >>> (4 * b) = n >>> (4 * (b + 1)) := by
      rw [Nat.mul_succ, Nat.add_comm, Nat.shiftRight_add, Nat.shiftRight_eq_div_pow n]
    rw [← Nat.add_assoc, hexDigits, hexDigits, ih, shift, List.append_assoc]

lemma hexDigits_groups (n : ℕ) :
    hexDigits 8 (n >>> 96) ++ hexDigits 4 (n >>> 80) ++ hexDigits 4 (n >>> 64) ++
      hexDigits 4 (n >>> 48) ++ hexDigits 12 n = hexDigits 32 n := by
  rw [hexDigits_add 20 12, hexDigits_add 16 4, hexDigits_add 12 4]
  simp only [← Nat.shiftRight_add, Nat.reduceMul, Nat.reduceAdd]
  rw [hexDigits_add 8 4 (n >>> 80), ← Nat.shiftRight_add]

lemma hexValue?_append (acc : ℕ) (xs ys : List Char) :
    hexValue? acc (xs ++ ys) = (hexValue? acc xs).bind fun n => hexValue? n ys := by
  induction xs generalizing acc with
  | nil => rfl
  | cons x xs ih =>
    rw [List.cons_append, hexValue?, hexValue?]
    cases Text.hexDigit? x with
    | none => rfl
    | some d => exact ih _

lemma hexValue?_hexDigits (acc count n : ℕ) :
    hexValue? acc (hexDigits count n) = some (acc * Nat.pow 16 count + n % Nat.pow 16 count) := by
  simp only [Nat.pow_eq]
  induction count generalizing n with
  | zero => simp [hexDigits, hexValue?, Nat.mod_one]
  | succ count ih =>
    have digit : Text.hexDigit? (Text.hexDigit (n % 16)) = some (n % 16) :=
      Text.hexDigit?_hexDigit (Nat.mod_lt _ (by decide))
    rw [hexDigits, hexValue?_append, ih, Option.bind_some, hexValue?, digit, Option.bind_some,
      hexValue?, Nat.pow_succ', Nat.mod_mul, Nat.mul_left_comm acc]
    congr 1
    omega

/-! ### Reading -/

lemma grouped?_append {as bs cs ds es : List Char} (ha : as.length = 8) (hb : bs.length = 4)
    (hc : cs.length = 4) (hd : ds.length = 4) (he : es.length = 12) :
    grouped? (as ++ '-' :: bs ++ '-' :: cs ++ '-' :: ds ++ '-' :: es) =
      hexValue? 0 (as ++ bs ++ cs ++ ds ++ es) := by
  have drop_nil : ∀ {l : List Char} {n k : ℕ}, l.length = n → n ≤ k → l.drop k = [] :=
    fun hl hk => List.drop_eq_nil_of_le (hl ▸ hk)
  unfold grouped?
  rw [if_pos]
  · simp [List.drop_append, ha, hb, hc, hd, drop_nil ha, drop_nil hb,
      drop_nil hc, drop_nil hd]
  · simp [hyphenPlaces, List.getElem?_append, ha, hb, hc, hd, he]

lemma toChars_eq (u : Uuid) :
    ∃ as bs cs ds es, u.toChars = as ++ '-' :: bs ++ '-' :: cs ++ '-' :: ds ++ '-' :: es ∧
      (as.length = 8 ∧ bs.length = 4 ∧ cs.length = 4 ∧ ds.length = 4 ∧ es.length = 12) ∧
      as ++ bs ++ cs ++ ds ++ es = hexDigits 32 u.bits.toNat := by
  refine ⟨_, _, _, _, _, rfl, ?_, ?_⟩
  · simp only [length_hexDigits, and_self]
  · exact hexDigits_groups _

lemma exists_of_mem_toChars {u : Uuid} {c : Char} (h : c ∈ u.toChars) :
    c = '-' ∨ ∃ d < 16, c = Text.hexDigit d := by
  simp only [toChars, List.mem_append, List.mem_cons] at h
  rcases h with (((h | h | h) | h | h) | h | h) | h | h
  all_goals first
    | exact Or.inl h
    | exact Or.inr (exists_of_mem_hexDigits h)

lemma wrapped?_toChars (u : Uuid) : wrapped? u.toChars = none := by
  obtain ⟨as, bs, cs, ds, es, h, ⟨ha, -⟩, hdigits⟩ := toChars_eq u
  obtain ⟨a, as, rfl⟩ := List.exists_cons_of_length_eq_add_one ha
  have hmem : a ∈ hexDigits 32 u.bits.toNat := by simp [← hdigits]
  obtain ⟨d, hd, rfl⟩ := exists_of_mem_hexDigits hmem
  obtain ⟨hbrace, hurn⟩ := Text.hexDigit_ne hd
  have inside : insideBraces? u.toChars = none := by
    rw [h, List.cons_append, List.cons_append, List.cons_append, List.cons_append, insideBraces?]
    simpa using hbrace
  have after : afterUrn? u.toChars = none := by
    rw [h, afterUrn?]
    exact if_neg fun heq => hurn (beq_iff_eq.1 heq).symm
  rw [wrapped?, inside, after]
  rfl

lemma value?_toChars (u : Uuid) : value? u.toChars = some u.bits.toNat := by
  have hwrapped := wrapped?_toChars u
  obtain ⟨as, bs, cs, ds, es, h, ⟨ha, hb, hc, hd, he⟩, hdigits⟩ := toChars_eq u
  have hlength : u.toChars.length = 36 := by simp [h, ha, hb, hc, hd, he]
  have hlt : u.bits.toNat < 16 ^ 32 := u.bits.isLt
  rw [value?, if_neg (by omega), hwrapped]
  simp only
  rw [h, grouped?_append ha hb hc hd he, hdigits, hexValue?_hexDigits, Nat.pow_eq,
    Nat.mod_eq_of_lt hlt, Nat.zero_mul, Nat.zero_add]

/-- **The text of an identifier is read as this identifier.** -/
theorem read_text (u : Uuid) : read u.text = .ok u := by
  rw [read, text, String.toList_ofList, value?_toChars]
  simp

lemma hasNoBlank_toChars (u : Uuid) : Text.HasNoBlank u.toChars := by
  intro c hc
  rcases exists_of_mem_toChars hc with rfl | ⟨d, hd, rfl⟩
  · rfl
  · exact Text.isBlank_hexDigit hd

lemma trimChars_text (u : Uuid) : Text.trimChars u.text.toList = u.text.toList := by
  rw [text, String.toList_ofList]
  exact Text.trimChars_eq_self u.hasNoBlank_toChars

/-! ### Order -/

lemma length_bytes_hexDigits (count n : ℕ) : (Text.bytes (hexDigits count n)).length = count := by
  induction count generalizing n with
  | zero => rfl
  | succ count ih =>
    rw [hexDigits, Text.bytes_append, List.length_append, ih,
      Text.length_bytes_hexDigit (Nat.mod_lt _ (by decide))]

lemma compare_hexDigits {count m n : ℕ} (hm : m < 16 ^ count) (hn : n < 16 ^ count) :
    compare (Text.bytes (hexDigits count m)) (Text.bytes (hexDigits count n)) = compare m n := by
  induction count generalizing m n with
  | zero =>
    obtain rfl : m = 0 := by simpa using hm
    obtain rfl : n = 0 := by simpa using hn
    rfl
  | succ count ih =>
    rw [Nat.pow_succ, Nat.mul_comm] at hm hn
    rw [hexDigits, hexDigits, Text.bytes_append, Text.bytes_append,
      Text.compare_append (by rw [length_bytes_hexDigits, length_bytes_hexDigits]),
      ih (Nat.div_lt_of_lt_mul hm) (Nat.div_lt_of_lt_mul hn),
      Text.compare_bytes_hexDigit _ (Nat.mod_lt _ (by decide)) _ (Nat.mod_lt _ (by decide)),
      Text.compare_div_then (by decide)]

/-- **Identifiers compare as their texts**: the hyphens stand in the same places. -/
theorem compare_text (u v : Uuid) : compare u.text v.text = compare u v := by
  have hlt (w : Uuid) : w.bits.toNat < 16 ^ 32 := w.bits.isLt
  have hdigits := compare_hexDigits (hlt u) (hlt v)
  rw [← hexDigits_groups, ← hexDigits_groups] at hdigits
  rw [← Text.compare_bytes, text, text, String.toList_ofList, String.toList_ofList]
  refine Eq.trans ?_ hdigits
  simp only [toChars, ← List.singleton_append (l := hexDigits _ _), Text.bytes_append]
  simp (disch := simp only [List.length_append, length_bytes_hexDigits]) only
    [Text.compare_append, Std.ReflOrd.compare_self, Ordering.eq_then, Ordering.then_assoc]

end Uuid

end EntityQuery
