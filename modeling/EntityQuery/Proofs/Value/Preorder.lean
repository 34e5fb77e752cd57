import EntityQuery.Proofs.Value.Order

/-!
Where sorting goes by a total preorder. NaN ties with every number, and numbers do not all tie with
each other; so the values that a field may hold are totally preordered exactly if NaN is not among
them, or all but null tie. Main statement: `preorders_iff`.
-/

namespace EntityQuery.Value

/-- Sorting orders the values of some sort: two of them compare the other way around when they
change places, and neither the order nor the ties have gaps. -/
structure Preorders (P : Value → Prop) : Prop where
  swap : ∀ a b, P a → P b → b.sortCompare a = (a.sortCompare b).swap
  trans : ∀ a b c, P a → P b → P c → (a.sortCompare b).isLE → (b.sortCompare c).isLE →
    (a.sortCompare c).isLE
  ties : ∀ a b c, P a → P b → P c → a.sortCompare b = .eq → b.sortCompare c = .eq →
    a.sortCompare c = .eq

variable {P : Value → Prop}

lemma preorders_of_trans (h : ∀ a b c, P a → P b → P c → (a.sortCompare b).isLE →
    (b.sortCompare c).isLE → (a.sortCompare c).isLE) : Preorders P where
  swap := fun a b _ _ => sortCompare_swap a b
  trans := h
  ties := by
    intro a b c ha hb hc hab hbc
    have hac := h a b c ha hb hc (by rw [hab]; rfl) (by rw [hbc]; rfl)
    have hca := h c b a hc hb ha (by rw [sortCompare_swap b c, hbc]; rfl)
      (by rw [sortCompare_swap a b, hab]; rfl)
    rw [sortCompare_swap a c] at hca
    exact Ordering.eq_eq_of_isLE_of_isLE_swap hac hca

lemma isLE_of_isNull {a : Value} (ha : a.isNull) (b : Value) : (a.sortCompare b).isLE := by
  unfold sortCompare
  rw [ha]
  cases b.isNull <;> rfl

lemma compare?_of_isNaN {n : Value} (hn : n.isNaN) (a : Value) : a.compare? n = none := by
  cases n with
  | float x =>
    have hx : x.isNaN = true := hn
    cases a with
    | float y => simp [compare?, Binary64.compare?, hx]
    | _ => rfl
  | _ => cases hn

lemma sortCompare_of_isNaN {a n : Value} (hn : n.isNaN) (ha : a.isNull = false) :
    a.sortCompare n = .eq := by
  have hnull : n.isNull = false := by
    cases n with
    | float => rfl
    | _ => cases hn
  rw [sortCompare, ha, hnull]
  simp only [compare?_of_isNaN hn, Option.getD_none]

/-- **Sorting goes by a total preorder exactly if NaN does not occur or nothing differs**: of the
values that fit a type, those of some sort are totally preordered if and only if NaN is not among
them, or any two of them other than null tie. -/
theorem preorders_iff {t : FieldType} (hP : ∀ v, P v → t.admits v) :
    Preorders P ↔ (∀ v, P v → v.isNaN = false) ∨
      ∀ a b, P a → P b → a.isNull = false → b.isNull = false → a.sortCompare b = .eq := by
  constructor
  · intro h
    by_cases hnan : ∀ v, P v → v.isNaN = false
    · exact .inl hnan
    · push Not at hnan
      obtain ⟨n, hn, hnan⟩ := hnan
      rw [ne_eq, Bool.not_eq_false] at hnan
      -- everything ties by way of NaN
      refine .inr fun a b ha hb hnulla hnullb => ?_
      refine h.ties a n b ha hn hb (sortCompare_of_isNaN hnan hnulla) ?_
      rw [sortCompare_swap b n, sortCompare_of_isNaN hnan hnullb]
      rfl
  · rintro (hnan | hties)
    · exact preorders_of_trans fun a b c ha hb hc =>
        sortCompare_trans (hP a ha) (hP b hb) (hP c hc) (hnan a ha) (hnan b hb) (hnan c hc)
    · refine preorders_of_trans fun a b c ha hb hc hab hbc => ?_
      by_cases hnulla : a.isNull
      · exact isLE_of_isNull hnulla c
      · have hnullc : ¬ c.isNull := fun hnullc =>
          hnulla (isNull_of_sortCompare hab (isNull_of_sortCompare hbc hnullc))
        rw [hties a c ha hc (Bool.eq_false_iff.2 hnulla) (Bool.eq_false_iff.2 hnullc)]
        rfl

/-- Null, both zeros, 2 and infinity are totally preordered; with NaN they no longer are. -/
theorem preorders_of_numbers :
    let t : FieldType := .optional .float
    let numbers : List Value := [.null, .float ⟨0x8000000000000000⟩, .float ⟨0⟩,
      .float ⟨0x4000000000000000⟩, .float (.infinity false)]
    (∀ v ∈ numbers, t.admits v) ∧ Preorders (· ∈ numbers) ∧
      (∀ v ∈ .float .nan :: numbers, t.admits v) ∧
      ¬ Preorders (· ∈ .float .nan :: numbers) := by
  intro t numbers
  have fit : ∀ v ∈ numbers, t.admits v := by
    simp only [numbers, List.mem_cons, List.not_mem_nil, or_false, forall_eq_or_imp, forall_eq]
    decide
  have fit' : ∀ v ∈ .float .nan :: numbers, t.admits v := List.forall_mem_cons.2 ⟨rfl, fit⟩
  refine ⟨fit, (preorders_iff fit).2 (.inl ?_), fit', fun h => ?_⟩
  · simp only [numbers, List.mem_cons, List.not_mem_nil, or_false, forall_eq_or_imp, forall_eq]
    decide
  · rcases (preorders_iff fit').1 h with hnan | hties
    · cases hnan _ List.mem_cons_self
    · have hsame := hties (.float ⟨0⟩) (.float ⟨0x4000000000000000⟩) (by simp [numbers])
        (by simp [numbers]) rfl rfl
      cases hsame

/-- What a field for floats may hold is not totally preordered: infinity ties with NaN and NaN with
0, but infinity does not tie with 0. -/
theorem not_preorders_of_floats :
    let t : FieldType := .required .float
    let infinite : Value := .float (.infinity false)
    let nan : Value := .float .nan
    let zero : Value := .float ⟨0⟩
    Literal.coerce t (some "inf") = .ok infinite ∧ Literal.coerce t (some "nan") = .ok nan ∧
      Literal.coerce t (some "0") = .ok zero ∧ infinite.sortCompare nan = .eq ∧
      nan.sortCompare zero = .eq ∧ infinite.sortCompare zero = .gt ∧
      ¬ Preorders fun v => t.admits v := by
  intro t infinite nan zero
  have left : infinite.sortCompare nan = .eq := rfl
  have right : nan.sortCompare zero = .eq := rfl
  refine ⟨rfl, rfl, rfl, left, right, rfl, fun h => ?_⟩
  cases h.ties infinite nan zero rfl rfl rfl left right

end EntityQuery.Value
