import EntityQuery.Arrangement
import EntityQuery.Proofs.Value.Order

/-!
Sorting. Whatever the order, sorting only rearranges; and where it is transitive, what was sorted
rises, and entities that tie stay as they stood. Main statements: `sort_perm`, `pairwise_sort` and
`filter_sort`.
-/

namespace EntityQuery.SortKey

variable {E : Type} (s : Schema E) (k : SortKey)

/-! ### Rearrangement -/

lemma place_perm (e : E) (es : List E) : (place s k e es).Perm (e :: es) := by
  induction es with
  | nil => exact .refl _
  | cons top rest ih =>
    unfold place
    split
    · exact (ih.cons top).trans (.swap e top rest)
    · exact .refl _

lemma forall_mem_place {P : E → Prop} {e : E} {es : List E} (he : P e) (hes : ∀ a ∈ es, P a) :
    ∀ a ∈ place s k e es, P a := fun a ha => by
  rcases List.mem_cons.1 ((place_perm s k e es).mem_iff.1 ha) with rfl | ha
  · exact he
  · exact hes a ha

/-- **A sorted list has the same entities**, each as often. -/
theorem sort_perm (es : List E) : (k.sort s es).Perm es := by
  have hfold (sorted : List E) :
      (es.foldl (fun sorted e => place s k e sorted) sorted).Perm (es.reverse ++ sorted) := by
    induction es generalizing sorted with
    | nil => exact .refl _
    | cons e es ih =>
      rw [List.foldl_cons, List.reverse_cons, List.append_assoc]
      exact (ih _).trans ((place_perm s k e sorted).append_left _)
  have hsorted := hfold []
  rw [List.append_nil] at hsorted
  exact (List.reverse_perm _).trans (hsorted.trans (List.reverse_perm es))

lemma sort_map {f : E → E} {es : List E}
    (h : ∀ e ∈ es, s.read (f e) k.field = s.read e k.field) :
    k.sort s (es.map f) = (k.sort s es).map f := by
  have hplace {e : E} (he : s.read (f e) k.field = s.read e k.field) (sorted : List E)
      (hsorted : ∀ a ∈ sorted, s.read (f a) k.field = s.read a k.field) :
      place s k (f e) (sorted.map f) = (place s k e sorted).map f := by
    induction sorted with
    | nil => rfl
    | cons top rest ih =>
      rw [List.forall_mem_cons] at hsorted
      have hcompare : k.compare s (f e) (f top) = k.compare s e top := by
        rw [compare, he, hsorted.1, compare]
      rw [List.map_cons, place, place, hcompare, ih hsorted.2]
      split <;> rfl
  have hfold (sorted : List E) (hsorted : ∀ a ∈ sorted, s.read (f a) k.field = s.read a k.field) :
      (es.map f).foldl (fun sorted e => place s k e sorted) (sorted.map f) =
        (es.foldl (fun sorted e => place s k e sorted) sorted).map f := by
    induction es generalizing sorted with
    | nil => rfl
    | cons e es ih =>
      rw [List.forall_mem_cons] at h
      rw [List.map_cons, List.foldl_cons, List.foldl_cons, hplace h.1 sorted hsorted]
      exact ih h.2 _ (forall_mem_place s k h.1 hsorted)
  have hempty := hfold [] (by simp)
  rw [List.map_nil] at hempty
  rw [sort, sort, hempty, List.map_reverse]

/-! ### Order -/

lemma compare_swap (a b : E) : k.compare s b a = (k.compare s a b).swap := by
  unfold compare
  rw [Value.sortCompare_swap (s.read a k.field)]
  cases k.direction <;> rfl

lemma compare_self (a : E) : k.compare s a a = .eq := by
  have hswap := compare_swap s k a a
  cases h : k.compare s a a <;> rw [h] at hswap <;> first
    | rfl
    | cases hswap

lemma eq_of_isLE {a b : E} (hab : (k.compare s a b).isLE) (hba : (k.compare s b a).isLE) :
    k.compare s a b = .eq := by
  rw [compare_swap s k a b] at hba
  exact Ordering.eq_eq_of_isLE_of_isLE_swap hab hba

/-- Of two entities in a row, the one without value stands first going up and last going down. -/
def PlacesNull (a b : E) : Prop :=
  match k.direction with
  | .ascending => (s.read b k.field).isNull → (s.read a k.field).isNull
  | .descending => (s.read a k.field).isNull → (s.read b k.field).isNull

variable {s k} in
lemma placesNull_of_isLE {a b : E} (h : (k.compare s a b).isLE) : k.PlacesNull s a b := by
  unfold compare at h
  unfold PlacesNull
  cases hdirection : k.direction with
  | ascending =>
    simp only [hdirection] at h
    exact Value.isNull_of_sortCompare h
  | descending =>
    simp only [hdirection, ← Value.sortCompare_swap] at h
    exact Value.isNull_of_sortCompare h

/-- The order of entities of some sort is transitive. -/
def Transitive (P : E → Prop) : Prop :=
  ∀ a b c, P a → P b → P c → (k.compare s a b).isLE → (k.compare s b c).isLE →
    (k.compare s a c).isLE

lemma transitive_of_admits {t : FieldType} :
    k.Transitive s fun e =>
      t.admits (s.read e k.field) ∧ (s.read e k.field).isNaN = false := by
  intro a b c ha hb hc hab hbc
  unfold compare at hab hbc ⊢
  cases hdirection : k.direction with
  | ascending =>
    simp only [hdirection] at hab hbc ⊢
    exact Value.sortCompare_trans ha.1 hb.1 hc.1 ha.2 hb.2 hc.2 hab hbc
  | descending =>
    simp only [hdirection, ← Value.sortCompare_swap] at hab hbc ⊢
    exact Value.sortCompare_trans hc.1 hb.1 ha.1 hc.2 hb.2 ha.2 hbc hab

section Transitive

variable {s k} {P : E → Prop} (h : k.Transitive s P)

include h

/-- What falls from its head still falls when an entity was placed. -/
lemma pairwise_place {e : E} {es : List E} (he : P e) (hes : ∀ a ∈ es, P a)
    (hfalls : es.Pairwise fun a b => (k.compare s b a).isLE) :
    (place s k e es).Pairwise fun a b => (k.compare s b a).isLE := by
  induction es with
  | nil => exact List.pairwise_singleton _ _
  | cons top rest ih =>
    rw [List.forall_mem_cons] at hes
    obtain ⟨htop, hrest⟩ := List.pairwise_cons.1 hfalls
    unfold place
    split
    · rename_i hlt
      refine List.pairwise_cons.2 ⟨fun b hb => ?_, ih hes.2 hrest⟩
      rcases List.mem_cons.1 ((place_perm s k e rest).mem_iff.1 hb) with rfl | hb
      · rw [beq_iff_eq.1 hlt]
        rfl
      · exact htop b hb
    · rename_i hge
      have hbelow : (k.compare s top e).isLE := by
        rw [compare_swap s k e top]
        cases ho : k.compare s e top <;> simp_all
      refine List.pairwise_cons.2 ⟨List.forall_mem_cons.2 ⟨hbelow, fun b hb => ?_⟩, hfalls⟩
      exact h b top e (hes.2 b hb) hes.1 he (htop b hb) hbelow

/-- **What was sorted rises**, if the order is transitive. -/
theorem pairwise_sort {es : List E} (hes : ∀ e ∈ es, P e) :
    (k.sort s es).Pairwise fun a b => (k.compare s a b).isLE := by
  have hfold (sorted : List E) (hsorted : ∀ a ∈ sorted, P a)
      (hfalls : sorted.Pairwise fun a b => (k.compare s b a).isLE) :
      (es.foldl (fun sorted e => place s k e sorted) sorted).Pairwise
        fun a b => (k.compare s b a).isLE := by
    induction es generalizing sorted with
    | nil => exact hfalls
    | cons e es ih =>
      rw [List.forall_mem_cons] at hes
      exact ih hes.2 _ (forall_mem_place s k hes.1 hsorted)
        (pairwise_place h hes.1 hsorted hfalls)
  exact List.pairwise_reverse.2 (hfold [] (by simp) .nil)

/-! ### Ties -/

lemma ne_eq_of_lt {a b e : E} (ha : P a) (hb : P b) (he : P e) (hab : k.compare s a b = .lt)
    (hea : k.compare s e a = .eq) : k.compare s e b ≠ .eq := by
  intro heb
  have hbe : (k.compare s b e).isLE := by
    rw [compare_swap s k e b, heb]
    rfl
  have hba := h b e a hb he ha hbe (by rw [hea]; rfl)
  rw [compare_swap s k a b, hab] at hba
  cases hba

/-- An entity is placed in front of all that tie with it. -/
lemma filter_place {a e : E} {es : List E} (ha : P a) (he : P e) (hes : ∀ b ∈ es, P b) :
    (place s k e es).filter (fun b => k.compare s a b == .eq) =
      (e :: es).filter fun b => k.compare s a b == .eq := by
  induction es with
  | nil => rfl
  | cons top rest ih =>
    rw [List.forall_mem_cons] at hes
    unfold place
    split
    · rename_i hlt
      rw [List.filter_cons, ih hes.2]
      by_cases hae : k.compare s a e = .eq
      · have htop := ne_eq_of_lt h he hes.1 ha (beq_iff_eq.1 hlt) hae
        simp [List.filter_cons, htop]
      · simp [List.filter_cons, hae]
    · rfl

/-- **Entities that tie stand in a sorted list as they stood before.** -/
theorem filter_sort {a : E} {es : List E} (ha : P a) (hes : ∀ e ∈ es, P e) :
    (k.sort s es).filter (fun b => k.compare s a b == .eq) =
      es.filter fun b => k.compare s a b == .eq := by
  have hfold (sorted : List E) (hsorted : ∀ b ∈ sorted, P b) :
      (es.foldl (fun sorted e => place s k e sorted) sorted).filter
          (fun b => k.compare s a b == .eq) =
        (es.reverse ++ sorted).filter fun b => k.compare s a b == .eq := by
    induction es generalizing sorted with
    | nil => rfl
    | cons e es ih =>
      rw [List.forall_mem_cons] at hes
      rw [List.foldl_cons, ih hes.2 _ (forall_mem_place s k hes.1 hsorted), List.filter_append,
        filter_place h ha hes.1 hsorted, ← List.filter_append, List.reverse_cons,
        List.append_assoc, List.singleton_append]
  rw [sort, List.filter_reverse, hfold [] (by simp), List.append_nil, List.filter_reverse,
    List.reverse_reverse]

end Transitive

end EntityQuery.SortKey
