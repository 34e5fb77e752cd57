import EntityQuery.Plan.Execution
import EntityQuery.Proofs.Plan.Sorting
import EntityQuery.Proofs.Schema.Includes

/-!
The execution of a plan in closed form. Whether entities are listed or one stands for each group,
the results are one page of entities that do not depend on the page, each made into a result by the
one projection that counts. Main statement: `execute_eq`.
-/

namespace EntityQuery

variable {E : Type}

/-! ### Pages -/

namespace Page

variable {α β : Type} (p : Page)

/-- A page of things that stand for others place by place. -/
lemma forall₂_apply {R : α → β → Prop} {as : List α} {bs : List β} (h : List.Forall₂ R as bs) :
    List.Forall₂ R (p.apply as) (p.apply bs) := by
  unfold apply
  split
  · exact List.forall₂_take _ (List.forall₂_drop _ h)
  · exact List.forall₂_drop _ h

lemma apply_map (f : α → β) (as : List α) : p.apply (as.map f) = (p.apply as).map f := by
  unfold apply
  split <;> simp only [List.map_drop, List.map_take]

lemma mem_of_mem_apply {a : α} {as : List α} (h : a ∈ p.apply as) : a ∈ as := by
  unfold apply at h
  split at h
  · exact List.mem_of_mem_drop (List.mem_of_mem_take h)
  · exact List.mem_of_mem_drop h

lemma apply_of_take {skip take : UInt32} (h : take ≠ 0) (as : List α) :
    apply ⟨skip, take⟩ as = (as.drop skip.toNat).take take.toNat := by
  rw [apply, limit?, if_neg h]

lemma apply_of_isUnbounded {p : Page} (h : p.isUnbounded) (as : List α) : p.apply as = as := by
  obtain ⟨skip, take⟩ := p
  simp only [isUnbounded, Bool.and_eq_true, beq_iff_eq] at h
  obtain ⟨rfl, rfl⟩ := h
  rfl

lemma capped_of_le {skip take : UInt32} {max : Option UInt32} (ht : take ≠ 0)
    (h : ∀ m ∈ max, take ≤ m) : capped ⟨skip, take⟩ max = ⟨skip, take⟩ := by
  cases max with
  | none => rfl
  | some m =>
    have hle : ¬ m < take := UInt32.not_lt.2 (h m rfl)
    simp [capped, ht, hle]

end Page

/-! ### Groups -/

namespace GroupKey

lemma add_ne_nil {key : Value} {e : E} {groups : List (Group E)}
    (h : ∀ g ∈ groups, g.members ≠ []) : ∀ g ∈ add key e groups, g.members ≠ [] := by
  induction groups with
  | nil => simp [add]
  | cons g rest ih =>
    rw [List.forall_mem_cons] at h
    unfold add
    split
    · simpa using h.2
    · exact List.forall_mem_cons.2 ⟨h.1, ih h.2⟩

lemma group_ne_nil (s : Schema E) (k : GroupKey) (es : List E) :
    ∀ g ∈ k.group s es, g.members ≠ [] := by
  have hfold (groups : List (Group E)) (h : ∀ g ∈ groups, g.members ≠ []) :
      ∀ g ∈ es.foldl (fun groups e => add (s.read e k.field) e groups) groups, g.members ≠ [] := by
    induction es generalizing groups with
    | nil => exact h
    | cons e es ih => exact ih _ (add_ne_nil h)
  exact hfold [] (by simp)

end GroupKey

namespace Representative

/-- The entity that stands for a group. -/
def first? (s : Schema E) (r : Representative) (g : Group E) : Option E :=
  (r.ordered s g.members).head?

lemma ordered_perm (s : Schema E) (r : Representative) (members : List E) :
    (r.ordered s members).Perm members := by
  unfold ordered
  split
  · exact SortKey.sort_perm s _ _
  · exact .refl _

lemma isSome_first? (s : Schema E) (r : Representative) {g : Group E} (h : g.members ≠ []) :
    (r.first? s g).isSome := by
  rw [first?, List.isSome_head?, ← List.length_pos_iff, (r.ordered_perm s _).length_eq,
    List.length_pos_iff]
  exact h

lemma mem_of_first? {s : Schema E} {r : Representative} {g : Group E} {e : E}
    (h : r.first? s g = some e) : e ∈ g.members :=
  (r.ordered_perm s _).mem_iff.1 (List.mem_of_mem_head? h)

lemma select_of_first? {s : Schema E} {r : Representative} {g : Group E} {e : E}
    (h : r.first? s g = some e) : r.select s g = some <$> Plan.present s r.projection e := by
  obtain ⟨rest, hordered⟩ := List.head?_eq_some_iff.1 h
  rw [select, hordered]
  cases hp : r.projection with
  | none => rfl
  | some p =>
    show (fun row => some (Hit.row row)) <$> p.apply s e = some <$> Hit.row <$> p.apply s e
    rw [Functor.map_map]

end Representative

/-! ### Plans -/

namespace Plan

/-- What no unloading takes from an entity, a plan finds in the entities it is about. -/
lemma forall_kept {s : Schema E} {P : E → Prop}
    (hunload : ∀ n ∈ s.navigations, ∀ e, P e → P (n.unload e)) {p : Plan} {es : List E}
    (hes : ∀ e ∈ es, P e) : ∀ e ∈ p.kept s es, P e := by
  intro e he
  obtain ⟨stored, hstored, rfl⟩ := List.mem_map.1 he
  exact Schema.unloadExcept_induction hunload _ (hes stored (List.mem_filter.1 hstored).1)

/-- The entities that the results are made of, those of all pages together. -/
def chosen (s : Schema E) (p : Plan) (es : List E) : List E :=
  match p.arrangement with
  | .sorted key => arrange s key (p.kept s es)
  | .grouped key r => (key.group s (p.kept s es)).filterMap (r.first? s)

/-- A group's result is made of the entity that stands for it, by the projection that counts. -/
lemma presentGroup_eq {s : Schema E} {p : Plan} {key : GroupKey} {r : Representative}
    (harrangement : p.arrangement = .grouped key r) {g : Group E} {e : E}
    (h : r.first? s g = some e) :
    presentGroup s r p.projection g = some <$> present s p.effectiveProjection e := by
  have heffective : p.effectiveProjection = (r.projection <|> p.projection) := by
    rw [effectiveProjection, harrangement]
  rw [presentGroup, Representative.select_of_first? h, heffective]
  cases r.projection with
  | none => rfl
  | some q =>
    show (some <$> Hit.row <$> q.apply s e >>= _) = some <$> Hit.row <$> q.apply s e
    cases q.apply s e <;> rfl

lemma forall₂_filterMap {β γ : Type} {f : β → Option γ} {bs : List β}
    (h : ∀ b ∈ bs, (f b).isSome) : List.Forall₂ (fun b c => f b = some c) bs (bs.filterMap f) := by
  induction bs with
  | nil => exact .nil
  | cons b bs ih =>
    rw [List.forall_mem_cons] at h
    obtain ⟨c, hc⟩ := Option.isSome_iff_exists.1 h.1
    rw [List.filterMap_cons_some hc]
    exact .cons hc (ih h.2)

lemma mapM_of_forall₂ {β γ δ ε : Type} {f : β → Except ε (Option δ)} {h : γ → Except ε δ}
    {bs : List β} {cs : List γ} (hrel : List.Forall₂ (fun b c => f b = some <$> h c) bs cs) :
    (fun hits => hits.filterMap id) <$> bs.mapM f = cs.mapM h := by
  induction hrel with
  | nil => rfl
  | @cons b c bs cs hstep hrel ih =>
    rw [List.mapM_cons, List.mapM_cons, hstep, ← ih]
    cases h c with
    | error e => rfl
    | ok x => cases bs.mapM f <;> rfl

/-- **The results of a valid plan are one page of the entities it chooses**, each reshaped by the
projection that counts. -/
theorem execute_eq (s : Schema E) {p : Plan} (hvalid : p.validate = .ok ()) (es : List E) :
    p.execute s es = (p.page.apply (p.chosen s es)).mapM (present s p.effectiveProjection) := by
  unfold execute
  rw [hvalid]
  cases harrangement : p.arrangement with
  | sorted key => simp only [chosen, effectiveProjection, harrangement]; rfl
  | grouped key r =>
    have hstands : List.Forall₂ (fun g e => r.first? s g = some e) (key.group s (p.kept s es))
        (p.chosen s es) := by
      rw [chosen, harrangement]
      exact forall₂_filterMap fun g hg => r.isSome_first? s (key.group_ne_nil s _ g hg)
    exact mapM_of_forall₂ ((p.page.forall₂_apply hstands).imp fun g e h =>
      presentGroup_eq harrangement h)

lemma validate_of_unprojected {p : Plan} (hp : p.effectiveProjection = none) :
    p.validate = .ok () := by
  unfold validate
  split
  · rfl
  · rename_i r harrangement
    rw [effectiveProjection, harrangement] at hp
    cases hr : r.projection with
    | none => rfl
    | some q => simp [hr] at hp

lemma execute_of_unprojected (s : Schema E) {p : Plan} (hp : p.effectiveProjection = none)
    (es : List E) : p.execute s es = .ok (p.page.apply ((p.chosen s es).map .entity)) := by
  rw [execute_eq s (validate_of_unprojected hp), hp, Page.apply_map]
  exact List.mapM_pure

end Plan

end EntityQuery
