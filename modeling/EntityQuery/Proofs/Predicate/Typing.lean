import EntityQuery.Predicate
import EntityQuery.Proofs.Schema.Conformity
import EntityQuery.Proofs.Schema.Names

/-!
Compiled predicates are well typed: their fields are declared, their constants are admitted by these
fields, larger and smaller are only asked of ordered kinds, and only text is searched for text. Main
statement: `wellTyped_of_compiled`.
-/

namespace EntityQuery

variable {E : Type}

/-- Whether a comparison asks for larger or smaller. -/
def Comparison.asksOrder : Comparison → Bool
  | .equal | .notEqual => false
  | .greater | .greaterOrEqual | .less | .lessOrEqual => true

namespace Predicate

/-- A predicate made of filters and filter lists by connectives. -/
inductive Compiled (s : Schema E) : Predicate → Prop where
  | filter {filter : Filter} {p : Predicate} (h : ofFilter s filter = .ok p) : Compiled s p
  | list {list : FilterList} {p : Predicate} (h : ofList s list = .ok p) : Compiled s p
  | and {p q : Predicate} (hp : Compiled s p) (hq : Compiled s q) : Compiled s (.and p q)
  | or {p q : Predicate} (hp : Compiled s p) (hq : Compiled s q) : Compiled s (.or p q)

/-- A predicate fits the fields of a schema. -/
def WellTyped (s : Schema E) : Predicate → Prop
  | .compare f op v =>
    s.Declares f ∧ (s.typeOf f).admits v ∧ (op.asksOrder → (s.typeOf f).kind.isOrdered)
  | .contains f _ => s.Declares f ∧ (s.typeOf f).kind = .text
  | .isNull f | .isNotNull f => s.Declares f
  | .and p q | .or p q => p.WellTyped s ∧ q.WellTyped s

/-- The constants of a predicate from left to right. -/
def constants : Predicate → List Value
  | .compare _ _ v => [v]
  | .contains .. | .isNull _ | .isNotNull _ => []
  | .and p q | .or p q => p.constants ++ q.constants

/-! ### Compilation -/

variable {s : Schema E}

lemma wellTyped_of_comparing {f : FieldRef} {op : Comparison} {literal : Option String}
    {p : Predicate} (hf : s.Declares f) (hop : op.asksOrder → (s.typeOf f).kind.isOrdered)
    (h : comparing f (s.typeOf f) op literal = .ok p) : p.WellTyped s := by
  obtain ⟨v, hv, rfl⟩ := Result.map_eq_ok_iff.1 h
  exact ⟨hf, Literal.admits_of_coerce hv, hop⟩

lemma wellTyped_of_ofFilter {filter : Filter} {p : Predicate} (h : ofFilter s filter = .ok p) :
    p.WellTyped s := by
  obtain ⟨f, hf, h⟩ := Result.bind_eq_ok_iff.1 h
  have hdeclares := Schema.declares_of_resolve hf
  simp only at h
  split at h
  · rename_i hsupports
    cases hop : filter.operator with
    | isNull | isNotNull =>
      rw [hop] at h
      cases h
      exact hdeclares
    | contains =>
      rw [hop] at h hsupports
      simp only [build] at h
      split at h <;> cases h
      exact ⟨hdeclares, by simpa [supports] using hsupports⟩
    | equal | notEqual =>
      rw [hop] at h
      exact wellTyped_of_comparing hdeclares (fun hasks => by cases hasks) h
    | greaterThan | greaterThanOrEqual | lessThan | lessThanOrEqual =>
      rw [hop] at h hsupports
      exact wellTyped_of_comparing hdeclares (fun _ => hsupports) h
  · cases h

lemma wellTyped_join {c : Connective} {p q : Predicate} (hp : p.WellTyped s)
    (hq : q.WellTyped s) : (join c p q).WellTyped s := by
  cases c <;> exact ⟨hp, hq⟩

lemma wellTyped_of_foldlM {c : Connective} {filters : List Filter} {p q : Predicate}
    (hp : p.WellTyped s)
    (h : filters.foldlM (fun p filter => join c p <$> ofFilter s filter) p = .ok q) :
    q.WellTyped s := by
  refine Result.foldlM_induction h hp ?_
  intro before filter next hbefore hnext
  obtain ⟨last, hlast, rfl⟩ := Result.map_eq_ok_iff.1 hnext
  exact wellTyped_join hbefore (wellTyped_of_ofFilter hlast)

lemma wellTyped_of_ofList {list : FilterList} {p : Predicate} (h : ofList s list = .ok p) :
    p.WellTyped s := by
  unfold ofList at h
  split at h
  · cases h
  · obtain ⟨first, hfirst, h⟩ := Result.bind_eq_ok_iff.1 h
    exact wellTyped_of_foldlM (wellTyped_of_ofFilter hfirst) h

/-- **Compiled predicates are well typed.** -/
theorem wellTyped_of_compiled {p : Predicate} (h : Compiled s p) : p.WellTyped s := by
  induction h with
  | filter h => exact wellTyped_of_ofFilter h
  | list h => exact wellTyped_of_ofList h
  | and _ _ ihp ihq => exact ⟨ihp, ihq⟩
  | or _ _ ihp ihq => exact ⟨ihp, ihq⟩

end Predicate

end EntityQuery
