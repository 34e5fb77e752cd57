import EntityQuery.Proofs.Literal.Typing
import EntityQuery.Proofs.Predicate.Combination
import EntityQuery.Proofs.Predicate.Typing

/-!
Constants of predicates. A comparison is compiled with what its literal becomes, so its constant is
a value of the field's type: of an entity that conforms to the schema only values of one kind are
compared, and null. Main statement: `sound_coerce`.
-/

namespace EntityQuery

variable {E : Type} {s : Schema E}

lemma FieldKind.kindName_eq {kind : FieldKind} {a b : Value} (ha : kind.admits a)
    (hb : kind.admits b) : a.kindName = b.kindName := by
  cases kind <;> cases a <;> cases ha <;> cases b <;> cases hb <;> rfl

namespace Predicate

/-- Something is true of every comparison in a predicate. -/
def Each (P : FieldRef → Comparison → Value → Prop) : Predicate → Prop
  | .compare f op v => P f op v
  | .contains .. | .isNull _ | .isNotNull _ => True
  | .and p q | .or p q => p.Each P ∧ q.Each P

variable {P : FieldRef → Comparison → Value → Prop} {p : Predicate}

lemma each_foldl_join {c : Connective} {ps : List Predicate} :
    (ps.foldl (join c) p).Each P ↔ ∀ q ∈ p :: ps, q.Each P := by
  induction ps generalizing p with
  | nil => simp
  | cons q ps ih =>
    have hjoin : (join c p q).Each P ↔ p.Each P ∧ q.Each P := by cases c <;> exact Iff.rfl
    rw [List.foldl_cons, ih, List.forall_mem_cons, hjoin, List.forall_mem_cons,
      List.forall_mem_cons, and_assoc]

section Compiling

variable (h : ∀ f op literal v, s.Declares f → Literal.coerce (s.typeOf f) literal = .ok v →
  P f op v)

include h

lemma each_of_comparing {f : FieldRef} {op : Comparison} {literal : Option String}
    (hf : s.Declares f) (hp : comparing f (s.typeOf f) op literal = .ok p) : p.Each P := by
  obtain ⟨v, hv, rfl⟩ := Result.map_eq_ok_iff.1 hp
  exact h f op literal v hf hv

lemma each_of_build {f : FieldRef} {literal : Option String} {op : Operator} (hf : s.Declares f)
    (hp : build f (s.typeOf f) literal op = .ok p) : p.Each P := by
  cases op with
  | isNull | isNotNull =>
    cases hp
    trivial
  | contains =>
    simp only [build] at hp
    split at hp <;> cases hp
    trivial
  | equal | notEqual | greaterThan | greaterThanOrEqual | lessThan | lessThanOrEqual =>
    exact each_of_comparing h hf hp

lemma each_of_ofFilter {filter : Filter} (hp : ofFilter s filter = .ok p) : p.Each P := by
  obtain ⟨f, hf, hp⟩ := Result.bind_eq_ok_iff.1 hp
  simp only at hp
  split at hp
  · exact each_of_build h (Schema.declares_of_resolve hf) hp
  · cases hp

lemma each_of_ofList {list : FilterList} (hp : ofList s list = .ok p) : p.Each P := by
  obtain ⟨ps, hps, hjoined⟩ := ofList_eq_ok_iff.1 hp
  cases ps with
  | nil => cases hjoined
  | cons q ps =>
    cases hjoined
    refine each_foldl_join.2 fun q' hq' => ?_
    obtain ⟨filter, -, hfilter⟩ := Result.exists_of_forall₂ hps.flip hq'
    exact each_of_ofFilter h hfilter

/-- **What is true of every comparison with a literal is true throughout compiled predicates.** -/
theorem each_of_compiled (hp : Compiled s p) : p.Each P := by
  induction hp with
  | filter hp => exact each_of_ofFilter h hp
  | list hp => exact each_of_ofList h hp
  | and _ _ ihp ihq => exact ⟨ihp, ihq⟩
  | or _ _ ihp ihq => exact ⟨ihp, ihq⟩

end Compiling

end Predicate

/-- The constant of a comparison fits its field: it is null and the field may be null, or it is of
the field's kind, a member being one of those declared. An entity that conforms to the schema has
null there, too, or a value of the same kind. -/
structure Schema.FitsConstant (s : Schema E) (f : FieldRef) (v : Value) : Prop where
  typed : v = .null ∧ (s.typeOf f).nullable ∨
    (s.typeOf f).kind.admits v ∧ (s.typeOf f).kind.Declares v
  compared : ∀ e, s.Conforms e →
    (s.read e f).isNull ∨ v.isNull ∨ (s.read e f).kindName = v.kindName

lemma Schema.fitsConstant_of_coerce {f : FieldRef} {literal : Option String} {v : Value}
    (hf : s.Declares f) (hv : Literal.coerce (s.typeOf f) literal = .ok v) :
    s.FitsConstant f v := by
  have htyped : v = .null ∧ (s.typeOf f).nullable ∨
      (s.typeOf f).kind.admits v ∧ (s.typeOf f).kind.Declares v := by
    rcases (Literal.denotes_of_coerce hv).typed with ⟨-, hnullable, hnull⟩ | ⟨-, hkind⟩
    · exact .inl ⟨hnull, hnullable⟩
    · exact .inr hkind
  refine ⟨htyped, fun e he => ?_⟩
  have hread : (s.typeOf f).admits (s.read e f) := he _ hf.mem
  rcases htyped with ⟨rfl, -⟩ | ⟨hkind, -⟩
  · exact .inr (.inl rfl)
  · cases hnull : (s.read e f).isNull with
    | true => exact .inl rfl
    | false =>
      rw [FieldType.admits, hnull] at hread
      exact .inr (.inr (FieldKind.kindName_eq hread hkind))

/-- **Literals become values of the types that are asked for**, and so do the constants of every
predicate that is compiled from filters and filter lists and put together by connectives: on
entities that conform to the schema, values of two kinds are never compared. -/
theorem Literal.sound_coerce :
    (∀ t literal v, coerce t literal = .ok v → Denotes t literal v) ∧
      ∀ (E : Type) (s : Schema E) (p : Predicate), Predicate.Compiled s p →
        p.Each fun f _ v => s.FitsConstant f v :=
  ⟨fun _ _ _ => denotes_of_coerce, fun _ _ _ hp =>
    Predicate.each_of_compiled (fun _ _ _ _ hf hv => Schema.fitsConstant_of_coerce hf hv) hp⟩

/-- The level `TOP` is the declared member of that name, and a colour may be compared with null. -/
theorem Literal.sound_of_levels :
    let t : SlotsType :=
      { Samples.city with
        slots := [Samples.required "Level" (.enum Samples.level),
          Samples.optional "Colour" (.enum Samples.color)] }
    let s : Schema Slots := ⟨"City", t.draft.fields, [], [], none⟩
    let level : FieldRef := ⟨0, "Level"⟩
    let top : Value := .enum ⟨"Top", 10⟩
    let list : FilterList := .all [.equal "level" " TOP ", ⟨"COLOUR", .notEqual, none⟩]
    let p : Predicate := .and (.compare level .equal top) (.compare ⟨1, "Colour"⟩ .notEqual .null)
    let e : Slots := ⟨.fresh Uuid.nil Instant.epoch, [.enum ⟨"Zeta", -1⟩, .null], [], none⟩
    coerce (s.typeOf level) (some " TOP ") = .ok top ∧
      Denotes (s.typeOf level) (some " TOP ") top ∧ Predicate.ofList s list = .ok p ∧
      (p.Each fun f _ v => s.FitsConstant f v) ∧ s.Conforms e := by
  intro t s level top list p e
  have coerced : coerce (s.typeOf level) (some " TOP ") = .ok top := rfl
  have compiled : Predicate.ofList s list = .ok p := rfl
  obtain ⟨denotes, fits⟩ := sound_coerce
  exact ⟨coerced, denotes _ _ _ coerced, compiled, fits _ s p (.list compiled), by decide⟩

end EntityQuery
