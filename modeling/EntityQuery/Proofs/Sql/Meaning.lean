import EntityQuery.Proofs.Predicate.Typing
import EntityQuery.Proofs.Sql.Comparing
import EntityQuery.Proofs.Sql.Reading
import EntityQuery.Samples

/-!
What conditions mean. A row of the table holds what is stored for the fields of an entity; for such
a row the condition of a well-typed predicate has a truth value, which is true exactly if the
predicate holds of the entity, and false or unknown otherwise. Null makes a comparison unknown, but
the conditions are chosen so that nothing unknown has to count as true. Main statement:
`isTrue_fragment`.
-/

namespace EntityQuery.Sql

variable {E : Type}

/-- The row that is stored for an entity. -/
def image (s : Schema E) (e : E) : List (String × Datum) :=
  s.fields.map fun field => (field.name, .ofValue (field.read e))

/-- Some parameters are bound after a number of others. -/
def Bound (arguments : List Datum) (k : ℕ) (ps : List Param) : Prop :=
  ∀ i p, ps[i]? = some p → arguments[k + i]? = some (.ofParam p)

lemma bound_append {arguments : List Datum} {k : ℕ} {ps qs : List Param}
    (h : Bound arguments k (ps ++ qs)) :
    Bound arguments k ps ∧ Bound arguments (k + ps.length) qs := by
  refine ⟨fun i p hp => h i p ?_, fun i p hp => ?_⟩
  · rw [List.getElem?_append_left (List.getElem?_eq_some_iff.1 hp).1, hp]
  · have := h (ps.length + i) p (by rw [List.getElem?_append_right (by omega)]; simpa using hp)
    rwa [← Nat.add_assoc] at this

lemma bound_map (ps : List Param) : Bound (ps.map .ofParam) 0 ps := by
  intro i p hp
  simp [hp]

namespace Expression

lemma argument?_of_bound {arguments : List Datum} {k : ℕ} {p : Param} {ps : List Param}
    (h : Bound arguments k (p :: ps)) : argument? arguments (k + 1) = some (.ofParam p) := by
  have harg := h 0 p rfl
  rw [Nat.add_zero] at harg
  rw [argument?, if_neg (Nat.add_one_ne_zero k), Nat.add_sub_cancel, harg, Option.getD_some]

section Eval

variable {row : List (String × Datum)} {arguments : List Datum}

lemma eval_column {name : String} {d : Datum} (h : column? row name = some d) :
    (column name).eval row arguments = some d := h

lemma eval_null : null.eval row arguments = some .null := rfl

lemma eval_integer (n : ℕ) : (integer n).eval row arguments = some (.integer n) := rfl

lemma eval_parameter {k : ℕ} {p : Param} {ps : List Param} (h : Bound arguments k (p :: ps)) :
    (parameter (k + 1)).eval row arguments = some (.ofParam p) := argument?_of_bound h

lemma eval_binary {x y : Expression} {a b : Datum} (hx : x.eval row arguments = some a)
    (hy : y.eval row arguments = some b) (op : Binary) :
    (binary op x y).eval row arguments = combine op a b := by
  show (x.eval row arguments).bind (fun a => (y.eval row arguments).bind (combine op a)) = _
  rw [hx, hy]
  rfl

lemma eval_instr {x y : Expression} {a b : Datum} (hx : x.eval row arguments = some a)
    (hy : y.eval row arguments = some b) :
    (instr x y).eval row arguments = Datum.instr a b := by
  show (x.eval row arguments).bind (fun a => (y.eval row arguments).bind (Datum.instr a)) = _
  rw [hx, hy]
  rfl

end Eval

end Expression

/-! ### Comparisons with null -/

lemma test_null_left {op : Comparison} {v : Value} (hv : v.isNull = false ∨ op.asksOrder)
    (hop : op ≠ .notEqual) : op.test .null v = false := by
  cases op with
  | equal =>
    simp only [Comparison.test, Comparison.same, hv.resolve_right (by decide)]
    rfl
  | notEqual => exact absurd rfl hop
  | greater | greaterOrEqual | less | lessOrEqual => rfl

lemma test_equal_null (a : Value) : Comparison.equal.test a .null = a.isNull := by
  cases a <;> rfl

lemma test_notEqual_null (a : Value) : Comparison.notEqual.test a .null = !a.isNull := by
  cases a <;> rfl

lemma test_null_right {op : Comparison} {a : Value} (hop : op.asksOrder) :
    op.test a .null = false := by
  cases op with
  | equal | notEqual => cases hop
  | greater | greaterOrEqual | less | lessOrEqual => cases a <;> rfl

lemma test_eq_holds {op : Comparison} {a v : Value} {o : Ordering} (ha : a.isNull = false)
    (hv : v.isNull = false) (ho : a.compare? v = some o) : op.test a v = op.holds o := by
  cases op <;> simp [Comparison.test, Comparison.same, Comparison.holds, ha, hv, ho, bne]

lemma combine_operatorOf (op : Comparison) (a b : Datum) :
    Expression.combine (operatorOf op) a b = some (Datum.compared op.holds a b) := by
  cases op <;> rfl

/-! ### Truth -/

namespace Datum

lemma compared_null_left (test : Ordering → Bool) (d : Datum) :
    compared test .null d = ofTruth none := rfl

lemma compared_null_right (test : Ordering → Bool) (d : Datum) :
    compared test d .null = ofTruth none := by
  cases d <;> rfl

lemma same_null (d : Datum) : same d .null = d.isNull := by
  cases d <;> rfl

lemma truth?_ofTruth (t : Option Bool) : (ofTruth t).truth? = some t := by
  rcases t with _ | _ | _ <;> rfl

lemma conjunction_eq_true_iff {t u : Option Bool} :
    conjunction t u = some true ↔ t = some true ∧ u = some true := by
  rcases t with _ | _ | _ <;> rcases u with _ | _ | _ <;> simp [conjunction]

lemma disjunction_eq_true_iff {t u : Option Bool} :
    disjunction t u = some true ↔ t = some true ∨ u = some true := by
  rcases t with _ | _ | _ <;> rcases u with _ | _ | _ <;> simp [disjunction]

lemma combine_and (t u : Option Bool) :
    Expression.combine .and (ofTruth t) (ofTruth u) = some (ofTruth (conjunction t u)) := by
  rcases t with _ | _ | _ <;> rcases u with _ | _ | _ <;> rfl

lemma combine_or (t u : Option Bool) :
    Expression.combine .or (ofTruth t) (ofTruth u) = some (ofTruth (disjunction t u)) := by
  rcases t with _ | _ | _ <;> rcases u with _ | _ | _ <;> rfl

end Datum

/-- An expression has a truth value for a row, and it is true exactly if something holds. -/
def Decides (row : List (String × Datum)) (arguments : List Datum) (x : Expression) (b : Bool) :
    Prop :=
  ∃ t, x.eval row arguments = some (.ofTruth t) ∧ (t = some true ↔ b)

lemma isTrue_of_decides {row : List (String × Datum)} {arguments : List Datum} {x : Expression}
    {b : Bool} (h : Decides row arguments x b) : x.isTrue row arguments = some b := by
  obtain ⟨t, ht, hb⟩ := h
  have hbeq : (t == some true) = b := by
    rw [Bool.eq_iff_iff, beq_iff_eq]
    exact hb
  simp [Expression.isTrue, ht, Datum.truth?_ofTruth, hbeq]

section Leaves

variable {row : List (String × Datum)} {arguments : List Datum}

lemma decides_and {x y : Expression} {b c : Bool} (hx : Decides row arguments x b)
    (hy : Decides row arguments y c) : Decides row arguments (.binary .and x y) (b && c) := by
  obtain ⟨t, ht, hb⟩ := hx
  obtain ⟨u, hu, hc⟩ := hy
  refine ⟨Datum.conjunction t u, ?_, ?_⟩
  · rw [Expression.eval_binary ht hu, Datum.combine_and]
  · rw [Datum.conjunction_eq_true_iff, hb, hc, Bool.and_eq_true]

lemma decides_or {x y : Expression} {b c : Bool} (hx : Decides row arguments x b)
    (hy : Decides row arguments y c) : Decides row arguments (.binary .or x y) (b || c) := by
  obtain ⟨t, ht, hb⟩ := hx
  obtain ⟨u, hu, hc⟩ := hy
  refine ⟨Datum.disjunction t u, ?_, ?_⟩
  · rw [Expression.eval_binary ht hu, Datum.combine_or]
  · rw [Datum.disjunction_eq_true_iff, hb, hc, Bool.or_eq_true]

variable {column : String} {a : Value} (hcolumn : Expression.column? row column = some (.ofValue a))

include hcolumn

lemma decides_isNull (ha : a.isNaN = false) :
    Decides row arguments (.binary .is (.column column) .null) a.isNull := by
  refine ⟨some a.isNull, ?_, Option.some_inj⟩
  rw [← Datum.isNull_ofValue ha, ← Datum.same_null]
  exact Expression.eval_binary (Expression.eval_column hcolumn) Expression.eval_null .is

lemma decides_isNotNull (ha : a.isNaN = false) :
    Decides row arguments (.binary .isNot (.column column) .null) (!a.isNull) := by
  refine ⟨some !a.isNull, ?_, Option.some_inj⟩
  rw [← Datum.isNull_ofValue ha, ← Datum.same_null]
  exact Expression.eval_binary (Expression.eval_column hcolumn) Expression.eval_null .isNot

/-- A comparison that null leaves unknown does not hold where it is unknown. -/
lemma decides_comparison (op : Comparison) {t : FieldType} {v : Value} {k : ℕ} {ps : List Param}
    (hkind : t.kind.isNative) (ha : t.admits a) (hv : t.admits v) (hna : a.isNaN = false)
    (hnv : v.isNaN = false)
    (hconstant : v.isNull = false ∨ op.asksOrder)
    (hactual : a.isNull = false ∨ op ≠ .notEqual)
    (hp : Bound arguments k (.ofValue v :: ps)) :
    Decides row arguments
      (.binary (operatorOf op) (.column column) (.parameter (k + 1))) (op.test a v) := by
  have heval : (Expression.binary (operatorOf op) (.column column) (.parameter (k + 1))).eval row
      arguments = some (Datum.compared op.holds (.ofValue a) (.ofValue v)) :=
    (Expression.eval_binary (Expression.eval_column hcolumn) (Expression.eval_parameter hp) _).trans
      (combine_operatorOf op _ _)
  cases han : a.isNull with
  | true =>
    obtain rfl := Value.eq_null_of_isNull han
    refine ⟨none, by rw [heval, Datum.ofValue_null, Datum.compared_null_left], ?_⟩
    simp only [reduceCtorEq, false_iff, Bool.not_eq_true]
    exact test_null_left hconstant (hactual.resolve_left (by simp [han]))
  | false =>
    cases hvn : v.isNull with
    | true =>
      obtain rfl := Value.eq_null_of_isNull hvn
      refine ⟨none, by rw [heval, Datum.ofValue_null, Datum.compared_null_right], ?_⟩
      simp only [reduceCtorEq, false_iff, Bool.not_eq_true]
      exact test_null_right (hconstant.resolve_left (by simp [hvn]))
    | false =>
      rw [FieldType.admits, han] at ha
      rw [FieldType.admits, hvn] at hv
      refine ⟨some (op.test a v), ?_, by simp⟩
      rw [heval, test_eq_holds han hvn (Datum.compare?_eq_order hkind ha hv hna hnv),
        Datum.compared, Datum.isNull_ofValue hna, Datum.isNull_ofValue hnv, han, hvn]
      rfl

lemma decides_differs {t : FieldType} {v : Value} {k : ℕ} {ps : List Param}
    (hkind : t.kind.isNative) (ha : t.admits a) (hv : t.admits v) (hna : a.isNaN = false)
    (hnv : v.isNaN = false) (hconstant : v.isNull = false)
    (hp : Bound arguments k (.ofValue v :: ps)) :
    Decides row arguments
      (.binary .or (.binary .notEqual (.column column) (.parameter (k + 1)))
        (.binary .is (.column column) .null)) (Comparison.notEqual.test a v) := by
  cases han : a.isNull with
  | true =>
    obtain rfl := Value.eq_null_of_isNull han
    refine ⟨some true, ?_, ?_⟩
    · have hcolumn' : (Expression.column column).eval row arguments = some .null :=
        Expression.eval_column hcolumn
      have hnull : (Expression.binary .is (.column column) .null).eval row arguments =
          some (.ofTruth (some true)) := Expression.eval_binary hcolumn' Expression.eval_null .is
      exact Expression.eval_binary
        (Expression.eval_binary hcolumn' (Expression.eval_parameter hp) .notEqual) hnull .or
    · simp [Comparison.test, Comparison.same, hconstant, han]
  | false =>
    have hne := decides_comparison hcolumn .notEqual hkind ha hv hna hnv (Or.inl hconstant)
      (Or.inl han) hp
    have hor := decides_or hne (decides_isNull hcolumn hna)
    rwa [han, Bool.or_false] at hor

lemma decides_contains {t : FieldType} (hkind : t.kind = .text) (ha : t.admits a) {needle : String}
    {k : ℕ} {ps : List Param} (hp : Bound arguments k (.string needle :: ps)) :
    Decides row arguments
      (.binary .greater (.instr (.column column) (.parameter (k + 1))) (.integer 0))
      (a.asText?.any fun text => Text.contains text needle) := by
  have hinstr := Expression.eval_instr (Expression.eval_column hcolumn)
    (Expression.eval_parameter hp)
  cases a with
  | null =>
    refine ⟨none, Expression.eval_binary hinstr (Expression.eval_integer 0) .greater, ?_⟩
    simp [Value.asText?]
  | text s =>
    refine ⟨some (Text.contains s needle), ?_, by simp [Value.asText?]⟩
    exact (Expression.eval_binary hinstr (Expression.eval_integer 0) .greater).trans
      (congrArg some (Datum.compared_place needle.toList s.toList))
  | _ =>
    rw [FieldType.admits, hkind] at ha
    cases ha

end Leaves

/-! ### Predicates -/

section Predicates

variable {s : Schema E} {e : E} {arguments : List Datum}

lemma column?_image (hs : s.NamesDiffer) {f : FieldRef} (hf : s.Declares f) :
    Expression.column? (image s e) f.name = some (.ofValue (s.read e f)) := by
  rw [Expression.column?, image, Schema.find?_name hs hf]
  rfl

/-- The condition of a comparison tests for null where the comparison would be unknown. -/
lemma decides_ofComparison {f : FieldRef} {op : Comparison} {v : Value} {k : ℕ}
    (hs : s.NamesDiffer) (he : s.Conforms e) (hnan : s.NaNFree e)
    (htyped : (Predicate.compare f op v).WellTyped s) (hkind : (s.typeOf f).kind.isNative)
    (hnv : v.isNaN = false)
    (hbound : Bound arguments k
      (parameters (Condition.ofComparison f.name (s.typeOf f).nullable op v).tokens)) :
    Decides (image s e) arguments
      ((Condition.ofComparison f.name (s.typeOf f).nullable op v).expression k)
      (op.test (s.read e f) v) := by
  obtain ⟨hf, hv, -⟩ := htyped
  have hcolumn := column?_image (e := e) hs hf
  have ha : (s.typeOf f).admits (s.read e f) := he _ (hf.mem)
  have hna : (s.read e f).isNaN = false := hnan _ (hf.mem)
  cases hvn : v.isNull with
  | true =>
    obtain rfl := Value.eq_null_of_isNull hvn
    cases op with
    | equal =>
      rw [test_equal_null]
      exact decides_isNull hcolumn hna
    | notEqual =>
      rw [test_notEqual_null]
      exact decides_isNotNull hcolumn hna
    | greater | greaterOrEqual | less | lessOrEqual =>
      exact decides_comparison hcolumn _ hkind ha hv hna hnv (Or.inr rfl) (Or.inr (by decide))
        hbound
  | false =>
    cases op with
    | notEqual =>
      cases hnull : (s.typeOf f).nullable with
      | true =>
        simp only [Condition.ofComparison, hvn, hnull, if_true] at hbound ⊢
        exact decides_differs hcolumn hkind ha hv hna hnv hvn hbound
      | false =>
        have han : (s.read e f).isNull = false := by
          cases han : (s.read e f).isNull with
          | false => rfl
          | true => simp [FieldType.admits, han, hnull] at ha
        simp only [Condition.ofComparison, hvn, hnull, Bool.false_eq_true, if_false] at hbound ⊢
        exact decides_comparison hcolumn .notEqual hkind ha hv hna hnv (Or.inl hvn)
          (Or.inl han) hbound
    | equal | greater | greaterOrEqual | less | lessOrEqual =>
      simp only [Condition.ofComparison, hvn] at hbound ⊢
      exact decides_comparison hcolumn _ hkind ha hv hna hnv (Or.inl hvn) (Or.inr (by decide))
        hbound

/-- **The condition of a well-typed predicate decides it.** -/
theorem decides_ofPredicate (hs : s.NamesDiffer) (he : s.Conforms e) (hnan : s.NaNFree e)
    {p : Predicate} (htyped : p.WellTyped s)
    (hkind : ∀ f ∈ p.fields, (s.typeOf f).kind.isNative)
    (hconstants : ∀ v ∈ p.constants, v.isNaN = false) {k : ℕ}
    (hbound : Bound arguments k (parameters (Condition.ofPredicate s p).tokens)) :
    Decides (image s e) arguments ((Condition.ofPredicate s p).expression k) (p.holds s e) := by
  induction p generalizing k with
  | compare f op v =>
    exact decides_ofComparison hs he hnan htyped (hkind f (by simp [Predicate.fields]))
      (hconstants v (by simp [Predicate.constants])) hbound
  | contains f needle =>
    exact decides_contains (column?_image hs htyped.1) htyped.2 (he _ htyped.1.mem) hbound
  | isNull f => exact decides_isNull (column?_image hs htyped) (hnan _ htyped.mem)
  | isNotNull f => exact decides_isNotNull (column?_image hs htyped) (hnan _ htyped.mem)
  | and p q ihp ihq =>
    simp only [Predicate.fields, Predicate.constants, List.forall_mem_append] at hkind hconstants
    rw [Condition.ofPredicate, Condition.tokens, parameters_joined] at hbound
    obtain ⟨hp, hq⟩ := bound_append hbound
    exact decides_and (ihp htyped.1 hkind.1 hconstants.1 hp) (ihq htyped.2 hkind.2 hconstants.2 hq)
  | or p q ihp ihq =>
    simp only [Predicate.fields, Predicate.constants, List.forall_mem_append] at hkind hconstants
    rw [Condition.ofPredicate, Condition.tokens, parameters_joined] at hbound
    obtain ⟨hp, hq⟩ := bound_append hbound
    exact decides_or (ihp htyped.1 hkind.1 hconstants.1 hp) (ihq htyped.2 hkind.2 hconstants.2 hq)

/-- **A compiled predicate and its condition agree on every row**: the text of the condition, read
and computed with its parameters for the row that is stored for an entity, is true exactly if the
predicate holds of the entity. -/
theorem isTrue_fragment {d : SchemaDraft E} (hs : d.build = .ok s) {p : Predicate}
    (hp : p.Compiled s) (hkind : ∀ f ∈ p.fields, (s.typeOf f).kind.isNative)
    (hconstants : ∀ v ∈ p.constants, v.isNaN = false) (he : s.Conforms e) (hnan : s.NaNFree e) :
    (Condition.ofPredicate s p).fragment.isTrue (image s e) = some (p.holds s e) := by
  have hdiffer := (SchemaDraft.of_build_eq_ok hs).2.2.2
  have hbound : Bound ((parameters (Condition.ofPredicate s p).tokens).map .ofParam) 0
      (parameters (Condition.ofPredicate s p).tokens) := bound_map _
  have hdecides := decides_ofPredicate hdiffer he hnan (Predicate.wellTyped_of_compiled hp) hkind
    hconstants hbound
  rw [Fragment.isTrue, Expression.ofText_fragment, Condition.fragment_eq,
    Fragment.params_ofTokens]
  exact isTrue_of_decides hdecides

/-- A city without region is in another region than the north, in memory as in the table. -/
theorem isTrue_region :
    let s : Schema Slots := ⟨"City", Samples.city.draft.fields, [], [], none⟩
    let p := Predicate.compare ⟨1, "Region"⟩ .notEqual (.text "North")
    let e : Slots :=
      ⟨.fresh Uuid.nil Instant.epoch, [.text "Bergen", .null, .int 300], [], none⟩
    Samples.city.draft.build = .ok s ∧ p.Compiled s ∧
      (Condition.ofPredicate s p).fragment.isTrue (image s e) = some true := by
  have hp : Predicate.ofFilter ⟨"City", Samples.city.draft.fields, [], [], none⟩
      ⟨"region", .notEqual, some "North"⟩ =
        .ok (.compare ⟨1, "Region"⟩ .notEqual (.text "North")) := rfl
  refine ⟨rfl, .filter hp, ?_⟩
  exact isTrue_fragment (d := Samples.city.draft) rfl (.filter hp) (by decide) (by decide)
    (by decide) (by decide)

end Predicates

end EntityQuery.Sql
