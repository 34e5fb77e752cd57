import EntityQuery.Proofs.Plan.Grouping
import EntityQuery.Proofs.Schema.Names
import EntityQuery.Proofs.Store.Uniqueness
import EntityQuery.Proofs.Value.Order
import EntityQuery.Samples
import Mathlib.Data.List.Perm.Subperm

/-!
When two entities have the same value in a field. A filter that compares one entity with the value
of the other, the groups by the field, and a unique key of this field alone agree on that, unless
two members of an enumeration share an ordinal: these pass for one another in a filter, but not in
groups and keys. Main statement: `joins_iff_holds`.
-/

namespace EntityQuery

variable {E : Type}

/-! ### Members of enumerations -/

namespace FieldKind

/-- No two members of an enumeration share an ordinal. -/
def OrdinalsDiffer : FieldKind → Prop
  | .enum type => type.members.Pairwise fun m m' => m.ordinal ≠ m'.ordinal
  | _ => True

/-- A member of an enumeration is one of those that are declared. -/
def Declares : FieldKind → Value → Prop
  | .enum type, .enum m => m ∈ type.members
  | _, _ => True

lemma OrdinalsDiffer.memberName?_eq {kind : FieldKind} (hkind : kind.OrdinalsDiffer) {v w : Value}
    (hv : kind.admits v) (hw : kind.admits w) (hdv : kind.Declares v) (hdw : kind.Declares w)
    (h : v.compare? w = some .eq) : v.memberName? = w.memberName? := by
  cases kind with
  | enum type =>
    cases v <;> cases hv
    cases w <;> cases hw
    rename_i m m'
    rw [Value.compare?, Option.some.injEq, Std.LawfulEqCmp.compare_eq_iff_eq] at h
    have : Std.Symm fun m m' : EnumMember => m.ordinal ≠ m'.ordinal := ⟨fun _ _ => Ne.symm⟩
    by_contra hne
    exact List.Pairwise.forall hkind hdv hdw (fun hsame => hne (hsame ▸ rfl)) h
  | _ =>
    cases v <;> cases hv
    cases w <;> cases hw
    rfl

end FieldKind

/-! ### Groups -/

namespace GroupKey

variable (s : Schema E) (k : GroupKey)

/-- One group holds both of two entities of a list. -/
def Joins (es : List E) (a b : E) : Prop :=
  ∃ g ∈ k.group s es, [a, b].Subperm g.members

/-- Groups whose keys are kept take in the entities whose keys are kept. -/
lemma filter_add {keep : Value → Bool} (hkeep : ∀ v w, v.equal w → keep v = keep w) (key : Value)
    (e : E) (groups : List (Group E)) :
    (add key e groups).filter (fun g => keep g.key) =
      if keep key then add key e (groups.filter fun g => keep g.key)
      else groups.filter fun g => keep g.key := by
  induction groups with
  | nil => cases h : keep key <;> simp [add, h]
  | cons g rest ih =>
    rw [add]
    cases hg : g.key.equal key with
    | true =>
      have hsame := hkeep _ _ hg
      cases h : keep key <;> simp [add, hg, h, hsame]
    | false =>
      rw [if_neg (by decide), List.filter_cons, ih, List.filter_cons]
      cases h : keep key <;> cases h' : keep g.key <;> simp [add, hg]

/-- Entities whose keys are kept are grouped as if there were no others. -/
lemma filter_group {keep : Value → Bool} (hkeep : ∀ v w, v.equal w → keep v = keep w)
    (es : List E) :
    (k.group s es).filter (fun g => keep g.key) =
      k.group s (es.filter fun e => keep (s.read e k.field)) := by
  have hfold (groups : List (Group E)) :
      (es.foldl (fun groups e => add (s.read e k.field) e groups) groups).filter
          (fun g => keep g.key) =
        (es.filter fun e => keep (s.read e k.field)).foldl
          (fun groups e => add (s.read e k.field) e groups)
          (groups.filter fun g => keep g.key) := by
    induction es generalizing groups with
    | nil => rfl
    | cons e es ih =>
      rw [List.foldl_cons, ih, filter_add hkeep, List.filter_cons]
      cases keep (s.read e k.field) <;> rfl
  exact hfold []

/-- Of two things that stand in a list, one at least stands behind its head. -/
lemma cases_of_subperm {α : Type} {a b c : α} {l : List α} (h : [a, b].Subperm (c :: l)) :
    (a = c ∧ b ∈ l) ∨ (b = c ∧ a ∈ l) ∨ (a ∈ l ∧ b ∈ l) := by
  rcases List.mem_cons.1 (h.subset (List.mem_cons_self)) with rfl | ha
  · rw [List.subperm_cons, List.singleton_subperm_iff] at h
    exact .inl ⟨rfl, h⟩
  · rcases List.mem_cons.1 (h.subset (List.mem_cons_of_mem _ List.mem_cons_self)) with rfl | hb
    · exact .inr (.inl ⟨rfl, ha⟩)
    · exact .inr (.inr ⟨ha, hb⟩)

lemma subperm_filter {α : Type} {a b : α} {l : List α} {p : α → Bool} (h : [a, b].Subperm l)
    (ha : p a) (hb : p b) : [a, b].Subperm (l.filter p) := by
  have hfiltered := h.filter p
  rwa [List.filter_cons_of_pos ha, List.filter_cons_of_pos hb, List.filter_nil] at hfiltered

variable {s k} {es : List E} {a b : E}

/-- Where equality of keys is an equivalence, entities with equal keys join. -/
lemma joins_of_same {P : E → Prop} (hkeys : k.Equates s P) (hP : ∀ e ∈ es, P e)
    (hes : [a, b].Subperm es) (hsame : k.same s a b) : k.Joins s es a b := by
  have hgroups := distributes_group hkeys hP
  obtain ⟨v, hv, ha⟩ := hgroups.covers a (hes.subset List.mem_cons_self)
  obtain ⟨g, hg, rfl⟩ := List.mem_map.1 hv
  obtain ⟨c, hc, hkey⟩ := hgroups.keys _ hv
  have hb : g.key.equal (s.read b k.field) := by
    rw [hkey] at ha ⊢
    exact hkeys.trans c a b (hP c hc) ha hsame
  refine ⟨g, hg, ?_⟩
  rw [hgroups.members g hg]
  exact subperm_filter hes ha hb

lemma Joins.same (h : k.Joins s es a b) : k.same s a b := by
  obtain ⟨g, hg, hmembers⟩ := h
  obtain ⟨first, rest, hfirst, hkey, hrest⟩ := k.gathered_group s es g hg
  rw [hfirst] at hmembers
  rw [hkey] at hrest
  rcases cases_of_subperm hmembers with ⟨rfl, hb⟩ | ⟨rfl, ha'⟩ | ⟨ha', hb⟩
  · exact hrest b hb
  · rw [k.same_comm]
    exact hrest a ha'
  · refine Value.equal_trans ?_ (hrest b hb)
    rw [Value.equal_comm]
    exact hrest a ha'

/-- **One group holds two entities of a list exactly if their keys are equal**, whatever the list
holds besides. -/
theorem joins_iff (ha : (s.typeOf k.field).kind.admits (s.read a k.field))
    (hb : (s.typeOf k.field).kind.admits (s.read b k.field)) (hes : [a, b].Subperm es) :
    k.Joins s es a b ↔ k.same s a b := by
  refine ⟨Joins.same, fun hsame => ?_⟩
  -- keys of other kinds and NaN equal neither of the two, so the rest is grouped without them
  let keep (v : Value) : Bool := (s.typeOf k.field).kind.admits v && !v.isNaN
  have hkeep : ∀ v w, v.equal w → keep v = keep w := by
    intro v w hequal
    obtain ⟨hv, hw⟩ := Value.isNaN_of_equal hequal
    show (_ && !v.isNaN) = (_ && !w.isNaN)
    rw [Value.admits_of_equal hequal, hv, hw]
  have hkept : ∀ e ∈ es.filter fun e => keep (s.read e k.field),
      (s.typeOf k.field).admits (s.read e k.field) ∧ (s.read e k.field).isNaN = false := by
    intro e he
    obtain ⟨hadmits, hnan⟩ := Bool.and_eq_true_iff.1 (List.mem_filter.1 he).2
    exact ⟨FieldType.admits_of_kind hadmits, by simpa using hnan⟩
  obtain ⟨hna, hnb⟩ := Value.isNaN_of_equal hsame
  have hboth : [a, b].Subperm (es.filter fun e => keep (s.read e k.field)) :=
    subperm_filter hes (by simp [keep, ha, hna]) (by simp [keep, hb, hnb])
  obtain ⟨g, hg, hmembers⟩ := joins_of_same (k.equates_of_admits s) hkept hboth hsame
  rw [← k.filter_group s hkeep es] at hg
  exact ⟨g, List.mem_of_mem_filter hg, hmembers⟩

end GroupKey

/-! ### Filters and unique keys -/

section Fields

variable {s : Schema E} {f : FieldRef} {a b : E}

/-- A filter takes one value for another that is not null if neither is the larger. -/
lemma Predicate.holds_equal_iff (ha : (s.read a f).isNull = false)
    (hb : (s.read b f).isNull = false) :
    (Predicate.compare f .equal (s.read a f)).holds s b ↔
      (s.read a f).compare? (s.read b f) = some .eq := by
  show Comparison.same (s.read b f) (s.read a f) ↔ _
  rw [Comparison.same, ha, hb, Value.compare?_swap (s.read b f)]
  cases (s.read b f).compare? (s.read a f) with
  | none => simp
  | some o => cases o <;> simp

lemma Rows.shares_iff_same (ha : (s.read a f).isNull = false) (hb : (s.read b f).isNull = false)
    {key : UniqueKey} (hkey : key.fields = [f]) :
    shares s key a b ↔ GroupKey.same s ⟨f⟩ a b := by
  rw [shares_iff, Collide, Complete, Complete, hkey]
  simp only [List.forall_mem_singleton, ha, hb, true_and]
  rw [GroupKey.same_comm]
  rfl

/-- **To filters, groups and unique keys, equality means the same up to the names of members.** Of
two entities whose values of a field fit its type and are not null, one group holds both, and a key
of this field alone is shared, exactly if a filter for the value of the one finds the other, and the
values, if they are members of an enumeration, bear the same name. The names are the same anyway
where members are declared and no two share an ordinal. -/
theorem joins_iff_holds {es : List E} (ha : (s.typeOf f).admits (s.read a f))
    (hb : (s.typeOf f).admits (s.read b f)) (hna : (s.read a f).isNull = false)
    (hnb : (s.read b f).isNull = false) (hes : [a, b].Subperm es) :
    let filtered := (Predicate.compare f .equal (s.read a f)).holds s b
    let named := (s.read a f).memberName? = (s.read b f).memberName?
    (GroupKey.Joins s ⟨f⟩ es a b ↔ filtered ∧ named) ∧
      (∀ key : UniqueKey, key.fields = [f] → (Rows.shares s key a b ↔ filtered ∧ named)) ∧
      ((s.typeOf f).kind.OrdinalsDiffer → (s.typeOf f).kind.Declares (s.read a f) →
        (s.typeOf f).kind.Declares (s.read b f) → filtered → named) := by
  intro filtered named
  have hka : (s.typeOf f).kind.admits (s.read a f) := by
    rwa [FieldType.admits, hna] at ha
  have hkb : (s.typeOf f).kind.admits (s.read b f) := by
    rwa [FieldType.admits, hnb] at hb
  have hfiltered := Predicate.holds_equal_iff hna hnb
  have hsame : GroupKey.same s ⟨f⟩ a b ↔ filtered ∧ named :=
    (Value.equal_iff hka hkb).trans (and_congr_left' hfiltered.symm)
  refine ⟨(GroupKey.joins_iff hka hkb hes).trans hsame,
    fun key hkey => (Rows.shares_iff_same hna hnb hkey).trans hsame, ?_⟩
  intro hdiffer hda hdb hholds
  exact hdiffer.memberName?_eq hka hkb hda hdb (hfiltered.1 hholds)

end Fields

/-- Tasks that cost 1.0 and 1.00 cost the same: to a filter, in groups, and to a key. -/
theorem joins_of_equal_costs :
    let s : Schema Slots := ⟨"Task", Samples.task.draft.fields, [], [], none⟩
    let task (title : String) (cost : Value) : Slots :=
      ⟨.fresh Uuid.nil Instant.epoch, [.text title, .null, .null, cost, .null, .bool false], [],
        none⟩
    let a := task "sow" (.decimal ⟨false, 10, 1, by decide, by decide⟩)
    let b := task "reap" (.decimal ⟨false, 100, 2, by decide, by decide⟩)
    let es := [a, task "mow" .null, b]
    let f : FieldRef := ⟨8, "Cost"⟩
    let key : UniqueKey := ⟨"ux_cost", [f]⟩
    (s.typeOf f).admits (s.read a f) ∧ (s.typeOf f).admits (s.read b f) ∧
      (s.read a f).isNull = false ∧ (s.read b f).isNull = false ∧ [a, b].Subperm es ∧
      (Predicate.compare f .equal (s.read a f)).holds s b ∧ GroupKey.Joins s ⟨f⟩ es a b ∧
      Rows.shares s key a b := by
  intro s task a b es f key
  have within : [a, b].Subperm es := (List.Sublist.cons_cons a (.cons _ (.refl _))).subperm
  have filtered : (Predicate.compare f .equal (s.read a f)).holds s b := rfl
  obtain ⟨joins, shares, -⟩ := joins_iff_holds (s := s) (f := f) rfl rfl rfl rfl within
  exact ⟨rfl, rfl, rfl, rfl, within, filtered, joins.2 ⟨filtered, rfl⟩,
    (shares key rfl).2 ⟨filtered, rfl⟩⟩

/-- Two members of an enumeration that share an ordinal: a filter for the one finds the other, but
they stand in different groups and do not collide on a key. -/
theorem not_joins_of_shared_ordinal :
    let t : SlotsType :=
      { Samples.city with slots := [Samples.required "Level" (.enum Samples.level)] }
    let f : FieldRef := ⟨0, "Level"⟩
    let key : UniqueKey := ⟨"ux_level", [f]⟩
    let s : Schema Slots := ⟨"City", t.draft.fields, [], [], none⟩
    let city (m : EnumMember) : Slots := ⟨.fresh Uuid.nil Instant.epoch, [.enum m], [], none⟩
    let a := city ⟨"High", 10⟩
    let b := city ⟨"Top", 10⟩
    t.draft.build = .ok s ∧ s.Declares f ∧ s.Conforms a ∧ s.Conforms b ∧
      (s.read a f).isNull = false ∧ (s.read b f).isNull = false ∧
      (Predicate.compare f .equal (s.read a f)).holds s b ∧
      ¬ GroupKey.Joins s ⟨f⟩ [a, b] a b ∧ ¬ Rows.shares s key a b := by
  intro t f key s city a b
  have conforms (m : EnumMember) : s.Conforms (city m) := List.forall_mem_singleton.2 rfl
  refine ⟨rfl, ⟨_, rfl, rfl⟩, conforms _, conforms _, rfl, rfl, rfl, fun h => ?_, by decide⟩
  have same := GroupKey.Joins.same h
  cases same

end EntityQuery
