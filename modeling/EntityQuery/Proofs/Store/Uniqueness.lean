import EntityQuery.Proofs.Store.Writes
import EntityQuery.Proofs.Value.Equality

/-!
Identifiers and unique keys. Two entities are *apart* if they have different identifiers and no
unique key holds equal values without null in both; rows are *distinct* if any two of them are
apart. Looking for clashes at the positions that a write changed is as good as looking everywhere,
because the rows it did not change were apart before. Main statement: `distinct_run`, every run of
writes from the empty store leaves distinct rows.
-/

namespace EntityQuery

variable {E : Type}

namespace Rows

/-! ### Unique keys -/

/-- No field of a unique key is null. -/
def Complete (s : Schema E) (key : UniqueKey) (e : E) : Prop :=
  ∀ f ∈ key.fields, (s.read e f).isNull = false

/-- Two entities have equal values in every field of a unique key, and none of them is null. -/
def Collide (s : Schema E) (key : UniqueKey) (a b : E) : Prop :=
  Complete s key a ∧ Complete s key b ∧ ∀ f ∈ key.fields, (s.read a f).equal (s.read b f)

lemma Collide.symm {s : Schema E} {key : UniqueKey} {a b : E} (h : Collide s key a b) :
    Collide s key b a :=
  ⟨h.2.1, h.1, fun f hf => Value.equal_comm (s.read a f) (s.read b f) ▸ h.2.2 f hf⟩

/-- The key of an entity is made of its values if none is null. -/
lemma keyOf_eq_some_iff {s : Schema E} {key : UniqueKey} {e : E} {vs : List Value} :
    keyOf s key e = some vs ↔ Complete s key e ∧ vs = key.fields.map (s.read e) := by
  unfold keyOf Complete
  induction key.fields generalizing vs with
  | nil =>
    rw [List.mapM_nil, List.map_nil, Option.pure_def, Option.some.injEq]
    exact ⟨fun h => ⟨fun f hf => absurd hf List.not_mem_nil, h.symm⟩, fun h => h.2.symm⟩
  | cons f fields ih =>
    rw [List.mapM_cons, List.forall_mem_cons, List.map_cons]
    by_cases h : (s.read e f).isNull
    · simp [h]
    · simp only [h, Bool.false_eq_true, if_false, Option.bind_eq_bind, Option.bind_some,
        Option.bind_eq_some_iff, Option.pure_def, Option.some.injEq, ih, true_and]
      constructor
      · rintro ⟨_, ⟨hc, rfl⟩, rfl⟩
        exact ⟨hc, rfl⟩
      · rintro ⟨hc, rfl⟩
        exact ⟨_, ⟨hc, rfl⟩, rfl⟩

lemma sameValues_map {f g : FieldRef → Value} {fields : List FieldRef} :
    sameValues (fields.map f) (fields.map g) ↔ ∀ r ∈ fields, (f r).equal (g r) := by
  induction fields with
  | nil => simp [sameValues]
  | cons r fields ih => simp [sameValues, ih]

lemma shares_iff {s : Schema E} {key : UniqueKey} {a b : E} :
    shares s key a b ↔ Collide s key b a := by
  unfold shares Collide
  cases ha : keyOf s key a with
  | none =>
    have hna : ¬ Complete s key a := fun h => by simp [keyOf_eq_some_iff.2 ⟨h, rfl⟩] at ha
    simp [hna]
  | some vs =>
    obtain ⟨hca, rfl⟩ := keyOf_eq_some_iff.1 ha
    cases hb : keyOf s key b with
    | none =>
      have hnb : ¬ Complete s key b := fun h => by simp [keyOf_eq_some_iff.2 ⟨h, rfl⟩] at hb
      simp [hnb]
    | some ws =>
      obtain ⟨hcb, rfl⟩ := keyOf_eq_some_iff.1 hb
      simp only [sameValues_map, hca, hcb, true_and]

/-! ### Distinct rows -/

variable [Entity E]

/-- Two entities with different identifiers that collide on no unique key. -/
structure Apart (s : Schema E) (a b : E) : Prop where
  id_ne : Entity.id a ≠ Entity.id b
  not_collide : ∀ key ∈ s.unique, ¬ Collide s key a b

lemma Apart.symm {s : Schema E} {a b : E} (h : Apart s a b) : Apart s b a :=
  ⟨h.id_ne.symm, fun key hkey hc => h.not_collide key hkey hc.symm⟩

/-- Any two rows are apart. -/
def Distinct (s : Schema E) (rows : List E) : Prop :=
  ∀ (i j : ℕ) (a b : E), i ≠ j → rows[i]? = some a → rows[j]? = some b → Apart s a b

lemma distinct_iff_pairwise {s : Schema E} {rows : List E} :
    Distinct s rows ↔ rows.Pairwise (Apart s) := by
  rw [List.pairwise_iff_getElem]
  constructor
  · intro h i j hi hj hij
    exact h i j _ _ (Nat.ne_of_lt hij) (List.getElem?_eq_getElem hi) (List.getElem?_eq_getElem hj)
  · intro h i j a b hij ha hb
    obtain ⟨hi, rfl⟩ := List.getElem?_eq_some_iff.1 ha
    obtain ⟨hj, rfl⟩ := List.getElem?_eq_some_iff.1 hb
    rcases Nat.lt_or_gt_of_ne hij with hlt | hlt
    · exact h i j hi hj hlt
    · exact (h j i hj hi hlt).symm

lemma distinct_nil (s : Schema E) : Distinct s [] := by
  intro i j a b _ ha
  simp at ha

lemma Distinct.filter {s : Schema E} {rows : List E} (h : Distinct s rows) (p : E → Bool) :
    Distinct s (rows.filter p) :=
  distinct_iff_pairwise.2 ((distinct_iff_pairwise.1 h).sublist List.filter_sublist)

/-! ### The search for clashes -/

lemma clashWith_eq_none_iff {s : Schema E} {e : E} {others : List E} :
    clashWith s e others = none ↔ ∀ o ∈ others, Apart s e o := by
  unfold clashWith
  split
  · rename_i h
    simp only [List.any_eq_true, beq_iff_eq] at h
    obtain ⟨o, ho, hid⟩ := h
    simp only [reduceCtorEq, false_iff, not_forall]
    exact ⟨o, ho, fun hap => hap.id_ne hid.symm⟩
  · rename_i h
    simp only [List.any_eq_true, beq_iff_eq, not_exists, not_and] at h
    simp only [Option.map_eq_none_iff, List.find?_eq_none, List.any_eq_true, not_exists, not_and,
      shares_iff]
    constructor
    · intro hk o ho
      exact ⟨fun hid => h o ho hid.symm, fun key hkey hc => hk key hkey o ho hc.symm⟩
    · intro hap key hkey o ho hc
      exact (hap o ho).not_collide key hkey hc.symm

lemma clash?_eq_none_iff {s : Schema E} {rows : List E} {changed : List ℕ} :
    clash? s rows changed = none ↔
      ∀ i ∈ changed, ∀ a, rows[i]? = some a → ∀ j b, j ≠ i → rows[j]? = some b → Apart s a b := by
  unfold clash? clashAt
  simp only [List.findSome?_eq_none_iff, Option.bind_eq_none_iff, clashWith_eq_none_iff,
    List.mem_eraseIdx_iff_getElem?]
  constructor
  · intro h i hi a ha j b hj hb
    exact h i hi a ha b ⟨j, hj, hb⟩
  · rintro h i hi a ha b ⟨j, hj, hb⟩
    exact h i hi a ha j b hj hb

/-- **Looking at the changed positions is enough**: if the other rows were distinct already and
nothing clashes at a changed position, the rows are distinct. -/
theorem distinct_of_clash?_eq_none {s : Schema E} {rows candidate : List E} {changed : List ℕ}
    (h : Distinct s rows) (hc : clash? s candidate changed = none)
    (hsame : ∀ i, i ∉ changed → ∀ a, candidate[i]? = some a → rows[i]? = some a) :
    Distinct s candidate := by
  rw [clash?_eq_none_iff] at hc
  intro i j a b hij ha hb
  by_cases hi : i ∈ changed
  · exact hc i hi a ha j b hij.symm hb
  · by_cases hj : j ∈ changed
    · exact (hc j hj b hb i a hij ha).symm
    · exact h i j a b hij (hsame i hi a ha) (hsame j hj b hb)

omit [Entity E] in
lemma getElem?_of_append (rows new : List E) {i : ℕ} {a : E}
    (hi : i ∉ List.range' rows.length new.length) (ha : (rows ++ new)[i]? = some a) :
    rows[i]? = some a := by
  rw [List.mem_range'_1, not_and_or] at hi
  have hlt := (List.getElem?_eq_some_iff.1 ha).1
  rw [List.length_append] at hlt
  rwa [List.getElem?_append_left (by omega)] at ha

omit [Entity E] in
lemma set_middle (before after : List E) (a b : E) :
    (before ++ a :: after).set before.length b = before ++ b :: after := by
  rw [List.set_append_right _ _ (Nat.le_refl _), Nat.sub_self, List.set_cons_zero]

/-! ### The name of a clash -/

/-- Two different rows share what goes by a name: the identifier, or the values of a unique key. -/
def Shared (s : Schema E) (rows : List E) (name : String) : Prop :=
  ∃ (i j : ℕ) (a b : E), i ≠ j ∧ rows[i]? = some a ∧ rows[j]? = some b ∧
    (name = primary ∧ Entity.id a = Entity.id b ∨
      ∃ key ∈ s.unique, name = key.name ∧ Collide s key a b)

lemma Distinct.not_shared {s : Schema E} {rows : List E} (h : Distinct s rows) (name : String) :
    ¬ Shared s rows name := by
  rintro ⟨i, j, a, b, hij, ha, hb, ⟨-, hid⟩ | ⟨key, hkey, -, hc⟩⟩
  · exact (h i j a b hij ha hb).id_ne hid
  · exact (h i j a b hij ha hb).not_collide key hkey hc

lemma exists_of_clashWith_eq_some {s : Schema E} {e : E} {others : List E} {name : String}
    (h : clashWith s e others = some name) :
    ∃ o ∈ others, name = primary ∧ Entity.id e = Entity.id o ∨
      ∃ key ∈ s.unique, name = key.name ∧ Collide s key e o := by
  unfold clashWith at h
  split at h
  · rename_i hid
    cases h
    obtain ⟨o, ho, hid⟩ := List.any_eq_true.1 hid
    exact ⟨o, ho, Or.inl ⟨rfl, (beq_iff_eq.1 hid).symm⟩⟩
  · obtain ⟨key, hfind, rfl⟩ := Option.map_eq_some_iff.1 h
    have hany := List.find?_some hfind
    obtain ⟨o, ho, hshares⟩ := List.any_eq_true.1 hany
    exact ⟨o, ho, Or.inr ⟨key, List.mem_of_find?_eq_some hfind, rfl, (shares_iff.1 hshares).symm⟩⟩

/-- **The name of a clash is shared.** -/
theorem shared_of_clash?_eq_some {s : Schema E} {rows : List E} {changed : List ℕ} {name : String}
    (h : clash? s rows changed = some name) : Shared s rows name := by
  obtain ⟨i, -, hat⟩ := List.exists_of_findSome?_eq_some h
  obtain ⟨a, ha, hwith⟩ := Option.bind_eq_some_iff.1 hat
  obtain ⟨b, hb, hshared⟩ := exists_of_clashWith_eq_some hwith
  obtain ⟨j, hj, hb⟩ := List.mem_eraseIdx_iff_getElem?.1 hb
  exact ⟨i, j, a, b, hj.symm, ha, hb, hshared⟩

end Rows

/-! ### Writes -/

namespace MemoryStore

variable [Entity E] {s : Schema E} {rows : List E}

lemma distinct_settled {α : Type} {candidate : List E} {changed : List ℕ} {x : α}
    (h : Rows.Distinct s rows)
    (hsame : ∀ i, i ∉ changed → ∀ a, candidate[i]? = some a → rows[i]? = some a) :
    Rows.Distinct s (settled s rows candidate changed x).2 := by
  unfold settled
  cases hc : Rows.clash? s candidate changed with
  | some key => exact h
  | none => exact Rows.distinct_of_clash?_eq_none h hc hsame

theorem distinct_insert (h : Rows.Distinct s rows) (new : List E) :
    Rows.Distinct s (insert s new rows).2 := by
  rw [insert_eq]
  exact distinct_settled h fun _ hi _ ha => Rows.getElem?_of_append _ _ hi ha

theorem distinct_replace (h : Rows.Distinct s rows) (e : E) :
    Rows.Distinct s (replace s e rows).2 := by
  rw [replace_eq]
  cases rows.findIdx? fun r => Entity.id r == Entity.id e with
  | none => exact h
  | some i =>
    refine distinct_settled h fun j hj a ha => ?_
    rwa [List.getElem?_set_ne (by simpa [eq_comm] using hj)] at ha

theorem distinct_update (h : Rows.Distinct s rows) (filter : Option Predicate) (m : Mutation) :
    Rows.Distinct s (update s m (Rows.positions s filter rows) rows).2 := by
  rw [update_eq]
  cases hm : Rows.mutated s filter m rows with
  | error e => exact h
  | ok candidate =>
    refine distinct_settled h fun i hi a ha => ?_
    rw [Rows.getElem?_of_notMem_positions hm hi] at ha
    exact ha

theorem distinct_updateWhere (h : Rows.Distinct s rows) (filter : Option Predicate) (m : Mutation)
    (cancel : Option (Handle E)) : Rows.Distinct s (updateWhere s filter m cancel rows).2 := by
  have heq := congrArg Prod.snd (updateWhere_eq s filter m cancel rows)
  simp only at heq
  rw [heq]
  cases watch cancel (Plan.matchingEvents s filter rows) with
  | error e => exact h
  | ok _ => exact distinct_update h filter m

theorem distinct_deleteWhere (h : Rows.Distinct s rows) (filter : Option Predicate)
    (cancel : Option (Handle E)) : Rows.Distinct s (deleteWhere s filter cancel rows).2 := by
  rw [deleteWhere_eq]
  cases watch cancel (Plan.matchingEvents s filter rows) with
  | error e => exact h
  | ok _ => exact h.filter _

end MemoryStore

/-! ### Runs -/

/-- A write in a session. -/
inductive SessionWrite (E : Type) where
  | insert (new : List E)
  | replace (e : E)
  | updateWhere (filter : Option Predicate) (m : Mutation) (cancel : Option (Handle E))
  | deleteWhere (filter : Option Predicate) (cancel : Option (Handle E))

namespace SessionWrite

variable [Entity E]

/-- The store after a write, whether it succeeds or fails. -/
def step (s : Schema E) (m : MemoryStore E) : SessionWrite E → MemoryStore E
  | .insert new => (((MemoryStore.backend s).insert new).run m).2
  | .replace e => (((MemoryStore.backend s).replace e).run m).2
  | .updateWhere filter mutation cancel =>
    (((MemoryStore.backend s).updateWhere filter mutation cancel).run m).2
  | .deleteWhere filter cancel => (((MemoryStore.backend s).deleteWhere filter cancel).run m).2

/-- The store after some writes, one after the other. -/
def run (s : Schema E) (m : MemoryStore E) (ws : List (SessionWrite E)) : MemoryStore E :=
  ws.foldl (step s) m

lemma distinct_step {s : Schema E} {m : MemoryStore E} (h : Rows.Distinct s m.rows)
    (w : SessionWrite E) : Rows.Distinct s (w.step s m).rows := by
  cases w with
  | insert new => exact MemoryStore.distinct_insert h new
  | replace e => exact MemoryStore.distinct_replace h e
  | updateWhere filter mutation cancel =>
    exact MemoryStore.distinct_updateWhere h filter mutation cancel
  | deleteWhere filter cancel => exact MemoryStore.distinct_deleteWhere h filter cancel

lemma distinct_foldl {s : Schema E} {m : MemoryStore E} (h : Rows.Distinct s m.rows)
    (ws : List (SessionWrite E)) : Rows.Distinct s (run s m ws).rows := by
  induction ws generalizing m with
  | nil => exact h
  | cons w ws ih => exact ih (distinct_step h w)

/-- **Every run of writes from the empty store leaves distinct rows**: no two of them share an
identifier, or the values of a unique key without null. -/
theorem distinct_run (s : Schema E) (settings : StoreSettings) (ws : List (SessionWrite E)) :
    Rows.Distinct s (run s (MemoryStore.empty settings) ws).rows :=
  distinct_foldl (Rows.distinct_nil s) ws

end SessionWrite

end EntityQuery
