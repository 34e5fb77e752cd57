import EntityQuery.Proofs.Plan.Grouping
import EntityQuery.Samples
import Mathlib.Data.List.Induction

/-!
Grouping as a partition. Among keys that hold no NaN, grouping splits a list of entities into groups
with different keys: each group holds all entities with its key as they stood, each entity is in one
group only, and the groups come in the order of their first entities. Main statement:
`partitions_group`.
-/

namespace EntityQuery.GroupKey

variable {E : Type} (s : Schema E) (k : GroupKey)

/-- The position of the first entity with a key. -/
def firstAt (es : List E) (v : Value) : ℕ := es.findIdx fun e => v.equal (s.read e k.field)

/-- Groups that partition a list of entities by their keys. -/
structure Partitions (groups : List (Group E)) (es : List E) : Prop where
  /-- No group is empty, and the key of a group is that of its first member. -/
  heads : ∀ g ∈ groups, ∃ e rest, g.members = e :: rest ∧ g.key = s.read e k.field
  /-- The members of a group are the entities with its key, as they stood. -/
  members : ∀ g ∈ groups, g.members = es.filter fun e => g.key.equal (s.read e k.field)
  differ : groups.Pairwise fun g h => g.key.equal h.key = false
  /-- Every entity is in one group. -/
  single : ∀ e ∈ es, ∃! g, g ∈ groups ∧ e ∈ g.members
  /-- Every entity is in the groups as often as in the list. -/
  perm : (groups.flatMap Group.members).Perm es
  order : groups.Pairwise fun g h => k.firstAt s es g.key < k.firstAt s es h.key
  /-- The entities without key are one group. -/
  nulls : (∃ e ∈ es, (s.read e k.field).isNull) →
    ⟨.null, es.filter fun e => (s.read e k.field).isNull⟩ ∈ groups

lemma equates_of_holdsNaN : k.Equates s fun e => (s.read e k.field).holdsNaN = false where
  refl := fun _ => Value.equal_self_iff.2
  trans := fun _ _ _ _ => Value.equal_trans

lemma group_concat (es : List E) (e : E) :
    k.group s (es ++ [e]) = add (s.read e k.field) e (k.group s es) := by
  rw [group, List.foldl_append]
  rfl

/-! ### Members -/

lemma flatMap_add (key : Value) (e : E) (groups : List (Group E)) :
    ((add key e groups).flatMap Group.members).Perm (groups.flatMap Group.members ++ [e]) := by
  rcases add_cases key e groups with ⟨before, g, after, rfl, -, -, hadd⟩ | ⟨-, hadd⟩
  · rw [hadd]
    simp only [List.flatMap_append, List.flatMap_cons, List.append_assoc]
    exact ((List.perm_append_comm).append_left _).append_left _
  · rw [hadd, List.flatMap_append]
    rfl

lemma flatMap_group (es : List E) : ((k.group s es).flatMap Group.members).Perm es := by
  induction es using List.reverseRecOn with
  | nil => exact .refl _
  | append_singleton es e ih =>
    rw [group_concat]
    exact (flatMap_add _ e _).trans (ih.append_right [e])

variable {s k} {P : E → Prop} {groups : List (Group E)} {es : List E}

lemma Distributes.eq_of_mem (h : k.Distributes s groups es) {g g' : Group E} (hg : g ∈ groups)
    (hg' : g' ∈ groups) {e : E} (he : e ∈ g.members) (he' : e ∈ g'.members) : g = g' := by
  have hequal {g : Group E} (hg : g ∈ groups) (he : e ∈ g.members) :
      g.key.equal (s.read e k.field) := by
    rw [h.members g hg] at he
    exact (List.mem_filter.1 he).2
  have : Std.Symm fun g h : Group E => g.key.equal h.key = false :=
    ⟨fun g h => (Value.equal_comm h.key g.key).trans⟩
  by_contra hne
  have hdiffer := (List.pairwise_map.1 h.differ).forall hg hg' hne
  have hsame := Value.equal_trans (hequal hg he) ((Value.equal_comm _ _).trans (hequal hg' he'))
  rw [hdiffer] at hsame
  cases hsame

lemma Distributes.existsUnique (h : k.Distributes s groups es) {e : E} (he : e ∈ es) :
    ∃! g, g ∈ groups ∧ e ∈ g.members := by
  obtain ⟨v, hv, hequal⟩ := h.covers e he
  obtain ⟨g, hg, rfl⟩ := List.mem_map.1 hv
  have hmem : e ∈ g.members := by
    rw [h.members g hg]
    exact List.mem_filter.2 ⟨he, hequal⟩
  exact ⟨g, ⟨hg, hmem⟩, fun g' hg' => h.eq_of_mem hg'.1 hg hg'.2 hmem⟩

/-- The entities without key are a group, if there are any. -/
lemma Distributes.null_mem (h : k.Distributes s groups es) {e : E} (he : e ∈ es)
    (hnull : (s.read e k.field).isNull) :
    ⟨.null, es.filter fun e => (s.read e k.field).isNull⟩ ∈ groups := by
  have hequal (v : Value) : Value.null.equal v = v.isNull := by cases v <;> rfl
  obtain ⟨v, hv, hcover⟩ := h.covers e he
  obtain ⟨⟨key, members⟩, hg, rfl⟩ := List.mem_map.1 hv
  rw [Value.eq_null_of_isNull hnull, Value.equal_comm, hequal] at hcover
  obtain rfl := Value.eq_null_of_isNull hcover
  have hmembers := h.members _ hg
  simp only [hequal] at hmembers
  rwa [← hmembers]

/-! ### Order -/

lemma firstAt_concat {v : Value} (hv : ∃ e ∈ es, v.equal (s.read e k.field)) (e : E) :
    k.firstAt s es v < es.length ∧ k.firstAt s (es ++ [e]) v = k.firstAt s es v := by
  have hlt : k.firstAt s es v < es.length := List.findIdx_lt_length.2 hv
  refine ⟨hlt, ?_⟩
  rw [firstAt, List.findIdx_append]
  exact if_pos hlt

lemma firstAt_concat_self {e : E} (hself : k.same s e e)
    (hnew : ∀ e' ∈ es, k.same s e e' = false) :
    k.firstAt s (es ++ [e]) (s.read e k.field) = es.length := by
  have hnone : es.findIdx (k.same s e) = es.length := List.findIdx_eq_length.2 hnew
  show (es ++ [e]).findIdx (k.same s e) = _
  rw [List.findIdx_append, hnone, if_neg (Nat.lt_irrefl _), List.findIdx_singleton, if_pos hself,
    Nat.zero_add]

/-- Groups come in the order of the first entities with their keys. -/
lemma pairwise_firstAt (hkeys : k.Equates s P) (hes : ∀ e ∈ es, P e) :
    ((k.group s es).map Group.key).Pairwise fun v w => k.firstAt s es v < k.firstAt s es w := by
  induction es using List.reverseRecOn with
  | nil => exact .nil
  | append_singleton es e ih =>
    rw [List.forall_mem_append, List.forall_mem_singleton] at hes
    have hgroups := distributes_group hkeys hes.1
    have hstays : ∀ v ∈ (k.group s es).map Group.key,
        k.firstAt s es v < es.length ∧ k.firstAt s (es ++ [e]) v = k.firstAt s es v := by
      intro v hv
      obtain ⟨a, ha, rfl⟩ := hgroups.keys v hv
      exact firstAt_concat ⟨a, ha, hkeys.refl a (hes.1 a ha)⟩ e
    have hrises : ((k.group s es).map Group.key).Pairwise
        fun v w => k.firstAt s (es ++ [e]) v < k.firstAt s (es ++ [e]) w := by
      refine (ih hes.1).imp_of_mem fun {v w} hv hw hlt => ?_
      rwa [(hstays v hv).2, (hstays w hw).2]
    rw [group_concat]
    rcases add_cases (s.read e k.field) e (k.group s es) with
      ⟨before, g, after, hsplit, -, -, hadd⟩ | ⟨hnew, hadd⟩
    · -- no key is new
      rw [hsplit] at hrises
      rw [hadd]
      simpa using hrises
    · rw [hadd, List.map_append, List.pairwise_append]
      refine ⟨hrises, List.pairwise_singleton _ _, fun v hv w hw => ?_⟩
      obtain rfl := List.mem_singleton.1 hw
      have hothers : ∀ a ∈ es, k.same s e a = false := by
        intro a ha
        obtain ⟨w, hw, hcover⟩ := hgroups.covers a ha
        obtain ⟨g, hg, rfl⟩ := List.mem_map.1 hw
        refine Bool.eq_false_iff.2 fun hsame => ?_
        have hne := hnew g hg
        rw [Value.equal_trans hcover ((k.same_comm s a e).trans hsame)] at hne
        cases hne
      show k.firstAt s (es ++ [e]) v < k.firstAt s (es ++ [e]) (s.read e k.field)
      rw [(hstays v hv).2, firstAt_concat_self (hkeys.refl e hes.2) hothers]
      exact (hstays v hv).1

/-- **Grouping partitions every list of entities whose keys hold no NaN.** -/
theorem partitions_group (hes : ∀ e ∈ es, (s.read e k.field).holdsNaN = false) :
    k.Partitions s (k.group s es) es := by
  have hkeys := k.equates_of_holdsNaN s
  have hgroups := distributes_group hkeys hes
  have hdiffer := hgroups.differ
  have horder := pairwise_firstAt hkeys hes
  rw [List.pairwise_map] at hdiffer horder
  constructor
  case heads =>
    intro g hg
    obtain ⟨first, rest, hmembers, hkey, -⟩ := k.gathered_group s es g hg
    exact ⟨first, rest, hmembers, hkey⟩
  case members => exact hgroups.members
  case differ => exact hdiffer
  case single => exact fun e he => hgroups.existsUnique he
  case perm => exact k.flatMap_group s es
  case order => exact horder
  case nulls => exact fun ⟨e, he, hnull⟩ => hgroups.null_mem he hnull

/-- Tasks by score: both zeros are one score, and the tasks without score are a group. -/
theorem partitions_of_scores :
    let s : Schema Slots := ⟨"Task", Samples.task.draft.fields, [], [], none⟩
    let task (title : String) (score : Value) : Slots :=
      ⟨.fresh Uuid.nil Instant.epoch, [.text title, .null, score, .null, .null, .bool false], [],
        none⟩
    let two : Value := .float ⟨0x4000000000000000⟩
    let zero : Value := .float ⟨0⟩
    let es := [task "sow" two, task "mow" .null, task "reap" zero, task "dig" two,
      task "plough" .null, task "rake" (.float ⟨0x8000000000000000⟩)]
    let groups : List (Group Slots) :=
      [⟨two, [task "sow" two, task "dig" two]⟩,
        ⟨.null, [task "mow" .null, task "plough" .null]⟩,
        ⟨zero, [task "reap" zero, task "rake" (.float ⟨0x8000000000000000⟩)]⟩]
    let k : GroupKey := ⟨⟨7, "Score"⟩⟩
    GroupKey.ofName s "score" = .ok k ∧ (∀ e ∈ es, (s.read e k.field).holdsNaN = false) ∧
      k.group s es = groups ∧ k.Partitions s groups es := by
  intro s task two zero es groups k
  have numbers : ∀ e ∈ es, (s.read e k.field).holdsNaN = false := by
    simp only [es, List.mem_cons, List.not_mem_nil, or_false, forall_eq_or_imp, forall_eq]
    decide
  exact ⟨rfl, numbers, rfl, partitions_group numbers⟩

end EntityQuery.GroupKey
