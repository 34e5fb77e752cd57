import EntityQuery.Proofs.Plan.Execution
import EntityQuery.Proofs.Value.Equality
import Mathlib.Data.List.Pairwise

/-!
Groups and who stands for them. Where equality of keys is an equivalence, grouping distributes the
entities: those with equal keys share a group, in their order, and the keys of the groups differ.
Where moreover no two entities of one group tie, each group is stood for by its smallest member,
which is the first with its key however the groups are sorted among each other. Main statements:
`distributes_group`, `mem_representatives_iff` and `perm_firsts`.
-/

namespace EntityQuery

variable {E : Type} (s : Schema E)

namespace GroupKey

variable (k : GroupKey)

/-- Whether two entities have equal keys. -/
def same (a b : E) : Bool := (s.read a k.field).equal (s.read b k.field)

/-- Equality of the keys of entities of some sort is an equivalence. -/
structure Equates (P : E → Prop) : Prop where
  refl : ∀ a, P a → k.same s a a
  trans : ∀ a b c, P a → k.same s a b → k.same s b c → k.same s a c

lemma same_comm (a b : E) : k.same s a b = k.same s b a := Value.equal_comm _ _

lemma equates_of_admits :
    k.Equates s fun e =>
      (s.typeOf k.field).admits (s.read e k.field) ∧ (s.read e k.field).isNaN = false where
  refl := fun _ ha => Value.equal_self_iff.2 ((Value.holdsNaN_of_admits ha.1).trans ha.2)
  trans := fun _ _ _ _ => Value.equal_trans

/-! ### Groups -/

/-- The entities of a list are distributed to groups by their keys. -/
structure Distributes (groups : List (Group E)) (es : List E) : Prop where
  members : ∀ g ∈ groups, g.members = es.filter fun e => g.key.equal (s.read e k.field)
  keys : ∀ v ∈ groups.map Group.key, ∃ e ∈ es, v = s.read e k.field
  differ : (groups.map Group.key).Pairwise fun v w => v.equal w = false
  covers : ∀ e ∈ es, ∃ v ∈ groups.map Group.key, v.equal (s.read e k.field)

/-- One more entity goes into the first group with its key, or into a new one. -/
lemma add_cases (key : Value) (e : E) (groups : List (Group E)) :
    (∃ before g after, groups = before ++ g :: after ∧ (∀ h ∈ before, h.key.equal key = false) ∧
      g.key.equal key ∧
      add key e groups = before ++ { g with members := g.members ++ [e] } :: after) ∨
    (∀ h ∈ groups, h.key.equal key = false) ∧ add key e groups = groups ++ [⟨key, [e]⟩] := by
  induction groups with
  | nil => exact .inr ⟨by simp, rfl⟩
  | cons g rest ih =>
    rw [add]
    cases hg : g.key.equal key with
    | true => exact .inl ⟨[], g, rest, rfl, by simp, hg, rfl⟩
    | false =>
      rw [if_neg (by decide)]
      rcases ih with ⟨before, h, after, rfl, hbefore, hh, hadd⟩ | ⟨hrest, hadd⟩
      · exact .inl ⟨g :: before, h, after, rfl, List.forall_mem_cons.2 ⟨hg, hbefore⟩, hh,
          by rw [hadd, List.cons_append]⟩
      · exact .inr ⟨List.forall_mem_cons.2 ⟨hg, hrest⟩, by rw [hadd, List.cons_append]⟩

/-- A group consists of the entity that started it, whose key it has, and others whose keys are
equal to that. -/
def Gathered (g : Group E) : Prop :=
  ∃ first rest, g.members = first :: rest ∧ g.key = s.read first k.field ∧
    ∀ e ∈ rest, g.key.equal (s.read e k.field)

lemma gathered_group (es : List E) : ∀ g ∈ k.group s es, k.Gathered s g := by
  refine List.foldlRecOn (motive := fun groups => ∀ g ∈ groups, k.Gathered s g) es _
    (List.forall_mem_nil _) fun groups hgroups e _ => ?_
  rcases add_cases (s.read e k.field) e groups with ⟨before, g, after, rfl, -, hg, hadd⟩ | ⟨-, hadd⟩
  · rw [hadd]
    simp only [List.forall_mem_append, List.forall_mem_cons] at hgroups ⊢
    obtain ⟨hbefore, ⟨first, rest, hmembers, hkey, hrest⟩, hafter⟩ := hgroups
    refine ⟨hbefore, ⟨first, rest ++ [e], by simp [hmembers], hkey, ?_⟩, hafter⟩
    exact List.forall_mem_append.2 ⟨hrest, List.forall_mem_singleton.2 hg⟩
  · rw [hadd]
    exact List.forall_mem_append.2
      ⟨hgroups, List.forall_mem_singleton.2 ⟨e, [], rfl, rfl, by simp⟩⟩

variable {s k} {P : E → Prop}

lemma Equates.equal_of_equal (hkeys : k.Equates s P) {a b e : E} (ha : P a)
    (hae : (s.read a k.field).equal (s.read e k.field))
    (hbe : (s.read b k.field).equal (s.read e k.field)) :
    (s.read a k.field).equal (s.read b k.field) :=
  hkeys.trans a e b ha hae (by rw [k.same_comm]; exact hbe)

variable {groups : List (Group E)} {es : List E}

/-- Groups stay distributed when an entity joins the group with its key. -/
lemma Distributes.join (hkeys : k.Equates s P) (hes : ∀ e ∈ es, P e) {before after : List (Group E)}
    {g : Group E} (h : k.Distributes s (before ++ g :: after) es) {e : E}
    (hbefore : ∀ h ∈ before, h.key.equal (s.read e k.field) = false)
    (hg : g.key.equal (s.read e k.field)) :
    k.Distributes s (before ++ { g with members := g.members ++ [e] } :: after) (es ++ [e]) := by
  have hsame : (before ++ { g with members := g.members ++ [e] } :: after).map Group.key =
      (before ++ g :: after).map Group.key := by simp
  -- no later group has this key, for it would have the key of the group that is joined
  have hafter : ∀ h ∈ after, h.key.equal (s.read e k.field) = false := by
    intro h' hh'
    obtain ⟨a, ha, hga⟩ := h.keys g.key (List.mem_map_of_mem (by simp))
    obtain ⟨b, hb, hhb⟩ := h.keys h'.key (List.mem_map_of_mem (by simp [hh']))
    have hdiffer := h.differ
    rw [List.map_append, List.pairwise_append, List.map_cons, List.pairwise_cons] at hdiffer
    have hne := hdiffer.2.1.1 h'.key (List.mem_map_of_mem hh')
    rw [hga] at hg hne
    rw [hhb] at hne ⊢
    refine Bool.eq_false_iff.2 fun hequal => ?_
    rw [hkeys.equal_of_equal (hes a ha) hg hequal] at hne
    cases hne
  have hmembers (g' : Group E) (hg' : g' ∈ before ++ g :: after)
      (hne : g'.key.equal (s.read e k.field) = false) :
      g'.members = (es ++ [e]).filter fun e => g'.key.equal (s.read e k.field) := by
    rw [List.filter_append, ← h.members g' hg']
    simp [hne]
  constructor
  · intro g' hg'
    rcases List.mem_append.1 hg' with hmem | hmem
    · exact hmembers g' (List.mem_append_left _ hmem) (hbefore g' hmem)
    · rcases List.mem_cons.1 hmem with rfl | hmem
      · rw [List.filter_append, ← h.members g (by simp)]
        simp [hg]
      · exact hmembers g' (by simp [hmem]) (hafter g' hmem)
  · rw [hsame]
    intro v hv
    obtain ⟨e', he', hv⟩ := h.keys v hv
    exact ⟨e', List.mem_append_left _ he', hv⟩
  · rw [hsame]
    exact h.differ
  · rw [hsame]
    intro e' he'
    rcases List.mem_append.1 he' with he' | he'
    · exact h.covers e' he'
    · rw [List.mem_singleton.1 he']
      exact ⟨g.key, List.mem_map_of_mem (by simp), hg⟩

/-- Groups stay distributed when an entity with another key starts a group. -/
lemma Distributes.start (hkeys : k.Equates s P) (hes : ∀ e ∈ es, P e)
    (h : k.Distributes s groups es) {e : E} (he : P e)
    (hgroups : ∀ g ∈ groups, g.key.equal (s.read e k.field) = false) :
    k.Distributes s (groups ++ [⟨s.read e k.field, [e]⟩]) (es ++ [e]) := by
  have hothers : ∀ e' ∈ es, (s.read e k.field).equal (s.read e' k.field) = false := by
    intro e' he'
    obtain ⟨v, hv, hequal⟩ := h.covers e' he'
    obtain ⟨a, ha, rfl⟩ := h.keys v hv
    obtain ⟨g, hg, hkey⟩ := List.mem_map.1 hv
    refine Bool.eq_false_iff.2 fun hsame => ?_
    have hne := hgroups g hg
    rw [hkey, hkeys.equal_of_equal (hes a ha) hequal hsame] at hne
    cases hne
  have hself : (s.read e k.field).equal (s.read e k.field) := hkeys.refl e he
  constructor
  · intro g hg
    rcases List.mem_append.1 hg with hg | hg
    · rw [List.filter_append, ← h.members g hg]
      simp [hgroups g hg]
    · rw [List.mem_singleton.1 hg, List.filter_append, List.filter_eq_nil_iff.2 (by simpa using
        hothers)]
      simp [hself]
  · intro v hv
    rw [List.map_append, List.mem_append] at hv
    rcases hv with hv | hv
    · obtain ⟨a, ha, hv⟩ := h.keys v hv
      exact ⟨a, List.mem_append_left _ ha, hv⟩
    · exact ⟨e, by simp, by simpa using hv⟩
  · rw [List.map_append, List.pairwise_append]
    refine ⟨h.differ, List.pairwise_singleton _ _, fun v hv w hw => ?_⟩
    obtain ⟨g, hg, rfl⟩ := List.mem_map.1 hv
    obtain rfl : w = s.read e k.field := by simpa using hw
    exact hgroups g hg
  · intro e' he'
    rw [List.map_append]
    rcases List.mem_append.1 he' with he' | he'
    · obtain ⟨v, hv, hequal⟩ := h.covers e' he'
      exact ⟨v, List.mem_append_left _ hv, hequal⟩
    · rw [List.mem_singleton.1 he']
      exact ⟨s.read e k.field, by simp, hself⟩

lemma Distributes.add (hkeys : k.Equates s P) (hes : ∀ e ∈ es, P e)
    (h : k.Distributes s groups es) {e : E} (he : P e) :
    k.Distributes s (add (s.read e k.field) e groups) (es ++ [e]) := by
  rcases add_cases (s.read e k.field) e groups with
    ⟨before, g, after, rfl, hbefore, hg, hadd⟩ | ⟨hgroups, hadd⟩
  · rw [hadd]
    exact h.join hkeys hes hbefore hg
  · rw [hadd]
    exact h.start hkeys hes he hgroups

/-- **Grouping distributes the entities.** -/
theorem distributes_group (hkeys : k.Equates s P) (hes : ∀ e ∈ es, P e) :
    k.Distributes s (k.group s es) es := by
  have hfold (groups : List (Group E)) (done : List E) (hdone : ∀ e ∈ done, P e)
      (h : k.Distributes s groups done) :
      k.Distributes s (es.foldl (fun groups e => GroupKey.add (s.read e k.field) e groups) groups)
        (done ++ es) := by
    induction es generalizing groups done with
    | nil => rwa [List.append_nil]
    | cons e es ih =>
      rw [List.forall_mem_cons] at hes
      have hnext := ih hes.2 _ (done ++ [e])
        (List.forall_mem_append.2 ⟨hdone, by simpa using hes.1⟩) (h.add hkeys hdone hes.1)
      rwa [List.append_assoc, List.singleton_append] at hnext
  refine hfold [] [] (by simp) ⟨?_, ?_, .nil, ?_⟩ <;> simp

end GroupKey

/-! ### First with their keys -/

namespace GroupKey

variable (k : GroupKey)

/-- The entities whose keys nothing in front of them has. -/
def firsts : (before es : List E) → List E
  | _, [] => []
  | before, e :: es =>
    if before.any (k.same s e) then firsts (e :: before) es else e :: firsts (e :: before) es

lemma firsts_sublist (before es : List E) : (k.firsts s before es).Sublist es := by
  induction es generalizing before with
  | nil => exact .slnil
  | cons e es ih =>
    rw [firsts]
    split
    · exact (ih _).cons e
    · exact (ih _).cons_cons e

variable {s k} {order : SortKey}

/-- Where entities with one key rise, the first of them is the smallest. -/
lemma mem_firsts_iff {before es : List E}
    (hrises : es.Pairwise fun a b => k.same s a b → order.compare s a b = .lt) {e : E} :
    e ∈ k.firsts s before es ↔ e ∈ es ∧ (∀ b ∈ before, k.same s e b = false) ∧
      ∀ e' ∈ es, k.same s e e' → (order.compare s e e').isLE := by
  induction es generalizing before with
  | nil => simp [firsts]
  | cons a es ih =>
    rw [List.pairwise_cons] at hrises
    -- behind an entity with the same key everything is larger, so no larger means another key
    have hbehind (h : e ∈ es) :
        k.same s e a = false ↔ (k.same s e a → (order.compare s e a).isLE) := by
      refine ⟨fun hne hsame => ?_, fun hle => Bool.eq_false_iff.2 fun hsame => ?_⟩
      · rw [hne] at hsame
        cases hsame
      · have hlt := hrises.1 e h (by rw [k.same_comm]; exact hsame)
        have hgt := hle hsame
        rw [order.compare_swap s a e, hlt] at hgt
        cases hgt
    have hrest : e ∈ k.firsts s (a :: before) es ↔ e ∈ es ∧
        (∀ b ∈ before, k.same s e b = false) ∧
          ∀ e' ∈ a :: es, k.same s e e' → (order.compare s e e').isLE := by
      rw [ih hrises.2, List.forall_mem_cons, List.forall_mem_cons]
      constructor
      · rintro ⟨hmem, ⟨hne, hnew⟩, hleast⟩
        exact ⟨hmem, hnew, (hbehind hmem).1 hne, hleast⟩
      · rintro ⟨hmem, hnew, hle, hleast⟩
        exact ⟨hmem, ⟨(hbehind hmem).2 hle, hnew⟩, hleast⟩
    rw [firsts]
    split
    · rename_i hseen
      obtain ⟨b, hb, hsame⟩ := List.any_eq_true.1 hseen
      rw [hrest, List.mem_cons]
      refine ⟨fun ⟨hmem, h⟩ => ⟨.inr hmem, h⟩, fun ⟨hmem, hnew, hleast⟩ => ?_⟩
      rcases hmem with rfl | hmem
      · rw [hnew b hb] at hsame
        cases hsame
      · exact ⟨hmem, hnew, hleast⟩
    · rename_i hseen
      have hnew : ∀ b ∈ before, k.same s a b = false := by simpa using hseen
      rw [List.mem_cons, hrest, List.mem_cons]
      constructor
      · rintro (rfl | ⟨hmem, h⟩)
        · refine ⟨.inl rfl, hnew, List.forall_mem_cons.2 ⟨fun _ => ?_, fun e' he' hsame => ?_⟩⟩
          · rw [order.compare_self]
            rfl
          · rw [hrises.1 e' he' hsame]
            rfl
        · exact ⟨.inr hmem, h⟩
      · rintro ⟨rfl | hmem, h⟩
        · exact .inl rfl
        · exact .inr ⟨hmem, h⟩

end GroupKey

/-! ### Representatives -/

namespace Representative

variable {s} {k : GroupKey} {order : SortKey} {P : E → Prop} {r : Representative} {es : List E}

lemma of_first?_eq_some (hr : r.order = some order) (horder : order.Transitive s P) {g : Group E}
    (hg : ∀ e ∈ g.members, P e) {e : E} (h : r.first? s g = some e) :
    e ∈ g.members ∧ ∀ e' ∈ g.members, (order.compare s e e').isLE := by
  have hordered : r.ordered s g.members = order.sort s g.members := by rw [ordered, hr]
  obtain ⟨rest, hsort⟩ := List.head?_eq_some_iff.1 h
  rw [hordered] at hsort
  have hperm := order.sort_perm s g.members
  have hrises := SortKey.pairwise_sort horder hg
  rw [hsort] at hperm hrises
  refine ⟨hperm.mem_iff.1 List.mem_cons_self, fun e' he' => ?_⟩
  rcases List.mem_cons.1 (hperm.mem_iff.2 he') with rfl | he'
  · rw [order.compare_self]
    rfl
  · exact (List.pairwise_cons.1 hrises).1 e' he'

/-- It does not matter which of two entities of a group is compared with the other. -/
lemma symm_untied : Std.Symm fun a b => k.same s a b → order.compare s a b ≠ .eq := by
  refine ⟨fun a b hne hsame => ?_⟩
  rw [k.same_comm] at hsame
  rw [order.compare_swap s a b]
  simpa using hne hsame

/-- Where nothing ties within a group, entities of one group that tie are one. -/
lemma eq_of_tie (hties : es.Pairwise fun a b => k.same s a b → order.compare s a b ≠ .eq) {a b : E}
    (ha : a ∈ es) (hb : b ∈ es) (hsame : k.same s a b) (htie : order.compare s a b = .eq) :
    a = b := by
  have : Std.Symm fun a b => k.same s a b → order.compare s a b ≠ .eq := symm_untied
  by_contra hne
  exact hties.forall ha hb hne hsame htie

section Groups

variable (hkeys : k.Equates s P) (hr : r.order = some order) (horder : order.Transitive s P)
  (hes : ∀ e ∈ es, P e)

include hkeys hr horder hes

lemma of_first?_of_mem {g : Group E} (hg : g ∈ k.group s es) {e : E} (h : r.first? s g = some e) :
    e ∈ es ∧ g.key.equal (s.read e k.field) ∧
      ∀ e' ∈ es, k.same s e e' → (order.compare s e e').isLE := by
  have hgroups := GroupKey.distributes_group hkeys hes
  have hmembers := hgroups.members g hg
  obtain ⟨a, ha, hkey⟩ := hgroups.keys g.key (List.mem_map_of_mem hg)
  have hmem (e' : E) : e' ∈ g.members ↔ e' ∈ es ∧ g.key.equal (s.read e' k.field) := by
    rw [hmembers, List.mem_filter]
  obtain ⟨he, hleast⟩ := of_first?_eq_some hr horder (fun e' he' => hes e' ((hmem e').1 he').1) h
  obtain ⟨he, hequal⟩ := (hmem e).1 he
  refine ⟨he, hequal, fun e' he' hsame => hleast e' ((hmem e').2 ⟨he', ?_⟩)⟩
  rw [hkey] at hequal ⊢
  exact hkeys.trans a e e' (hes a ha) hequal hsame

lemma pairwise_representatives :
    ((k.group s es).filterMap (r.first? s)).Pairwise fun a b => k.same s a b = false := by
  have hgroups := GroupKey.distributes_group hkeys hes
  rw [List.pairwise_filterMap]
  refine (List.pairwise_map.1 hgroups.differ).imp_of_mem fun {g h} hg hh hne a ha b hb => ?_
  obtain ⟨c, hc, hgkey⟩ := hgroups.keys g.key (List.mem_map_of_mem hg)
  obtain ⟨d, -, hhkey⟩ := hgroups.keys h.key (List.mem_map_of_mem hh)
  have hga := (of_first?_of_mem hkeys hr horder hes hg ha).2.1
  have hhb := (of_first?_of_mem hkeys hr horder hes hh hb).2.1
  rw [hgkey] at hga hne
  rw [hhkey] at hhb hne
  refine Bool.eq_false_iff.2 fun hsame => ?_
  have hcb := hkeys.trans c a b (hes c hc) hga hsame
  rw [hkeys.equal_of_equal (hes c hc) hcb hhb] at hne
  cases hne

/-- **Without ties within a group, those who stand for the groups are the smallest of all with their
keys.** -/
theorem mem_representatives_iff
    (hties : es.Pairwise fun a b => k.same s a b → order.compare s a b ≠ .eq) {e : E} :
    e ∈ (k.group s es).filterMap (r.first? s) ↔
      e ∈ es ∧ ∀ e' ∈ es, k.same s e e' → (order.compare s e e').isLE := by
  rw [List.mem_filterMap]
  constructor
  · rintro ⟨g, hg, he⟩
    obtain ⟨hmem, -, hleast⟩ := of_first?_of_mem hkeys hr horder hes hg he
    exact ⟨hmem, hleast⟩
  · rintro ⟨he, hleast⟩
    have hgroups := GroupKey.distributes_group hkeys hes
    obtain ⟨v, hv, hequal⟩ := hgroups.covers e he
    obtain ⟨a, ha, hkey⟩ := hgroups.keys v hv
    obtain ⟨g, hg, rfl⟩ := List.mem_map.1 hv
    obtain ⟨f, hf⟩ := Option.isSome_iff_exists.1
      (r.isSome_first? s (k.group_ne_nil s es g hg))
    obtain ⟨hfmem, hfequal, hfleast⟩ := of_first?_of_mem hkeys hr horder hes hg hf
    rw [hkey] at hequal hfequal
    have hsame : k.same s e f := by
      refine hkeys.trans e a f (hes e he) ?_ hfequal
      rw [k.same_comm]
      exact hequal
    have hback : k.same s f e := by rw [k.same_comm]; exact hsame
    have htie := order.eq_of_isLE s (hleast f hfmem hsame) (hfleast e he hback)
    rw [eq_of_tie hties he hfmem hsame htie]
    exact ⟨g, hg, hf⟩

/-- **Without ties within a group, those who stand for the groups are the first with their keys**,
wherever the entities of one group rise. -/
theorem perm_firsts (hties : es.Pairwise fun a b => k.same s a b → order.compare s a b ≠ .eq)
    {arranged : List E} (hperm : arranged.Perm es)
    (hrises : arranged.Pairwise fun a b => k.same s a b → (order.compare s a b).isLE) :
    (k.firsts s [] arranged).Perm ((k.group s es).filterMap (r.first? s)) := by
  have huntied : arranged.Pairwise fun a b => k.same s a b → order.compare s a b ≠ .eq :=
    (hperm.pairwise_iff (symm_untied.symm _ _)).2 hties
  have hstrict : arranged.Pairwise fun a b => k.same s a b → order.compare s a b = .lt := by
    refine (hrises.and huntied).imp fun {a b} ⟨hle, hne⟩ hsame => ?_
    have hle := hle hsame
    cases h : order.compare s a b with
    | lt => rfl
    | eq => exact absurd h (hne hsame)
    | gt =>
      rw [h] at hle
      cases hle
  have hself : ∀ e ∈ es, k.same s e e := fun e he => hkeys.refl e (hes e he)
  have hnodup : arranged.Nodup := by
    refine hstrict.imp_of_mem fun {a b} ha _ hlt => ?_
    rintro rfl
    have hirreflexive := hlt (hself a (hperm.mem_iff.1 ha))
    rw [order.compare_self] at hirreflexive
    cases hirreflexive
  have hchosen : ((k.group s es).filterMap (r.first? s)).Nodup := by
    refine (pairwise_representatives hkeys hr horder hes).imp_of_mem fun {a b} ha _ hne => ?_
    rintro rfl
    have hmem := ((mem_representatives_iff hkeys hr horder hes hties).1 ha).1
    rw [hself a hmem] at hne
    cases hne
  refine (List.perm_ext_iff_of_nodup (hnodup.sublist (k.firsts_sublist s [] arranged)) hchosen).2
    fun e => ?_
  rw [GroupKey.mem_firsts_iff hstrict, mem_representatives_iff hkeys hr horder hes hties]
  simp [hperm.mem_iff]

end Groups

end Representative

end EntityQuery
