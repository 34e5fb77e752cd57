import EntityQuery.Proofs.Plan.Execution
import EntityQuery.Proofs.Plan.Reshaping
import EntityQuery.Proofs.Plan.Resolution
import EntityQuery.Samples

/-!
The choice in a group. Sorting a group and taking what comes first is taking the first of its
smallest members: nothing is smaller, everything in front of it is larger, and there is only one
such place in the group. Main statement: `elects_select`.
-/

namespace EntityQuery

variable {E : Type} {s : Schema E}

/-! ### The first of the smallest -/

namespace SortKey

variable {k : SortKey} {P : E → Prop} {before after before' after' es rest : List E} {e e' : E}

/-- The first of the smallest entities of a list: nothing is smaller, and everything in front of it
is larger. -/
structure Leads (s : Schema E) (k : SortKey) (before : List E) (e : E) (after : List E) : Prop where
  least : ∀ a ∈ before ++ e :: after, k.compare s a e ≠ .lt
  first : ∀ b ∈ before, k.compare s b e = .gt

/-- What leads by its value: going down the first of the largest, which is null only among nulls;
going up the first null if there is one. -/
def LeadsByValue (s : Schema E) (k : SortKey) (before : List E) (e : E) (after : List E) : Prop :=
  let value a := s.read a k.field
  match k.direction with
  | .descending =>
    (∀ a ∈ before ++ e :: after, ((value a).sortCompare (value e)).isLE) ∧
      (∀ b ∈ before, (value b).sortCompare (value e) = .lt) ∧
      ((value e).isNull → ∀ a ∈ before ++ e :: after, (value a).isNull)
  | .ascending =>
    (∃ a ∈ before ++ e :: after, (value a).isNull) →
      (value e).isNull ∧ ∀ b ∈ before, (value b).isNull = false

lemma leads_of_sort (horder : k.Transitive s P) (hes : ∀ a ∈ es, P a)
    (h : k.sort s es = e :: rest) :
    ∃ before after, es = before ++ e :: after ∧ k.Leads s before e after := by
  have hperm := k.sort_perm s es
  have hrises := pairwise_sort horder hes
  rw [h] at hperm hrises
  have hleast : ∀ a ∈ es, (k.compare s e a).isLE := by
    intro a ha
    rcases List.mem_cons.1 (hperm.mem_iff.2 ha) with rfl | ha
    · rw [k.compare_self]
      rfl
    · exact (List.pairwise_cons.1 hrises).1 a ha
  -- those that tie stand as they stood, so nothing in front of the first of them ties
  have hties := filter_sort horder (hes e (hperm.mem_iff.1 List.mem_cons_self)) hes
  rw [h, List.filter_cons_of_pos (by rw [k.compare_self]; rfl)] at hties
  obtain ⟨before, after, rfl, hbefore, -, -⟩ := List.filter_eq_cons_iff.1 hties.symm
  refine ⟨before, after, rfl, fun a ha => ?_, fun b hb => ?_⟩
  · have hle := hleast a ha
    rw [k.compare_swap s e a]
    cases ho : k.compare s e a <;> simp_all
  · have hle := hleast b (List.mem_append_left _ hb)
    have hne := hbefore b hb
    rw [k.compare_swap s e b]
    cases ho : k.compare s e b <;> simp_all

/-- Of two places in a list, what stands in front does not lead if the other does. -/
lemma Leads.not_append {middle : List E} (h : k.Leads s before e (middle ++ e' :: after)) :
    ¬ k.Leads s (before ++ e :: middle) e' after := by
  intro h'
  have hgt := h'.first e (by simp)
  have hlt := h.least e' (by simp)
  rw [k.compare_swap s e e', hgt] at hlt
  exact hlt rfl

lemma Leads.unique (h : k.Leads s before e after) (h' : k.Leads s before' e' after')
    (hsplit : before ++ e :: after = before' ++ e' :: after') : before = before' := by
  rcases List.append_eq_append_iff.1 hsplit with ⟨middle, rfl, hrest⟩ | ⟨middle, rfl, hrest⟩
  · cases middle with
    | nil => simp
    | cons a middle =>
      obtain ⟨rfl, rfl⟩ := List.cons.inj hrest
      exact absurd h' h.not_append
  · cases middle with
    | nil => simp
    | cons a middle =>
      obtain ⟨rfl, rfl⟩ := List.cons.inj hrest
      exact absurd h h'.not_append

lemma compare_of_isNull {a b : E} (ha : (s.read a k.field).isNull)
    (hb : (s.read b k.field).isNull) : k.compare s a b = .eq := by
  rw [compare, Value.eq_null_of_isNull ha, Value.eq_null_of_isNull hb]
  cases k.direction <;> rfl

/-- What leads does so by its value. -/
lemma Leads.byValue (h : k.Leads s before e after) : k.LeadsByValue s before e after := by
  have hle : ∀ a ∈ before ++ e :: after, (k.compare s e a).isLE := by
    intro a ha
    rw [k.compare_swap s a e]
    have hne := h.least a ha
    cases ho : k.compare s a e <;> simp_all
  have hnull : ∀ a ∈ before ++ e :: after, k.PlacesNull s e a :=
    fun a ha => placesNull_of_isLE (hle a ha)
  have hfirst := h.first
  unfold LeadsByValue
  cases hdirection : k.direction with
  | descending =>
    simp only [PlacesNull, compare, hdirection] at hle hnull hfirst ⊢
    simp only [← Value.sortCompare_swap] at hle
    refine ⟨hle, fun b hb => ?_, fun he a ha => hnull a ha he⟩
    have hgt := hfirst b hb
    rw [← Value.sortCompare_swap] at hgt
    rw [Value.sortCompare_swap (s.read e k.field), hgt]
    rfl
  | ascending =>
    simp only [PlacesNull, hdirection] at hnull ⊢
    rintro ⟨a, ha, hisNull⟩
    have he := hnull a ha hisNull
    refine ⟨he, fun b hb => Bool.eq_false_iff.2 fun hbnull => ?_⟩
    have hgt := hfirst b hb
    rw [compare_of_isNull hbnull he] at hgt
    cases hgt

end SortKey

/-! ### Representatives -/

namespace Representative

variable {r : Representative} {g : Group E} {before after before' after' : List E} {e e' : E}

/-- The member that a choice falls on: the first one, or the first of the smallest. -/
def Elects (s : Schema E) (r : Representative) (before : List E) (e : E) (after : List E) : Prop :=
  match r.order with
  | some key => key.Leads s before e after
  | none => before = []

/-- Only a document that cannot be decoded keeps a group from having its result. -/
lemma exists_of_select_eq_error {error : QueryError} (h : r.select s g = .error error) :
    ∃ p ∈ r.projection, ∃ c ∈ p.columns, c.structured ∧
      ∃ problem, error = .projection c.key problem := by
  cases he : r.first? s g with
  | none =>
    have hordered := List.head?_eq_none_iff.1 he
    rw [select, hordered] at h
    cases h
  | some e =>
    rw [select_of_first? he] at h
    have hpresent := Result.map_eq_error_iff.1 h
    cases hp : r.projection with
    | none =>
      rw [hp] at hpresent
      cases hpresent
    | some p =>
      rw [hp] at hpresent
      exact ⟨p, rfl, Projection.exists_of_apply_eq_error (Result.map_eq_error_iff.1 hpresent)⟩

lemma select_eq_none_iff : r.select s g = .ok none ↔ g.members = [] := by
  by_cases hg : g.members = []
  · have hordered : r.ordered s g.members = [] := by
      rw [← List.length_eq_zero_iff, (r.ordered_perm s _).length_eq, hg]
      rfl
    rw [select, hordered]
    exact iff_of_true rfl hg
  · obtain ⟨e, he⟩ := Option.isSome_iff_exists.1 (r.isSome_first? s hg)
    rw [select_of_first? he]
    refine iff_of_false (fun h => ?_) hg
    obtain ⟨_, -, hsome⟩ := Result.map_eq_ok_iff.1 h
    cases hsome

/-- The entity that stands for a group is the one that the choice falls on. -/
lemma elects_first? {P : E → Prop} (horder : ∀ key ∈ r.order, key.Transitive s P)
    (hg : ∀ a ∈ g.members, P a) (h : r.first? s g = some e) :
    ∃ before after, g.members = before ++ e :: after ∧ r.Elects s before e after := by
  obtain ⟨rest, hordered⟩ := List.head?_eq_some_iff.1 h
  unfold Elects
  unfold ordered at hordered
  cases hr : r.order with
  | none =>
    rw [hr] at hordered
    exact ⟨[], rest, hordered, rfl⟩
  | some key =>
    rw [hr] at hordered
    exact SortKey.leads_of_sort (horder key hr) hg hordered

lemma Elects.unique (h : r.Elects s before e after) (h' : r.Elects s before' e' after')
    (hsplit : before ++ e :: after = before' ++ e' :: after') : before = before' := by
  unfold Elects at h h'
  cases hr : r.order with
  | none =>
    simp only [hr] at h h'
    rw [h, h']
  | some key =>
    simp only [hr] at h h'
    exact h.unique h' hsplit

/-- **A group is stood for by the first of its smallest members**, reshaped as the choice says;
without an order by its first member. There is nothing only for an empty group, and an error only
where the choice asks for a document that cannot be decoded. The choice falls on one place in the
group. -/
theorem elects_select {rule : GroupRule} (hr : ofRule s rule = .ok r)
    (hg : ∀ a ∈ g.members, s.Conforms a)
    (hnumbers : ∀ key ∈ r.order, ∀ a ∈ g.members, (s.read a key.field).isNaN = false) :
    (r.select s g = .ok none ↔ g.members = []) ∧
      (∀ error, r.select s g = .error error → ∃ p ∈ r.projection, ∃ c ∈ p.columns, c.structured ∧
        ∃ problem, error = .projection c.key problem) ∧
      (g.members ≠ [] → ∃ before e after, g.members = before ++ e :: after ∧
        r.select s g = some <$> Plan.present s r.projection e ∧
        r.Elects s before e after ∧ (∀ key ∈ r.order, key.LeadsByValue s before e after) ∧
        ∀ before' e' after', g.members = before' ++ e' :: after' →
          r.Elects s before' e' after' → before' = before) := by
  refine ⟨select_eq_none_iff, fun _ => exists_of_select_eq_error, fun hne => ?_⟩
  obtain ⟨e, he⟩ := Option.isSome_iff_exists.1 (r.isSome_first? s hne)
  obtain ⟨horder, -⟩ := ofRule_eq_ok_iff.1 hr
  have htransitive : ∀ key ∈ r.order, key.Transitive s (· ∈ g.members) := by
    intro key hkey
    have hdeclared := SortKey.declares_of_ofRule (horder.trans (congrArg _ hkey))
    have hfits : ∀ a ∈ g.members, _ :=
      fun a ha => And.intro (hg a ha _ hdeclared.mem) (hnumbers key hkey a ha)
    exact fun a b c ha hb hc =>
      key.transitive_of_admits s a b c (hfits a ha) (hfits b hb) (hfits c hc)
  obtain ⟨before, after, hsplit, helects⟩ := elects_first? htransitive (fun _ ha => ha) he
  refine ⟨before, e, after, hsplit, select_of_first? he, helects, fun key hkey => ?_, ?_⟩
  · unfold Elects at helects
    rw [Option.mem_def.1 hkey] at helects
    exact helects.byValue
  · intro before' e' after' hsplit' helects'
    exact helects'.unique helects (hsplit'.symm.trans hsplit)

/-- Of the tasks of one owner, the title of the first with the highest score. -/
theorem elects_of_best_tasks :
    let s : Schema Slots := ⟨"Task", Samples.task.draft.fields, [], [], none⟩
    let task (title : String) (score : Value) : Slots :=
      ⟨.fresh Uuid.nil Instant.epoch,
        [.text title, .text "Ada", score, .null, .null, .bool false], [], none⟩
    let two : Value := .float ⟨0x4000000000000000⟩
    let three : Value := .float ⟨0x4008000000000000⟩
    let rule : GroupRule := ⟨"Owner", some (.downward "score"), some (.ofNames ["Title"])⟩
    let key : SortKey := ⟨⟨7, "Score"⟩, .descending⟩
    let r : Representative := ⟨some key, some ⟨[⟨"Title", ⟨5, "Title"⟩, false⟩]⟩⟩
    let before := [task "mow" .null, task "sow" two]
    let after := [task "reap" three]
    let g : Group Slots := ⟨.text "Ada", before ++ task "dig" three :: after⟩
    ofRule s rule = .ok r ∧ (∀ a ∈ g.members, s.Conforms a) ∧
      (∀ a ∈ g.members, (s.read a key.field).isNaN = false) ∧
      r.select s g = .ok (some (.row ⟨[("Title", .text "dig")]⟩)) ∧
      r.Elects s before (task "dig" three) after ∧
      key.LeadsByValue s before (task "dig" three) after := by
  intro s task two three rule key r before after g
  have resolved : ofRule s rule = .ok r := rfl
  have conform : ∀ a ∈ g.members, s.Conforms a := by
    simp only [g, before, after, List.cons_append, List.nil_append, List.mem_cons,
      List.not_mem_nil, or_false, forall_eq_or_imp, forall_eq]
    decide
  have numbers : ∀ a ∈ g.members, (s.read a key.field).isNaN = false := by
    simp only [g, before, after, List.cons_append, List.nil_append, List.mem_cons,
      List.not_mem_nil, or_false, forall_eq_or_imp, forall_eq]
    decide
  have leads : key.Leads s before (task "dig" three) after := by
    constructor
    · simp only [before, after, List.cons_append, List.nil_append, List.mem_cons,
        List.not_mem_nil, or_false, forall_eq_or_imp, forall_eq]
      decide
    · simp only [before, List.mem_cons, List.not_mem_nil, or_false, forall_eq_or_imp, forall_eq]
      decide
  obtain ⟨-, -, chosen⟩ := elects_select resolved conform (by rintro _ ⟨⟩; exact numbers)
  obtain ⟨before', e, after', split, result, elects, byValue, -⟩ := chosen (by simp [g])
  obtain rfl : before' = before := elects.unique leads (split.symm.trans rfl)
  obtain ⟨rfl, rfl⟩ := List.cons.inj (List.append_cancel_left (split.symm.trans rfl))
  exact ⟨resolved, conform, numbers, result, elects, byValue key rfl⟩

end Representative

end EntityQuery
