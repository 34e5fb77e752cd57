import EntityQuery.Proofs.Plan.Checked
import EntityQuery.Proofs.Projection.Rows
import EntityQuery.Proofs.Schema.Includes

/-!
What can still go wrong once everything is compiled. No look-up falls behind the end of the table
of fields, so it makes no difference whether positions are checked or whether the table goes on.
Where the entities conform to the schema, a plan fails only for a document that cannot be read, or
because the handle is signalled. Main statement: `sound_of_build`.
-/

namespace EntityQuery

variable {E : Type} {s : Schema E}

/-! ### Members of groups -/

namespace GroupKey

variable {P : E → Prop}

lemma forall_add {key : Value} {e : E} {groups : List (Group E)} (he : P e)
    (h : ∀ g ∈ groups, ∀ x ∈ g.members, P x) : ∀ g ∈ add key e groups, ∀ x ∈ g.members, P x := by
  induction groups with
  | nil => simpa [add] using he
  | cons g rest ih =>
    rw [List.forall_mem_cons] at h
    unfold add
    split
    · have hjoined : ∀ x ∈ g.members ++ [e], P x :=
        List.forall_mem_append.2 ⟨h.1, List.forall_mem_singleton.2 he⟩
      exact List.forall_mem_cons.2 ⟨hjoined, h.2⟩
    · exact List.forall_mem_cons.2 ⟨h.1, ih h.2⟩

lemma forall_group {k : GroupKey} {es : List E} (h : ∀ e ∈ es, P e) :
    ∀ g ∈ k.group s es, ∀ x ∈ g.members, P x := by
  unfold group
  have hnone : ∀ g ∈ ([] : List (Group E)), ∀ x ∈ g.members, P x := fun g hg => nomatch hg
  refine List.foldlRecOn (motive := fun groups : List (Group E) =>
    ∀ g ∈ groups, ∀ x ∈ g.members, P x) es _ hnone fun groups hgroups e he => ?_
  exact forall_add (h e he) hgroups

end GroupKey

namespace Plan

/-! ### Execution -/

/-- Some document that the plan selects cannot be read, and the error says so. -/
def Undecodable (s : Schema E) (p : Plan) (rows : List E) (error : StorageError) : Prop :=
  ∃ q ∈ p.effectiveProjection, ∃ c ∈ q.columns, c.structured ∧ ∃ e ∈ p.kept s rows,
    ∃ text problem, s.read e c.field = .text text ∧ Json.read text = .error problem ∧
      error = .query (.projection c.key (.document problem))

lemma mem_kept_of_mem_chosen {p : Plan} {es : List E} : ∀ e ∈ p.chosen s es, e ∈ p.kept s es := by
  intro e he
  unfold chosen at he
  split at he
  · rename_i key _
    cases key with
    | none => exact he
    | some k => exact (SortKey.sort_perm s k _).mem_iff.1 he
  · obtain ⟨g, hg, hfirst⟩ := List.mem_filterMap.1 he
    exact GroupKey.forall_group (fun e he => he) g hg e (Representative.mem_of_first? hfirst)

/-- The structured columns of a plan read as texts, or as null, when navigations are unloaded. -/
def ReadsTexts (s : Schema E) (p : Plan) (rows : List E) : Prop :=
  ∀ q ∈ p.effectiveProjection, ∀ c ∈ q.columns, c.structured →
    ∀ e ∈ p.kept s rows, s.FitsKind c.field e

lemma readsTexts_of_conforms {p : Plan} (hp : p.Compiled s) {rows : List E}
    (h : ∀ e ∈ p.kept s rows, s.Conforms e) : p.ReadsTexts s rows := by
  intro q hq c hc _ e he
  obtain ⟨selection, hselection⟩ := hp.exists_selection q hq
  have hdeclared := ((Projection.declared_ofSelection hselection).2 c hc).1
  exact Schema.fitsKind_of_admits (h e he _ hdeclared.mem)

lemma undecodable_of_execute {p : Plan} (hp : p.Compiled s) (hvalid : p.validate = .ok ())
    {es : List E} (hes : p.ReadsTexts s es) {error : QueryError}
    (h : p.execute s es = .error error) : p.Undecodable s es (.query error) := by
  rw [execute_eq s hvalid] at h
  obtain ⟨before, e, after, hpage, -, he⟩ := Result.mapM_eq_error_iff.1 h
  have hkept : e ∈ p.kept s es :=
    mem_kept_of_mem_chosen e (p.page.mem_of_mem_apply (by simp [hpage]))
  cases hq : p.effectiveProjection with
  | none =>
    rw [hq] at he
    cases he
  | some q =>
    rw [hq] at he
    obtain ⟨selection, hselection⟩ := hp.exists_selection q hq
    obtain ⟨before, c, after, problem, hcolumns, -, ⟨hstructured, text, htext, hproblem⟩, rfl⟩ :=
      (Projection.apply_eq_error_iff (fun c hc => Projection.text_of_ofSelection hselection hc)
        fun c hc hstructured => hes q hq c hc hstructured e hkept).1 (Result.map_eq_error_iff.1 he)
    exact ⟨q, hq, c, by simp [hcolumns], hstructured, e, hkept, text, problem, htext, hproblem, rfl⟩

end Plan

namespace MemoryStore

variable {cancel : Option (Handle E)}

lemma eq_interrupted_of_watch {events : List (Event E)} {error : StorageError}
    (h : watch cancel events = .error error) : error = interrupted := by
  unfold watch at h
  split at h
  · cases h
  · split at h
    · cases h
    · cases h
      rfl

/-- Watched work fails by itself, or because the handle is signalled. -/
lemma of_watched_eq_error {α : Type} {events : List (Event E)} {result : Except StorageError α}
    {error : StorageError} (h : (watched cancel events result).result = .error error) :
    result = .error error ∨
      error = interrupted ∧ (watched cancel events result).signalled ∧
        ∃ handle ∈ cancel, ¬ handle.Silent events := by
  by_cases hsilent : ∀ handle ∈ cancel, handle.Silent events
  · rw [watched_of_silent hsilent] at h
    exact .inl h
  · push Not at hsilent
    unfold watched at h ⊢
    cases hwatch : watch cancel events with
    | ok after =>
      rw [hwatch] at h
      exact .inl h
    | error e =>
      rw [hwatch] at h
      cases h
      exact .inr ⟨eq_interrupted_of_watch hwatch, rfl, hsilent⟩

lemma fetch_congr {s' : Schema E} (hnavigations : s'.navigations = s.navigations) {p : Plan}
    (h : ∀ x ∈ p.expressions, ∀ f ∈ x.fields, s'.field f = s.field f) (rows : List E) :
    fetch s' rows p cancel = fetch s rows p cancel := by
  simp only [fetch, Plan.events_congr hnavigations h, Plan.execute_congr hnavigations h]

end MemoryStore

/-! ### Schemas that were built -/

/-- The schema with more fields behind its own. -/
def Schema.extended (s : Schema E) (extra : List (Field E)) : Schema E :=
  { s with fields := s.fields ++ extra }

lemma Schema.field_extended {f : FieldRef} (h : s.Declares f) (extra : List (Field E)) :
    (s.extended extra).field f = s.field f := by
  obtain ⟨field, hfield, -⟩ := h
  rw [field_eq hfield]
  refine field_eq ?_
  rw [extended, List.getElem?_append_left (List.getElem?_eq_some_iff.1 hfield).1, hfield]

namespace SchemaDraft

/-- **Nothing that is compiled against a schema that was built fails for the schema's sake.** The
fields that expressions, unique keys and the time of the last change refer to are declared. With
checked access no expression, no search for clashes and no plan comes upon a position outside the
table. More fields behind the others change neither what an expression yields, nor what clashes, nor
how a plan is answered. And a valid plan whose structured columns read as texts, as they do in
entities that conform to the schema after unloading, is answered with an error only if a document
that it selects cannot be read, or if the handle is signalled. -/
theorem sound_of_build [Entity E] {d : SchemaDraft E} (hs : d.build = .ok s) :
    (∀ x : Expression, x.Compiled s → ∀ f ∈ x.fields, s.Declares f) ∧
    (∀ key ∈ s.unique, ∀ f ∈ key.fields, s.Declares f) ∧
    (∀ f ∈ s.modifiedAt, s.Declares f) ∧
    ((∀ x : Expression, x.Compiled s → ∀ es, x.checked s es = some (x.outcome s es)) ∧
      (∀ rows positions,
        Checked.clash s rows positions = some (Rows.clash? s rows positions)) ∧
      ∀ p : Plan, p.Compiled s → ∀ rows, Checked.execute s p rows = some (p.execute s rows)) ∧
    (∀ extra : List (Field E),
      (∀ x : Expression, x.Compiled s → ∀ es, x.outcome (s.extended extra) es = x.outcome s es) ∧
      (∀ rows positions,
        Rows.clash? (s.extended extra) rows positions = Rows.clash? s rows positions) ∧
      ∀ p : Plan, p.Compiled s → ∀ rows cancel,
        MemoryStore.fetch (s.extended extra) rows p cancel = MemoryStore.fetch s rows p cancel) ∧
    ∀ p : Plan, p.Compiled s → p.validate = .ok () → ∀ rows, p.ReadsTexts s rows →
      ∀ cancel error, (MemoryStore.fetch s rows p cancel).result = .error error →
        p.Undecodable s rows error ∨
          error = MemoryStore.interrupted ∧ (MemoryStore.fetch s rows p cancel).signalled ∧
            ∃ h ∈ cancel, ¬ h.Silent (p.events s rows) := by
  have hunique := declares_unique hs
  refine ⟨fun x hx => hx.declares, hunique, declares_modifiedAt hs,
    ⟨fun x hx => Expression.checked_eq hx.declares, Checked.clash_eq hunique,
      fun p hp => Checked.execute_eq fun x hx => (hp x hx).declares⟩,
    fun extra => ⟨?_, ?_, ?_⟩, ?_⟩
  · intro x hx es
    exact Expression.outcome_congr (fun f hf => Schema.field_extended (hx.declares f hf) extra) es
  · intro rows positions
    have hkeys : (s.extended extra).unique = s.unique := rfl
    exact Rows.clash?_congr hkeys
      (fun key hkey f hf => Schema.field_extended (hunique key hkey f hf) extra) rows positions
  · intro p hp rows cancel
    have hnavigations : (s.extended extra).navigations = s.navigations := rfl
    exact MemoryStore.fetch_congr hnavigations
      (fun x hx f hf => Schema.field_extended ((hp x hx).declares f hf) extra) rows
  · intro p hp hvalid rows htexts cancel error herror
    rw [MemoryStore.fetch, hvalid] at herror ⊢
    rcases MemoryStore.of_watched_eq_error herror with hexecute | hinterrupted
    · obtain ⟨problem, hproblem, rfl⟩ := Result.mapError_eq_error_iff.1 hexecute
      exact .inl (Plan.undecodable_of_execute hp hvalid htexts hproblem)
    · exact .inr hinterrupted

/-- The open tasks by title, with their owners as documents: the first owner is one, the second is
not. A handle that is signalled ends the search before. -/
theorem sound_of_open_tasks :
    let s : Schema Slots :=
      { name := "Task"
        fields := Samples.task.draft.fields
        navigations := Samples.task.draft.navigations
        unique := [⟨"ux_task_title", [⟨5, "Title"⟩]⟩,
          ⟨"ux_task_cost", [⟨6, "Owner"⟩, ⟨8, "Cost"⟩]⟩]
        modifiedAt := some ⟨4, "ModifiedAt"⟩ }
    let task (title : String) (owner : String) (done : Bool) : Slots :=
      ⟨BaseFields.fresh Uuid.nil Instant.epoch,
        [.text title, .text owner, .null, .null, .null, .bool done], [["step"], []], none⟩
    let rows := [task "sow" "Ada" false, task "mow" "[1]" false, task "reap" "[" true]
    let p : Plan :=
      { includes := ["Notes"]
        filter := some (.compare ⟨10, "Done"⟩ .equal (.bool false))
        arrangement := .sorted (some ⟨⟨5, "Title"⟩, .ascending⟩)
        projection := some ⟨[⟨"owner", ⟨6, "Owner"⟩, true⟩]⟩
        page := ⟨0, 5⟩ }
    let error : StorageError := .query (.projection "owner" (.document ⟨.expectedValue, 1, 1⟩))
    Samples.task.draft.build = .ok s ∧ p.Compiled s ∧ p.validate = .ok () ∧
      p.ReadsTexts s rows ∧
      (MemoryStore.fetch s rows p none).result = .error error ∧ p.Undecodable s rows error ∧
      (MemoryStore.fetch s rows p (some .raised)).result = .error MemoryStore.interrupted ∧
      ¬ Handle.raised.Silent (p.events s rows) := by
  intro s task rows p error
  have built : Samples.task.draft.build = .ok s := rfl
  have filter : Predicate.ofFilter s (.equal "done" "false") =
      .ok (.compare ⟨10, "Done"⟩ .equal (.bool false)) := rfl
  have order : SortKey.ofRule s (.ascending "TITLE") = .ok ⟨⟨5, "Title"⟩, .ascending⟩ := rfl
  have columns : Projection.ofSelection s ⟨[.document "owner"]⟩ =
      .ok ⟨[⟨"owner", ⟨6, "Owner"⟩, true⟩]⟩ := rfl
  have compiled : p.Compiled s := List.forall_mem_cons.2 ⟨.predicate (.filter filter),
    List.forall_mem_cons.2 ⟨.sortKey order, List.forall_mem_singleton.2 (.projection columns)⟩⟩
  have conform : ∀ e ∈ rows, s.Conforms e := by
    simp only [rows, List.mem_cons, List.not_mem_nil, or_false, forall_eq_or_imp, forall_eq]
    decide
  have texts : p.ReadsTexts s rows := Plan.readsTexts_of_conforms compiled
    (Plan.forall_kept (Samples.task.fieldsStay_slots built).conforms_unload conform)
  have refused : (MemoryStore.fetch s rows p none).result = .error error := rfl
  have ended : (MemoryStore.fetch s rows p (some .raised)).result =
      .error MemoryStore.interrupted := rfl
  have sound := (sound_of_build built).2.2.2.2.2 p compiled rfl rows texts
  have undecodable : p.Undecodable s rows error :=
    (sound none error refused).resolve_right fun h => nomatch h.2.2
  refine ⟨built, compiled, rfl, texts, refused, undecodable, ended, ?_⟩
  rcases sound (some .raised) _ ended with hdocument | ⟨-, -, h, hh, hloud⟩
  · obtain ⟨q, -, c, -, -, e, -, text, problem, -, -, herror⟩ := hdocument
    cases herror
  · cases hh
    exact hloud

end SchemaDraft

end EntityQuery
