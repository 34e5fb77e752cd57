import EntityQuery.Proofs.Repository.ById
import EntityQuery.Proofs.Repository.Limits
import EntityQuery.Proofs.Schema.Navigations
import EntityQuery.Proofs.Store.Safety

/-!
Loading navigations. The entities that a plan without projection yields, and the one that is got by
its identifier, are stored ones of which exactly the navigations that were named are loaded. The
stored entities keep all of theirs. Main statement: `loads_includes`.
-/

namespace EntityQuery

variable {E α β : Type} {s : Schema E} {c : Contents E α β} {names included : List String}

/-! ### Plans -/

/-- The results of a plan without projection are stored entities that pass its filter, without the
navigations that are not included. -/
lemma Plan.exists_of_mem_execute {p : Plan} (hp : p.effectiveProjection = none) {rows : List E}
    {hits : List (Hit E)} (h : p.execute s rows = .ok hits) :
    ∀ hit ∈ hits, ∃ stored ∈ rows, passes s p.filter stored ∧
      hit = .entity (s.unloadExcept p.includes stored) := by
  rw [execute_of_unprojected s hp, Except.ok.injEq] at h
  subst h
  intro hit hhit
  obtain ⟨e, he, rfl⟩ := List.mem_map.1 (p.page.mem_of_mem_apply hhit)
  obtain ⟨stored, hstored, rfl⟩ := List.mem_map.1 (mem_kept_of_mem_chosen e he)
  obtain ⟨hmem, hpasses⟩ := List.mem_filter.1 hstored
  exact ⟨stored, hmem, hpasses, rfl⟩

namespace MemoryStore

/-- What a plan without projection is answered: whole entities of which only the named navigations
are loaded. Only a handle keeps it from being answered, and the store stays as it is. -/
structure FetchLoads (s : Schema E) (c : Contents E α β) (names : List String) (p : Plan)
    (cancel : Option (Handle E)) (m m' : MemoryStore E) (answer : Answer (List (Hit E))) :
    Prop where
  kept : m' = m
  answered : (∀ h ∈ cancel, ∀ events, h.Silent events) → ∃ hits, answer.result = .ok hits
  loads : ∀ hits, answer.result = .ok hits → ∀ hit ∈ hits, ∃ stored ∈ m.rows, ∃ e,
    Plan.passes s p.filter stored ∧ s.LoadsOnly c names stored e ∧ hit = .entity e

variable {m : MemoryStore E}

lemma fetchLoads [Entity E] (hs : s.NavigationsDiffer) (hclears : s.Clears c)
    (hincluded : s.includes names = .ok included) {p : Plan} (hp : p.includes = included)
    (hplain : p.effectiveProjection = none) (cancel : Option (Handle E)) (m : MemoryStore E) :
    FetchLoads s c names p cancel m (((backend s).fetch p cancel).run m).2
      (((backend s).fetch p cancel).run m).1 := by
  refine ⟨rfl, fun hcancel => ?_, fun hits hhits hit hhit => ?_⟩
  · show ∃ hits, (fetch s m.rows p cancel).result = .ok hits
    rw [fetch_of_silent (Plan.validate_of_unprojected hplain) fun h hh => hcancel h hh _,
      Plan.execute_of_unprojected s hplain]
    exact ⟨_, rfl⟩
  · obtain ⟨-, hexecute⟩ := execute_of_fetch_eq_ok hhits
    obtain ⟨stored, hstored, hpasses, rfl⟩ :=
      Plan.exists_of_mem_execute hplain hexecute hit hhit
    exact ⟨stored, hstored, _, hpasses, (Schema.loadsOnly_iff hs hclears hincluded).2 (by rw [hp]),
      rfl⟩

open Repository

variable [Entity E]

/-- What asking for an entity comes to: the first stored one that passes the predicate of the
identifier, of which only the named navigations are loaded. The store stays as it is. -/
structure GetLoads (s : Schema E) (c : Contents E α β) (names : List String) (id : Uuid)
    (m m' : MemoryStore E) (result : Except StorageError E) : Prop where
  kept : m' = m
  loads : ∀ e, result = .ok e ↔ m.free ≠ 0 ∧ ∃ filter stored, byId s id = .ok filter ∧
    m.rows.find? (Plan.passes s (some filter)) = some stored ∧ s.LoadsOnly c names stored e

lemma getLoads (hs : s.NavigationsDiffer) (hclears : s.Clears c)
    (hincluded : s.includes names = .ok included) {settings : RepositorySettings} {id : Uuid}
    {m m' : MemoryStore E} {result : Except StorageError E}
    (h : ((repository s settings).get id names).run.run m = (result, m')) :
    GetLoads s c names id m m' result := by
  rw [get_eq] at h
  cases hfilter : byId s id with
  | error error =>
    rw [hfilter] at h
    cases h
    refine ⟨rfl, fun e => iff_of_false (by rintro ⟨⟩) ?_⟩
    rintro ⟨-, filter, stored, hfilter', -⟩
    cases hfilter.symm.trans hfilter'
  | ok filter =>
    rw [hfilter, resolved_ok_bind, hincluded, resolved_ok_bind, run_pooled,
      run_search_passing] at h
    by_cases hfree : m.free = 0
    · rw [if_pos hfree] at h
      cases h
      exact ⟨rfl, fun e => iff_of_false (by rintro ⟨⟩) fun h => h.1 hfree⟩
    · rw [if_neg hfree] at h
      cases h
      refine ⟨rfl, fun e => ?_⟩
      simp only [Schema.loadsOnly_iff hs hclears hincluded, hfilter, Except.ok.injEq,
        and_iff_right hfree, exists_and_left, exists_eq_left']
      cases m.rows.find? (Plan.passes s (some filter)) with
      | none => exact iff_of_false nofun (by rintro ⟨_, h, -⟩; cases h)
      | some stored => simp [eq_comm]

/-- **Including navigations loads exactly those that are named.** Names resolve if each is that of a
declared navigation, ASCII case not counting, and then to the declared spellings, each once, in the
order of first mention; a listing that takes in one name after the other comes to the same. With
these spellings whole entities are fetched and got as they are stored, but for the navigations that
are not named: they are unloaded. The stored entities keep all that they have loaded. -/
theorem loads_includes (hs : s.NavigationsDiffer) (hclears : s.Clears c) (names : List String) :
    ((∃ included, s.includes names = .ok included) ↔ s.DeclaresAll names) ∧
      (∀ l : Listing, l.includes = [] → names.foldlM (Listing.including s) l =
        (fun included => { l with includes := included }) <$> s.includes names) ∧
      ∀ included, s.includes names = .ok included → s.Spells names included ∧
        (∀ n ∈ s.navigations, n.name ∈ included ↔ n.isNamed names) ∧
        (∀ (p : Plan) cancel m answer m', p.includes = included → p.effectiveProjection = none →
          ((backend s).fetch p cancel).run m = (answer, m') →
          FetchLoads s c names p cancel m m' answer) ∧
        ∀ settings id m result m',
          ((repository s settings).get id names).run.run m = (result, m') →
          GetLoads s c names id m m' result := by
  refine ⟨Schema.exists_includes_iff, fun l hl => Listing.foldlM_including s names hl,
    fun included hincluded => ⟨(Schema.includes_eq_ok_iff hs).1 hincluded,
      fun n hn => Schema.mem_includes_iff hs hincluded hn, ?_, ?_⟩⟩
  · rintro p cancel m _ _ hp hplain ⟨⟩
    exact fetchLoads hs hclears hincluded hp hplain cancel m
  · intro settings id m result m' hget
    exact getLoads hs hclears hincluded hget

/-- A task whose steps and notes are loaded, asked for with its notes, in two spellings that both
are not the declared one: the notes stay, the steps go, and the stored task keeps both. -/
theorem loads_notes :
    let s : Schema Slots :=
      { name := "Task"
        fields := Samples.task.draft.fields
        navigations := Samples.task.draft.navigations
        unique := [⟨"ux_task_title", [⟨5, "Title"⟩]⟩,
          ⟨"ux_task_cost", [⟨6, "Owner"⟩, ⟨8, "Cost"⟩]⟩]
        modifiedAt := some ⟨4, "ModifiedAt"⟩ }
    let task (related : List (List String)) : Slots :=
      ⟨{ BaseFields.fresh Uuid.nil Instant.epoch with id := ⟨7⟩ },
        [.text "sow", .null, .null, .null, .null, .bool false], related, none⟩
    let stored := task [["plough"], ["by hand"]]
    let e := task [[], ["by hand"]]
    let m : MemoryStore Slots := ⟨[stored], .usual, 0⟩
    let names := ["NOTES", "notes"]
    let p : Plan := { Plan.everything with includes := ["Notes"] }
    Samples.task.draft.build = .ok s ∧ s.NavigationsDiffer ∧ s.Clears Samples.task.contents ∧
      ¬ s.DeclaresAll ["Note"] ∧ s.Spells names ["Notes"] ∧
      names.foldlM (Listing.including s) (.firstOf 10) =
        .ok { Listing.firstOf 10 with includes := ["Notes"] } ∧
      ((backend s).fetch p none).run m = (⟨.ok [.entity e], false⟩, m) ∧
      ((repository s .usual).get ⟨7⟩ names).run.run m = (.ok e, m) ∧
      s.LoadsOnly Samples.task.contents names stored e := by
  intro s task stored e m names p
  have built : Samples.task.draft.build = .ok s := rfl
  have differ : s.NavigationsDiffer := List.pairwise_pair.2 (by decide +kernel)
  have clears := SlotsType.clears_contents built differ
  have included : s.includes names = .ok ["Notes"] := rfl
  have fetched : ((backend s).fetch p none).run m = (⟨.ok [.entity e], false⟩, m) := rfl
  have got : ((repository s .usual).get ⟨7⟩ names).run.run m = (.ok e, m) := rfl
  have refused : s.includes ["Note"] = .error (.unknownProperty "Task" "Note") := rfl
  obtain ⟨resolves, -, -⟩ := loads_includes differ clears ["Note"]
  have undeclared : ¬ s.DeclaresAll ["Note"] := by
    intro hdeclared
    obtain ⟨_, hincluded⟩ := resolves.2 hdeclared
    cases refused.symm.trans hincluded
  obtain ⟨-, including, loads⟩ := loads_includes differ clears names
  obtain ⟨spells, -, -, gets⟩ := loads _ included
  obtain ⟨-, filter, found, -, hfound, only⟩ := ((gets _ _ _ _ _ got).loads e).1 rfl
  obtain rfl : found = stored := List.mem_singleton.1 (List.mem_of_find?_eq_some hfound)
  exact ⟨built, differ, clears, undeclared, spells,
    (including _ rfl).trans (by rw [included]; rfl), fetched, got, only⟩

end MemoryStore

end EntityQuery
