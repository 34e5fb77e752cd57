import EntityQuery.Proofs.Plan.Choice
import EntityQuery.Proofs.Repository.Deletions
import EntityQuery.Proofs.Repository.Listings

/-!
The first entity. Asking for it is asking for a page of one, which a maximum can make larger but
never empty, so it is what comes first when everything is listed, and there is none exactly if
counting comes to nothing. Under the order by default it is the first stored of those that were
changed last. Main statement: `first_heads_getItems`.
-/

namespace EntityQuery

variable {E : Type} {s : Schema E}

/-! ### Windows -/

namespace Page

/-- A window that drops nothing starts with what comes first, whatever its size. -/
lemma head?_apply {α : Type} {p : Page} (hskip : p.skip = 0) (rows : List α) :
    (p.apply rows).head? = rows.head? := by
  unfold apply limit?
  rw [hskip, UInt32.toNat_zero, List.drop_zero]
  by_cases htake : p.take = 0
  · rw [if_pos htake]
  · have hpos : p.take.toNat ≠ 0 := fun h => htake (UInt32.toNat_inj.1 h)
    rw [if_neg htake]
    exact (List.head?_take ..).trans (if_neg hpos)

lemma skip_capped (p : Page) (max : Option UInt32) : (p.capped max).skip = p.skip := by
  unfold capped
  split
  · split <;> rfl
  · rfl

end Page

/-! ### The latest -/

namespace SortKey

variable {k : SortKey} {before after : List E} {e : E}

/-- What leads among copies that keep the values leads among the originals. -/
lemma LeadsByValue.of_map {copy : E → E}
    (hcopy : ∀ a, s.read (copy a) k.field = s.read a k.field)
    (h : k.LeadsByValue s (before.map copy) (copy e) (after.map copy)) :
    k.LeadsByValue s before e after := by
  unfold LeadsByValue at h ⊢
  rw [← List.map_cons, ← List.map_append] at h
  simpa only [List.mem_map, forall_exists_index, and_imp, forall_apply_eq_imp_iff₂,
    exists_exists_and_eq_and, hcopy] using h

end SortKey

/-- An entity is what is shown, without navigations, of the latest of some stored ones: none has a
greater time, and those in front of it have smaller ones. If unloading leaves the fields as they
are, this is so by the times that are stored. -/
def Schema.ShowsLatest (s : Schema E) (time : FieldRef) (stored : List E) (e : E) : Prop :=
  let key : SortKey := ⟨time, .descending⟩
  let bare := s.unloadExcept []
  ∃ before latest after, stored = before ++ latest :: after ∧ e = bare latest ∧
    key.LeadsByValue s (before.map bare) e (after.map bare) ∧
    (s.FieldsStay → key.LeadsByValue s before latest after)

lemma Schema.showsLatest_of_sort {d : SchemaDraft E} (hs : d.build = .ok s) {time : FieldRef}
    (htime : time ∈ s.modifiedAt) {stored rest : List E} {e : E}
    (hstored : ∀ a ∈ stored, (s.typeOf time).admits (s.read (s.unloadExcept [] a) time))
    (h : SortKey.sort s ⟨time, .descending⟩ (stored.map (s.unloadExcept [])) = e :: rest) :
    s.ShowsLatest time stored e := by
  have htimes : ∀ a ∈ stored.map (s.unloadExcept []),
      (s.typeOf time).admits (s.read a time) ∧ (s.read a time).isNaN = false := by
    rw [List.forall_mem_map]
    intro a ha
    exact ⟨hstored a ha,
      SchemaDraft.isNaN_of_modifiedAt hs htime (Schema.fitsKind_of_admits (hstored a ha))⟩
  obtain ⟨before, after, hsplit, hleads⟩ :=
    SortKey.leads_of_sort (SortKey.transitive_of_admits s ⟨time, .descending⟩) htimes h
  -- what is sorted are copies, so the cut is carried back to the stored entities
  obtain ⟨before, back, rfl, rfl, hback⟩ := List.map_eq_append_iff.1 hsplit
  obtain ⟨latest, after, rfl, rfl, rfl⟩ := List.map_eq_cons_iff.1 hback
  refine ⟨before, latest, after, rfl, rfl, hleads.byValue, fun hstay => ?_⟩
  have hfield := (SchemaDraft.declares_modifiedAt hs time htime).mem
  exact hleads.byValue.of_map fun a => hstay.read_unloadExcept hfield [] a

/-! ### Repositories -/

/-- The request for everything that passes the filters. -/
def ListingRequest.everything (filters : Option FilterList) : ListingRequest :=
  { usual with filters, take := 0 }

/-- What asks for nothing but a filter and a number. -/
def Listing.passing (filter : Option Predicate) (take : UInt32) : Listing :=
  { firstOf take with filter }

/-- What passes a filter, without navigations and in the order by default. -/
def Listing.byDefault (s : Schema E) (settings : RepositorySettings) (filter : Option Predicate)
    (es : List E) : List E :=
  Plan.arrange s ((passing filter 0).sortKey s settings)
    ((es.filter (Plan.passes s filter)).map (s.unloadExcept []))

variable {filters : Option FilterList} {filter : Option Predicate} {cancel : Option (Handle E)}
  {settings : RepositorySettings}

lemma Listing.ofRequest_everything (hfilters : filters.mapM (Predicate.ofList s) = .ok filter) :
    ofRequest s (.everything filters) = .ok (passing filter 0) := by
  refine ofRequest_eq_ok_iff.2 ⟨?_, rfl, rfl, rfl, rfl⟩
  show predicate s (.everything filters) = .ok filter
  rw [← hfilters]
  cases filters <;> rfl

lemma Listing.length_byDefault (s : Schema E) (settings : RepositorySettings)
    (filter : Option Predicate) (es : List E) :
    (byDefault s settings filter es).length = es.countP (Plan.passes s filter) := by
  rw [byDefault, Plan.length_arrange, List.length_map, List.countP_eq_length_filter]

lemma Repository.first_of_resolved {σ : Type} {r : Repository E σ}
    (hfilters : filters.mapM (Predicate.ofList r.schema) = .ok filter) :
    r.first filters cancel =
      (r.query ((Listing.passing filter 1).plan r.schema r.settings) cancel >>= fun hits =>
        pure (hits.head?.bind Hit.entity?)) := by
  rw [first, hfilters, resolved_ok_bind]
  rfl

namespace MemoryStore

open Repository

variable [Entity E] {m : MemoryStore E}

lemma run_query_passing (hfree : m.free ≠ 0) (hcancel : ∀ h ∈ cancel, ∀ events, h.Silent events)
    (settings : RepositorySettings) (take : UInt32) :
    ((repository s settings).query ((Listing.passing filter take).plan s settings) cancel).run.run m
      = (.ok ((settings.page 0 take).apply
          ((Listing.byDefault s settings filter m.rows).map .entity)), m) :=
  Browse.run_query hfree settings hcancel (p := (Listing.passing filter take).plan s settings) rfl

/-- The head of the page of one is the head of everything. -/
lemma run_first (hfilters : filters.mapM (Predicate.ofList s) = .ok filter) (hfree : m.free ≠ 0)
    (hcancel : ∀ h ∈ cancel, ∀ events, h.Silent events) :
    ((repository s settings).first filters cancel).run.run m =
      (.ok (Listing.byDefault s settings filter m.rows).head?, m) := by
  have hhead (listed : List E) :
      ((settings.page 0 1).apply (listed.map Hit.entity)).head? = listed.head?.map .entity := by
    rw [Page.head?_apply (Page.skip_capped ..), List.head?_map]
  have hask : (repository s settings).first filters cancel =
      ((repository s settings).query ((Listing.passing filter 1).plan s settings) cancel >>=
        fun hits => pure (hits.head?.bind Hit.entity?)) :=
    first_of_resolved (r := repository s settings) hfilters
  rw [hask, run_bind, run_query_passing hfree hcancel]
  show (Except.ok (((settings.page 0 1).apply _).head?.bind Hit.entity?), m) = _
  rw [hhead]
  cases (Listing.byDefault s settings filter m.rows).head? <;> rfl

/-- **The first entity is the head of the listing of everything**, whatever page sizes the settings
give: the listing is that of the same filters without limit and without a maximum, in the same order
by default. There is none exactly if counting comes to nothing. With the order by default it is the
latest of the stored entities that pass, and of those that tie the one stored first. -/
theorem first_heads_getItems {d : SchemaDraft E} (hs : d.build = .ok s)
    (settings : RepositorySettings) (hfilters : filters.mapM (Predicate.ofList s) = .ok filter)
    (hfree : m.free ≠ 0) (hcancel : ∀ h ∈ cancel, ∀ events, h.Silent events) :
    let r := repository s settings
    let whole := repository s { settings with maxTake := none }
    let passing := m.rows.filter (Plan.passes s filter)
    ∃ (listed : List E) (n : ℕ),
      (whole.getItems (.everything filters) cancel).run.run m = (.ok (listed.map .entity), m) ∧
      (r.first filters cancel).run.run m = (.ok listed.head?, m) ∧
      (r.count filters cancel).run.run m = (.ok n, m) ∧
      (listed.head? = none ↔ n = 0) ∧
      (settings.defaultOrder → ∀ time ∈ s.modifiedAt,
        (∀ a ∈ passing, (s.typeOf time).admits (s.read (s.unloadExcept [] a) time)) →
          ∀ e ∈ listed.head?, s.ShowsLatest time passing e) := by
  intro r whole passing
  have hlisted : (whole.getItems (.everything filters) cancel).run.run m =
      (.ok ((Listing.byDefault s settings filter m.rows).map .entity), m) := by
    rw [getItems_of_resolved (r := whole) (Listing.ofRequest_everything hfilters) cancel]
    exact run_query_passing hfree hcancel { settings with maxTake := none } 0
  have hcount : (r.count filters cancel).run.run m =
      (.ok (m.rows.countP (Plan.passes s filter)), m) :=
    (totals hfilters hfree).counted cancel fun h hh => hcancel h hh _
  refine ⟨_, _, hlisted, run_first hfilters hfree hcancel, hcount, ?_, ?_⟩
  · rw [← Listing.length_byDefault s settings, List.head?_eq_none_iff, List.length_eq_zero_iff]
  · intro hdefault time htime hstored e he
    have hkey : (Listing.passing filter 0).sortKey s settings = some ⟨time, .descending⟩ := by
      show (if settings.defaultOrder then _ else _) = _
      rw [if_pos hdefault, Option.mem_def.1 htime]
      rfl
    obtain ⟨rest, hrest⟩ := List.head?_eq_some_iff.1 he
    rw [Listing.byDefault, hkey] at hrest
    exact Schema.showsLatest_of_sort hs htime hstored hrest

/-- Two of the open tasks were changed last, at the same time: the one stored first is the first,
also where the largest page is 0, which means all. -/
theorem first_heads_open_tasks :
    let s : Schema Slots :=
      { name := "Task"
        fields := Samples.task.draft.fields
        navigations := Samples.task.draft.navigations
        unique := [⟨"ux_task_title", [⟨5, "Title"⟩]⟩,
          ⟨"ux_task_cost", [⟨6, "Owner"⟩, ⟨8, "Cost"⟩]⟩]
        modifiedAt := some ⟨4, "ModifiedAt"⟩ }
    let later : Instant := ⟨Date.epoch, 1, 0, by decide, by decide, by decide⟩
    let task (title : String) (changed : Instant) (done : Bool) (steps : List String) : Slots :=
      ⟨BaseFields.fresh Uuid.nil changed,
        [.text title, .null, .null, .null, .null, .bool done], [steps, []], none⟩
    let m : MemoryStore Slots :=
      ⟨[task "sow" .epoch false ["step"], task "plough" later true [],
        task "mow" later false ["step"], task "reap" later false []], .usual, 0⟩
    let settings : RepositorySettings := ⟨10, some 0, true⟩
    let filters : Option FilterList := some (.all [.equal "done" "false"])
    let filter : Option Predicate := some (.compare ⟨10, "Done"⟩ .equal (.bool false))
    let passing := m.rows.filter (Plan.passes s filter)
    let whole := repository s { settings with maxTake := none }
    let listed :=
      [task "mow" later false [], task "reap" later false [], task "sow" .epoch false []]
    Samples.task.draft.build = .ok s ∧ filters.mapM (Predicate.ofList s) = .ok filter ∧
      m.free ≠ 0 ∧
      (∀ a ∈ passing, (s.typeOf ⟨4, "ModifiedAt"⟩).admits
        (s.read (s.unloadExcept [] a) ⟨4, "ModifiedAt"⟩)) ∧
      (whole.getItems (.everything filters) none).run.run m = (.ok (listed.map .entity), m) ∧
      ((repository s settings).first filters none).run.run m =
        (.ok (some (task "mow" later false [])), m) ∧
      ((repository s settings).count filters none).run.run m = (.ok 3, m) ∧
      s.FieldsStay ∧ s.ShowsLatest ⟨4, "ModifiedAt"⟩ passing (task "mow" later false []) := by
  intro s later task m settings filters filter passing whole listed
  have built : Samples.task.draft.build = .ok s := rfl
  have resolved : filters.mapM (Predicate.ofList s) = .ok filter := rfl
  have free : m.free ≠ 0 := by decide
  have found : passing = [task "sow" .epoch false ["step"], task "mow" later false ["step"],
      task "reap" later false []] := rfl
  have times : ∀ a ∈ passing, (s.typeOf ⟨4, "ModifiedAt"⟩).admits
      (s.read (s.unloadExcept [] a) ⟨4, "ModifiedAt"⟩) := by
    rw [found]
    simp only [List.mem_cons, List.not_mem_nil, or_false, forall_eq_or_imp, forall_eq]
    decide
  have answer : (whole.getItems (.everything filters) none).run.run m =
      (.ok (listed.map .entity), m) := rfl
  have silent : ∀ h ∈ (none : Option (Handle Slots)), ∀ events, h.Silent events :=
    fun h hh => absurd hh (Option.not_mem_none h)
  obtain ⟨listed', n, all, first, count, -, latest⟩ :=
    first_heads_getItems built settings resolved free silent
  rw [answer, Prod.mk.injEq, Except.ok.injEq] at all
  obtain rfl : listed = listed' := List.map_injective_iff.2 (fun _ _ => Hit.entity.inj) all.1
  obtain rfl : n = 3 := by
    have three : ((repository s settings).count filters none).run.run m = (.ok 3, m) := rfl
    rw [count, Prod.mk.injEq, Except.ok.injEq] at three
    exact three.1
  exact ⟨built, resolved, free, times, answer, first, count,
    Samples.task.fieldsStay_slots built, latest rfl _ rfl times _ rfl⟩

end MemoryStore

end EntityQuery
