import EntityQuery.Proofs.Repository.Pages
import EntityQuery.Proofs.Schema.Includes
import EntityQuery.Proofs.Schema.Independence

/-!
Listings as a whole. The answer to a request for everything holds the stored entities that pass its
filter, each without the navigations that it does not ask for: in the order that it names, with
entities that tie as they are stored; if it names none, with the latest changes first; and if that
is not wanted, as they are stored. Main statement: `lists_getItems`.
-/

namespace EntityQuery

variable {E : Type} {s : Schema E}

/-! ### Sorted lists -/

namespace SortKey

variable {k : SortKey}

/-- A list in the order of a sort key: it holds the same entities, each as often; it rises; and
entities that tie stand as they stood, whatever the direction. -/
structure Lists (s : Schema E) (k : SortKey) (es listed : List E) : Prop where
  perm : listed.Perm es
  rises : listed.Pairwise fun a b => (k.compare s a b).isLE
  nulls : listed.Pairwise (k.PlacesNull s)
  ties : ∀ e ∈ es, (listed.filter fun b => k.compare s e b == .eq) =
    es.filter fun b => k.compare s e b == .eq

lemma lists_sort {es : List E}
    (hes : ∀ e ∈ es, s.FitsKind k.field e ∧ (s.read e k.field).isNaN = false) :
    k.Lists s es (k.sort s es) := by
  have horder := k.transitive_of_admits s (t := .optional (s.typeOf k.field).kind)
  have hrises := pairwise_sort horder hes
  exact ⟨k.sort_perm s es, hrises, hrises.imp placesNull_of_isLE,
    fun e he => filter_sort horder (hes e he) hes⟩

end SortKey

lemma SchemaDraft.isNaN_of_modifiedAt {d : SchemaDraft E} (hs : d.build = .ok s) {f : FieldRef}
    (hf : f ∈ s.modifiedAt) {e : E} (he : s.FitsKind f e) : (s.read e f).isNaN = false := by
  have htime := (SchemaDraft.of_modifiedAt hs f hf).2
  refine FieldType.isNaN_of_admits he fun hfloat => ?_
  cases htime.symm.trans hfloat

/-! ### Requests -/

/-- The entities that a request is about: those that pass a filter, without the navigations that
it does not ask for. -/
def ListingRequest.matching (s : Schema E) (request : ListingRequest) (filter : Option Predicate)
    (es : List E) : List E :=
  (es.filter (Plan.passes s filter)).map (s.view (request.includes.getD []))

namespace Listing

variable {request : ListingRequest} {l : Listing} {settings : RepositorySettings}

lemma kept_plan (hl : ofRequest s request = .ok l) (es : List E) :
    (l.plan s settings).kept s es = request.matching s l.filter es := by
  obtain ⟨-, hincludes, -⟩ := ofRequest_eq_ok_iff.1 hl
  exact List.map_congr_left fun e _ =>
    Schema.unloadExcept_eq_view (Schema.contains_of_includes hincludes) e

/-- What a request lists for everything is sorted by its own key, or by the time of the last
change. -/
lemma lists_arrange {d : SchemaDraft E} (hs : d.build = .ok s) {key : SortKey}
    (hkey : l.sortKey s settings = some key) {es : List E} (hes : ∀ e ∈ es, s.FitsKind key.field e)
    (hnumbers : ∀ key ∈ l.order, ∀ e ∈ es, (s.read e key.field).isNaN = false) :
    key.Lists s es (key.sort s es) := by
  refine SortKey.lists_sort fun e he => ⟨hes e he, ?_⟩
  unfold sortKey at hkey
  cases ho : l.order with
  | some key' =>
    rw [ho] at hkey
    cases hkey
    exact hnumbers key ho e he
  | none =>
    simp only [ho] at hkey
    split at hkey
    · obtain ⟨f, hf, rfl⟩ := Option.map_eq_some_iff.1 hkey
      exact SchemaDraft.isNaN_of_modifiedAt hs hf (hes e he)
    · cases hkey

variable [Entity E] {m : MemoryStore E} {cancel : Option (Handle E)}

/-- The answer to a request for everything, as a list of entities in the order of its sort key. -/
lemma run_getItems (hl : ofRequest s request = .ok l) (hplain : request.selection = none)
    (hskip : request.skip = 0) (htake : request.take = 0) (hmax : settings.maxTake = none)
    (hfree : m.free ≠ 0) (hcancel : ∀ h ∈ cancel, ∀ events, h.Silent events) :
    ((MemoryStore.repository s settings).getItems request cancel).run.run m =
      (.ok ((Plan.arrange s (l.sortKey s settings)
        (request.matching s l.filter m.rows)).map .entity), m) := by
  obtain ⟨-, -, -, -, hpage⟩ := ofRequest_eq_ok_iff.1 hl
  have hunprojected : (l.plan s settings).effectiveProjection = none :=
    (of_ofRequest_eq_ok hl).2 hplain
  have hwhole : (l.plan s settings).page = .unbounded := by
    show Page.capped ⟨l.page.skip, l.page.take⟩ settings.maxTake = _
    rw [hpage, hskip, htake, hmax]
    rfl
  have hask : (MemoryStore.repository s settings).getItems request cancel =
      (MemoryStore.repository s settings).query (l.plan s settings) cancel :=
    Repository.getItems_of_resolved (r := MemoryStore.repository s settings) hl cancel
  have hkept : (l.plan s settings).kept s m.rows = request.matching s l.filter m.rows :=
    kept_plan hl m.rows
  rw [hask, Browse.run_query hfree settings hcancel hunprojected, hwhole,
    Page.apply_of_isUnbounded rfl, ← hkept]
  rfl

/-- **A request for everything lists the stored entities that pass its filter.** They come in the
order that it names; if it names none, but the settings want an order, with the latest changes
first where their time is known; otherwise as they are stored. The store stays as it is. What is
sorted by has to read as a value of its kind, or as null, when navigations are unloaded. -/
theorem lists_getItems {d : SchemaDraft E} (hs : d.build = .ok s)
    (hl : ofRequest s request = .ok l) (hplain : request.selection = none)
    (hskip : request.skip = 0) (htake : request.take = 0) (hmax : settings.maxTake = none)
    (hfree : m.free ≠ 0)
    (hkinds : ∀ key, l.sortKey s settings = some key →
      ∀ e ∈ request.matching s l.filter m.rows, s.FitsKind key.field e)
    (hnumbers : ∀ key ∈ l.order, ∀ e ∈ request.matching s l.filter m.rows,
      (s.read e key.field).isNaN = false)
    (hcancel : ∀ h ∈ cancel, ∀ events, h.Silent events) :
    let matching := request.matching s l.filter m.rows
    ∃ listed, ((MemoryStore.repository s settings).getItems request cancel).run.run m =
        (.ok (listed.map .entity), m) ∧
      (∀ rule ∈ request.order, ∃ key, SortKey.ofRule s rule = .ok key ∧
        key.Lists s matching listed) ∧
      (request.order = none → settings.defaultOrder → ∀ f ∈ s.modifiedAt,
        SortKey.Lists s ⟨f, .descending⟩ matching listed) ∧
      (request.order = none → settings.defaultOrder = false ∨ s.modifiedAt = none →
        listed = matching) := by
  intro matching
  obtain ⟨-, -, horder, -⟩ := ofRequest_eq_ok_iff.1 hl
  have hlists {key : SortKey} (hkey : l.sortKey s settings = some key) :
      key.Lists s matching (Plan.arrange s (l.sortKey s settings) matching) := by
    rw [hkey]
    exact lists_arrange hs hkey (hkinds key hkey) hnumbers
  refine ⟨Plan.arrange s (l.sortKey s settings) matching,
    run_getItems hl hplain hskip htake hmax hfree hcancel, ?_, ?_, ?_⟩
  · intro rule hrule
    rw [Option.mem_def.1 hrule] at horder
    obtain ⟨key, hkey, hsome⟩ := Result.map_eq_ok_iff.1 (show some <$> _ = _ from horder)
    exact ⟨key, hkey, hlists (by rw [sortKey, ← hsome])⟩
  · intro hnone hdefault f hf
    rw [hnone] at horder
    refine hlists ?_
    rw [sortKey, ← Except.ok.inj horder]
    simp only [hdefault, if_true, Option.mem_def.1 hf, Option.map_some]
  · intro hnone hplaces
    rw [hnone] at horder
    have hstored : l.sortKey s settings = none := by
      rw [sortKey, ← Except.ok.inj horder]
      rcases hplaces with hdefault | htime
      · simp [hdefault]
      · simp [htime]
    rw [hstored]
    rfl

/-- The open tasks by score, downward and with their notes: two tie and stay as they are stored,
and the one without score comes last. -/
theorem lists_open_tasks :
    let s : Schema Slots :=
      { name := "Task"
        fields := Samples.task.draft.fields
        navigations := Samples.task.draft.navigations
        unique := [⟨"ux_task_title", [⟨5, "Title"⟩]⟩,
          ⟨"ux_task_cost", [⟨6, "Owner"⟩, ⟨8, "Cost"⟩]⟩]
        modifiedAt := some ⟨4, "ModifiedAt"⟩ }
    let task (title : String) (score : Value) (done : Bool) (steps : List String) : Slots :=
      ⟨BaseFields.fresh Uuid.nil Instant.epoch,
        [.text title, .null, score, .null, .null, .bool done], [steps, ["note"]], none⟩
    let two : Value := .float ⟨0x4000000000000000⟩
    let three : Value := .float ⟨0x4008000000000000⟩
    let m : MemoryStore Slots :=
      ⟨[task "sow" two false ["step"], task "mow" .null false [], task "plough" three true [],
        task "reap" two false ["step"], task "dig" three false ["step"]], .usual, 0⟩
    let request : ListingRequest :=
      { ListingRequest.usual with
        filter := some ⟨"done", .equal, some "false"⟩
        order := some (.downward "score")
        includes := some ["NOTES"]
        take := 0 }
    let key : SortKey := ⟨⟨7, "Score"⟩, .descending⟩
    let l : Listing :=
      { includes := ["Notes"]
        filter := some (.compare ⟨10, "Done"⟩ .equal (.bool false))
        order := some key
        projection := none
        page := ⟨0, 0⟩ }
    let matching := [task "sow" two false [], task "mow" .null false [], task "reap" two false [],
      task "dig" three false []]
    let listed := [task "dig" three false [], task "sow" two false [], task "reap" two false [],
      task "mow" .null false []]
    Samples.task.draft.build = .ok s ∧
      ofRequest s request = .ok l ∧ request.selection = none ∧ request.skip = 0 ∧
      request.take = 0 ∧ RepositorySettings.usual.maxTake = none ∧ m.free ≠ 0 ∧
      request.matching s l.filter m.rows = matching ∧
      (∀ e ∈ matching, s.FitsKind key.field e) ∧
      (∀ e ∈ matching, (s.read e key.field).isNaN = false) ∧
      ((MemoryStore.repository s .usual).getItems request none).run.run m =
        (.ok (listed.map .entity), m) ∧
      key.Lists s matching listed := by
  intro s task two three m request key l matching listed
  have built : Samples.task.draft.build = .ok s := rfl
  have resolved : ofRequest s request = .ok l := rfl
  have free : m.free ≠ 0 := by decide
  have found : request.matching s l.filter m.rows = matching := rfl
  have kinds : ∀ e ∈ matching, s.FitsKind key.field e := by
    simp only [matching, List.mem_cons, List.not_mem_nil, or_false, forall_eq_or_imp, forall_eq]
    decide
  have numbers : ∀ e ∈ matching, (s.read e key.field).isNaN = false := by
    simp only [matching, List.mem_cons, List.not_mem_nil, or_false, forall_eq_or_imp, forall_eq]
    decide
  have answer : ((MemoryStore.repository s .usual).getItems request none).run.run m =
      (.ok (listed.map .entity), m) := rfl
  obtain ⟨listed', answer', lists, -⟩ := lists_getItems built resolved rfl rfl rfl
    (rfl : RepositorySettings.usual.maxTake = none) free (by rintro key ⟨⟩; exact kinds)
    (by rintro key ⟨⟩; exact numbers)
    (fun h hh => absurd hh (Option.not_mem_none h))
  obtain ⟨key', hkey, lists⟩ := lists _ rfl
  cases hkey
  rw [answer, Prod.mk.injEq, Except.ok.injEq] at answer'
  obtain rfl : listed = listed' :=
    List.map_injective_iff.2 (fun _ _ => Hit.entity.inj) answer'.1
  exact ⟨built, resolved, rfl, rfl, rfl, rfl, free, found, kinds, numbers, answer, lists⟩

end Listing

end EntityQuery
