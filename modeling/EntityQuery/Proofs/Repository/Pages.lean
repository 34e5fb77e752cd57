import EntityQuery.Proofs.Plan.Execution
import EntityQuery.Proofs.Plan.Resolution
import EntityQuery.Proofs.Repository.Sessions
import EntityQuery.Proofs.Store.Silence
import EntityQuery.Samples

/-!
Walks through pages. A listing or a grouping is asked for page by page, each page behind the one
before it and all of one size, until one is shorter; what comes together is the answer to the
request for everything at once, however many entities tie. Main statement: `flatten_of_walk`.
-/

namespace EntityQuery

variable {E σ α : Type}

/-! ### Walks -/

/-- The pages of one size that are got one after the other, each from the state that the one before
it left. The first page that is shorter is the last. -/
inductive Walk (ask : UInt32 → Action σ (List α)) (size : UInt32) :
    UInt32 → σ → List (List α) → Prop
  | last {skip : UInt32} {m m' : σ} {page : List α} (hpage : (ask skip).run.run m = (.ok page, m'))
      (hshort : page.length < size.toNat) : Walk ask size skip m [page]
  | next {skip : UInt32} {m m' : σ} {page : List α} {pages : List (List α)}
      (hpage : (ask skip).run.run m = (.ok page, m')) (hfull : size.toNat ≤ page.length)
      (hskip : skip.toNat + size.toNat < UInt32.size)
      (hrest : Walk ask size (skip + size) m' pages) : Walk ask size skip m (page :: pages)

namespace Walk

variable {ask : UInt32 → Action σ (List α)} {size : UInt32} {m : σ} {all : List α}

lemma toNat_add {a b : UInt32} (h : a.toNat + b.toNat < UInt32.size) :
    (a + b).toNat = a.toNat + b.toNat := by
  rw [UInt32.toNat_add, Nat.mod_eq_of_lt h]

/-- Pages of one list come together as what is left of it. -/
lemma flatten_eq {skip : UInt32} {pages : List (List α)} (h : Walk ask size skip m pages)
    (hask : ∀ skip,
      (ask skip).run.run m = (.ok ((all.drop skip.toNat).take size.toNat), m)) :
    pages.flatten = all.drop skip.toNat := by
  induction h with
  | last hpage hshort =>
    rw [hask, Prod.mk.injEq, Except.ok.injEq] at hpage
    obtain ⟨rfl, -⟩ := hpage
    rw [List.flatten_singleton, List.take_of_length_le]
    rw [List.length_take] at hshort
    omega
  | next hpage hfull hskip hrest ih =>
    rw [hask, Prod.mk.injEq, Except.ok.injEq] at hpage
    obtain ⟨rfl, rfl⟩ := hpage
    rw [List.flatten_cons, ih hask, toNat_add hskip, ← List.drop_drop, List.take_append_drop]

/-- There is a walk wherever the number of the entities in full pages can be skipped. -/
lemma exists_pages (hsize : size ≠ 0) (hall : all.length / size.toNat * size.toNat < UInt32.size)
    (hask : ∀ skip,
      (ask skip).run.run m = (.ok ((all.drop skip.toNat).take size.toNat), m))
    (skip : UInt32) (hskip : size.toNat ∣ skip.toNat) :
    ∃ pages, Walk ask size skip m pages := by
  have hpos : 0 < size.toNat := by
    refine Nat.pos_of_ne_zero fun h => hsize (UInt32.toNat_inj.1 ?_)
    rw [h, UInt32.toNat_zero]
  induction hleft : all.length - skip.toNat using Nat.strongRecOn generalizing skip with
  | ind left ih =>
    subst hleft
    by_cases hshort : all.length - skip.toNat < size.toNat
    · refine ⟨_, .last (hask skip) ?_⟩
      rw [List.length_take, List.length_drop]
      omega
    · obtain ⟨k, hk⟩ := hskip
      have hfits : skip.toNat + size.toNat < UInt32.size := by
        have hle : (k + 1) * size.toNat ≤ all.length := by
          rw [Nat.mul_comm, Nat.mul_succ, ← hk]
          omega
        have hfull := Nat.mul_le_mul_right size.toNat ((Nat.le_div_iff_mul_le hpos).2 hle)
        rw [hk, ← Nat.mul_succ, Nat.mul_comm]
        exact Nat.lt_of_le_of_lt hfull hall
      obtain ⟨pages, hpages⟩ := ih _ (by rw [toNat_add hfits]; omega) (skip + size)
        ⟨k + 1, by rw [toNat_add hfits, hk, Nat.mul_succ]⟩ rfl
      refine ⟨_, .next (hask skip) ?_ hfits hpages⟩
      rw [List.length_take, List.length_drop]
      omega

end Walk

/-! ### Requests -/

lemma Listing.of_ofRequest_eq_ok {s : Schema E} {request : ListingRequest} {l : Listing}
    (h : ofRequest s request = .ok l) :
    (∀ skip take, ofRequest s { request with skip, take } = .ok { l with page := ⟨skip, take⟩ }) ∧
      (request.selection = none → l.projection = none) := by
  obtain ⟨hfilter, hincludes, horder, hprojection, -⟩ := ofRequest_eq_ok_iff.1 h
  refine ⟨fun skip take => ?_, fun hnone => ?_⟩
  · exact ofRequest_eq_ok_iff.2 ⟨hfilter, hincludes, horder, hprojection, rfl⟩
  · rw [hnone] at hprojection
    exact (Except.ok.inj hprojection).symm

lemma Grouping.of_ofRequest_eq_ok {s : Schema E} {request : GroupingRequest} {g : Grouping}
    (h : ofRequest s request = .ok g) :
    (∀ skip take, ofRequest s { request with skip, take } = .ok { g with page := ⟨skip, take⟩ }) ∧
      (request.group.selection = none → g.representative.projection = none) := by
  obtain ⟨hfilter, hkey, hrepresentative, -⟩ := ofRequest_eq_ok_iff.1 h
  refine ⟨fun skip take => ?_, fun hnone => ?_⟩
  · exact ofRequest_eq_ok_iff.2 ⟨hfilter, hkey, hrepresentative, rfl⟩
  · obtain ⟨-, hprojection⟩ := Representative.ofRule_eq_ok_iff.1 hrepresentative
    rw [hnone] at hprojection
    exact (Except.ok.inj hprojection).symm

namespace Repository

variable {r : Repository E σ}

lemma getItems_of_resolved {request : ListingRequest} {l : Listing}
    (h : Listing.ofRequest r.schema request = .ok l) (cancel : Option (Handle E)) :
    r.getItems request cancel = r.query (l.plan r.schema r.settings) cancel := by
  rw [getItems, h, resolved_ok_bind]
  rfl

lemma groupByDistinct_of_resolved {request : GroupingRequest} {g : Grouping}
    (h : Grouping.ofRequest r.schema request = .ok g) (cancel : Option (Handle E)) :
    r.groupByDistinct request cancel = r.query (g.plan r.settings) cancel := by
  rw [groupByDistinct, h, resolved_ok_bind]

end Repository

/-- A request whose answer comes in pages. -/
inductive Browse where
  | listing (request : ListingRequest)
  | grouping (request : GroupingRequest)

namespace Browse

/-- The request for another window on the same answer. -/
def window (skip take : UInt32) : Browse → Browse
  | .listing request => .listing { request with skip, take }
  | .grouping request => .grouping { request with skip, take }

/-- Nothing is selected: whole entities are asked for. -/
def Plain : Browse → Prop
  | .listing request => request.selection = none
  | .grouping request => request.group.selection = none

/-- The request resolves against a schema. -/
def Compiles (s : Schema E) : Browse → Prop
  | .listing request => ∃ l, Listing.ofRequest s request = .ok l
  | .grouping request => ∃ g, Grouping.ofRequest s request = .ok g

/-- The answer of a repository. -/
def ask (r : Repository E σ) (cancel : Option (Handle E)) : Browse → Action σ (List (Hit E))
  | .listing request => r.getItems request cancel
  | .grouping request => r.groupByDistinct request cancel

variable [Entity E] {s : Schema E} {b : Browse}

open Repository

/-- All windows of a request have one plan, up to the page. -/
lemma exists_plan (hplain : b.Plain) (hc : b.Compiles s) (settings : RepositorySettings)
    (cancel : Option (Handle E)) :
    ∃ p : Plan, p.effectiveProjection = none ∧ ∀ max skip take,
      let r := MemoryStore.repository s { settings with maxTake := max }
      (b.window skip take).ask r cancel =
        r.query { p with page := Page.capped ⟨skip, take⟩ max } cancel := by
  cases b with
  | listing request =>
    obtain ⟨l, hl⟩ := hc
    obtain ⟨hwindow, hprojection⟩ := Listing.of_ofRequest_eq_ok hl
    refine ⟨l.plan s settings, hprojection hplain, ?_⟩
    intro max skip take r
    exact getItems_of_resolved (r := r) (hwindow skip take) cancel
  | grouping request =>
    obtain ⟨g, hg⟩ := hc
    obtain ⟨hwindow, hprojection⟩ := Grouping.of_ofRequest_eq_ok hg
    refine ⟨g.plan settings, ?_, ?_⟩
    · show (g.representative.projection <|> none) = none
      rw [hprojection hplain]
      rfl
    · intro max skip take r
      exact groupByDistinct_of_resolved (r := r) (hwindow skip take) cancel

lemma run_query {m : MemoryStore E} (hfree : m.free ≠ 0) (settings : RepositorySettings)
    {cancel : Option (Handle E)} (hcancel : ∀ h ∈ cancel, ∀ events, h.Silent events) {p : Plan}
    (hp : p.effectiveProjection = none) :
    ((MemoryStore.repository s settings).query p cancel).run.run m =
      (.ok (p.page.apply ((p.chosen s m.rows).map .entity)), m) := by
  have hvalid := Plan.validate_of_unprojected hp
  have hfetch : MemoryStore.fetch s m.rows p cancel =
      ⟨.ok (p.page.apply ((p.chosen s m.rows).map .entity)), false⟩ := by
    rw [MemoryStore.fetch, hvalid, Plan.execute_of_unprojected s hp]
    exact MemoryStore.watched_of_silent (fun h hh => hcancel h hh _) _
  rw [query_eq, hvalid, resolved_ok_bind, run_pooled, if_neg hfree, fetched, run_answered, hfetch]
  rfl

/-- **Pages come together as the answer to the request for everything**: the same request without
limit, under settings without a maximum, has an answer; whatever pages of one size a walk from the
start collects are this answer cut into pieces; and there is a walk unless the skips grow too
large. -/
theorem flatten_of_walk {m : MemoryStore E} (hfree : m.free ≠ 0) {settings : RepositorySettings}
    {cancel : Option (Handle E)} (hcancel : ∀ h ∈ cancel, ∀ events, h.Silent events)
    (hplain : b.Plain) (hc : b.Compiles s) {size : UInt32} (hsize : size ≠ 0)
    (hmax : ∀ max ∈ settings.maxTake, size ≤ max) :
    let whole := MemoryStore.repository s { settings with maxTake := none }
    let ask skip := (b.window skip size).ask (MemoryStore.repository s settings) cancel
    ∃ all, ((b.window 0 0).ask whole cancel).run.run m = (.ok all, m) ∧
      (∀ pages, Walk ask size 0 m pages → pages.flatten = all) ∧
      (all.length / size.toNat * size.toNat < UInt32.size → ∃ pages, Walk ask size 0 m pages) := by
  intro whole ask
  obtain ⟨p, hp, hwindow⟩ := exists_plan hplain hc settings cancel
  have hall : ((b.window 0 0).ask whole cancel).run.run m =
      (.ok ((p.chosen s m.rows).map .entity), m) := by
    rw [hwindow none 0 0]
    exact run_query hfree _ hcancel (p := { p with page := ⟨0, 0⟩ }) hp
  have hask (skip : UInt32) : (ask skip).run.run m =
      (.ok ((((p.chosen s m.rows).map .entity).drop skip.toNat).take size.toNat), m) := by
    have hquery : ask skip = _ := hwindow settings.maxTake skip size
    rw [hquery, Page.capped_of_le hsize hmax, ← Page.apply_of_take hsize]
    exact run_query hfree _ hcancel (p := { p with page := ⟨skip, size⟩ }) hp
  refine ⟨_, hall, fun pages hpages => ?_, fun hfits => ?_⟩
  · exact hpages.flatten_eq hask
  · exact Walk.exists_pages hsize hfits hask 0 (by simp)

/-- Three notes, two of which tie: two pages of a walk give them in one order. -/
theorem flatten_of_notes :
    let s : Schema Slots := ⟨"Note", SchemaDraft.baseFields, [], [], none⟩
    let note (id : BitVec 128) (deleted : Bool) : Slots :=
      ⟨{ BaseFields.fresh Uuid.nil Instant.epoch with id := ⟨id⟩, deleted }, [], [], none⟩
    let m : MemoryStore Slots := ⟨[note 1 true, note 2 false, note 3 true], .usual, 0⟩
    let settings : RepositorySettings := ⟨10, some 2, true⟩
    let b : Browse := .listing { ListingRequest.usual with order := some ⟨"isdeleted", true⟩ }
    let ask skip := (b.window skip 2).ask (MemoryStore.repository s settings) none
    let pages : List (List (Hit Slots)) :=
      [[.entity (note 1 true), .entity (note 3 true)], [.entity (note 2 false)]]
    m.free ≠ 0 ∧ b.Plain ∧ b.Compiles s ∧ (2 : UInt32) ≠ 0 ∧
      (∀ max ∈ settings.maxTake, 2 ≤ max) ∧ Walk ask 2 0 m pages ∧
      ((b.window 0 0).ask (MemoryStore.repository s { settings with maxTake := none }) none).run.run
        m = (.ok pages.flatten, m) := by
  intro s note m settings b ask pages
  have free : m.free ≠ 0 := by decide
  have plain : b.Plain := rfl
  have compiles : b.Compiles s := ⟨_, rfl⟩
  have fits : ∀ max ∈ settings.maxTake, 2 ≤ max := by
    rintro max ⟨⟩
    exact UInt32.le_refl 2
  have first : (ask 0).run.run m = (.ok [.entity (note 1 true), .entity (note 3 true)], m) := rfl
  have second : (ask 2).run.run m = (.ok [.entity (note 2 false)], m) := rfl
  have walk : Walk ask 2 0 m pages := by
    refine .next first (by decide) (by decide) ?_
    rw [(by decide : (0 : UInt32) + 2 = 2)]
    exact .last second (by decide)
  have silent : ∀ h ∈ (none : Option (Handle Slots)), ∀ events, h.Silent events :=
    fun h hh => absurd hh (Option.not_mem_none h)
  obtain ⟨all, whole, flatten, -⟩ := flatten_of_walk free silent plain compiles
    (by decide : (2 : UInt32) ≠ 0) fits
  rw [← flatten pages walk] at whole
  exact ⟨free, plain, compiles, by decide, fits, walk, whole⟩

end Browse

end EntityQuery
