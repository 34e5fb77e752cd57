import EntityQuery.Proofs.Repository.Pages

/-!
The largest page. A maximum in the settings cuts the answer to every listing and every grouping
down to its first records, so many at most. Only a maximum of 0 does not, because taking 0 means
taking all. Main statement: `length_le_of_maxTake`.
-/

namespace EntityQuery

variable {E : Type}

/-- A maximum other than 0 keeps the first rows of a window. -/
lemma Page.apply_capped {α : Type} (p : Page) {max : UInt32} (hmax : max ≠ 0) (rows : List α) :
    (p.capped (some max)).apply rows = (p.apply rows).take max.toNat := by
  obtain ⟨skip, take⟩ := p
  by_cases htake : take = 0
  · subst htake
    rw [capped, if_pos (.inl rfl), apply_of_take hmax]
    rfl
  · rw [apply_of_take htake, List.take_take]
    by_cases hless : max < take
    · rw [capped, if_pos (.inr hless), apply_of_take hmax,
        Nat.min_eq_left (Nat.le_of_lt (UInt32.lt_iff_toNat_lt.1 hless))]
    · have hle : take ≤ max := UInt32.not_lt.1 hless
      rw [capped_of_le htake (fun m hm => Option.mem_some.1 hm ▸ hle), apply_of_take htake,
        Nat.min_eq_right (UInt32.le_iff_toNat_le.1 hle)]

namespace MemoryStore

lemma execute_of_fetch_eq_ok {s : Schema E} {rows : List E} {p : Plan} {cancel : Option (Handle E)}
    {hits : List (Hit E)} (h : (fetch s rows p cancel).result = .ok hits) :
    p.validate = .ok () ∧ p.execute s rows = .ok hits := by
  unfold fetch at h
  split at h
  · cases h
  · rename_i hvalid
    refine ⟨hvalid, ?_⟩
    unfold watched at h
    split at h
    · exact Result.mapError_eq_ok_iff.1 h
    · cases h

end MemoryStore

/-- What is asked for page by page: a request, or a listing that is put together by hand. -/
inductive Paged where
  | request (b : Browse)
  | listing (l : Listing)

namespace Paged

/-- The answer of a repository. -/
def ask {σ : Type} (r : Repository E σ) (cancel : Option (Handle E)) :
    Paged → Action σ (List (Hit E))
  | .request b => b.ask r cancel
  | .listing l => r.queryItems l cancel

variable [Entity E] {s : Schema E}

open Repository

/-- Whatever the maximum, the question is not understood or has one plan, up to the page. -/
lemma exists_plan (s : Schema E) (settings : RepositorySettings) (q : Paged)
    (cancel : Option (Handle E)) :
    (∃ e, ∀ max, q.ask (MemoryStore.repository s { settings with maxTake := max }) cancel =
      resolved (.error e)) ∨
    ∃ (p : Plan) (page : Page), ∀ max,
      let r := MemoryStore.repository s { settings with maxTake := max }
      q.ask r cancel = r.query { p with page := page.capped max } cancel := by
  cases q with
  | listing l => exact .inr ⟨l.plan s settings, l.page, fun max => rfl⟩
  | request b =>
    cases b with
    | listing request =>
      cases hl : Listing.ofRequest s request with
      | error e =>
        refine .inl ⟨e, fun max => ?_⟩
        show resolved (Listing.ofRequest s request) >>= _ = _
        rw [hl]
        rfl
      | ok l =>
        refine .inr ⟨l.plan s settings, l.page, fun max => ?_⟩
        exact getItems_of_resolved (r := MemoryStore.repository s _) hl cancel
    | grouping request =>
      cases hg : Grouping.ofRequest s request with
      | error e =>
        refine .inl ⟨e, fun max => ?_⟩
        show resolved (Grouping.ofRequest s request) >>= _ = _
        rw [hg]
        rfl
      | ok g =>
        refine .inr ⟨g.plan settings, g.page, fun max => ?_⟩
        exact groupByDistinct_of_resolved (r := MemoryStore.repository s _) hg cancel

/-- The results of a plan are made of the entities on its page, place by place. -/
lemma forall₂_of_query {settings : RepositorySettings} {p : Plan} {cancel : Option (Handle E)}
    {m m' : MemoryStore E} {hits : List (Hit E)}
    (h : ((MemoryStore.repository s settings).query p cancel).run.run m = (.ok hits, m')) :
    List.Forall₂ (fun e hit => Plan.present s p.effectiveProjection e = .ok hit)
      (p.page.apply (p.chosen s m.rows)) hits := by
  rw [query_eq] at h
  cases hvalid : p.validate with
  | error e => rw [hvalid] at h; cases h
  | ok =>
    rw [hvalid, resolved_ok_bind] at h
    obtain ⟨rows, hwork, -⟩ := of_run_pooled_ok h
    obtain ⟨hfetch, -⟩ := of_run_answered_ok hwork
    obtain ⟨-, hexecute⟩ := MemoryStore.execute_of_fetch_eq_ok hfetch
    rw [Plan.execute_eq s hvalid] at hexecute
    exact Result.mapM_eq_ok_iff.1 hexecute

/-- **A maximum other than 0 bounds the number of records in every answer**, and it takes nothing
away but what comes behind: the answer without a maximum, where there is one, starts with the same
records. -/
theorem length_le_of_maxTake {settings : RepositorySettings} {max : UInt32}
    (hmax : settings.maxTake = some max) (hpos : max ≠ 0) {q : Paged} {cancel : Option (Handle E)}
    {m m' : MemoryStore E} {hits : List (Hit E)}
    (h : (q.ask (MemoryStore.repository s settings) cancel).run.run m = (.ok hits, m')) :
    hits.length ≤ max.toNat ∧
      ∀ all m'', (q.ask (MemoryStore.repository s { settings with maxTake := none })
        cancel).run.run m = (.ok all, m'') → hits = all.take max.toNat := by
  have hsettings : settings = { settings with maxTake := some max } := by rw [← hmax]
  rw [hsettings] at h
  rcases exists_plan s settings q cancel with ⟨e, herror⟩ | ⟨p, page, hplan⟩
  · rw [herror] at h
    cases h
  · rw [hplan] at h
    have hhits := forall₂_of_query h
    simp only [Page.apply_capped page hpos] at hhits
    refine ⟨?_, fun all m'' hall => ?_⟩
    · rw [← hhits.length_eq]
      exact List.length_take_le _ _
    · rw [hplan] at hall
      have htaken := List.forall₂_take max.toNat (forall₂_of_query hall)
      exact Except.ok.inj ((Result.mapM_eq_ok_iff.2 hhits).symm.trans
        (Result.mapM_eq_ok_iff.2 htaken))

/-- Three notes under a maximum of two: a listing of all of them, deleted ones first, shows the two
that are deleted. -/
theorem length_le_of_deleted_notes :
    let s : Schema Slots := ⟨"Note", SchemaDraft.baseFields, [], [], none⟩
    let note (id : BitVec 128) (deleted : Bool) : Slots :=
      ⟨{ BaseFields.fresh Uuid.nil Instant.epoch with id := ⟨id⟩, deleted }, [], [], none⟩
    let m : MemoryStore Slots := ⟨[note 1 true, note 2 false, note 3 true], .usual, 0⟩
    let settings : RepositorySettings := ⟨10, some 2, true⟩
    let q : Paged := .listing
      { Listing.firstOf 0 with order := some ⟨⟨1, "IsDeleted"⟩, .descending⟩ }
    let hits : List (Hit Slots) := [.entity (note 1 true), .entity (note 3 true)]
    let all : List (Hit Slots) := hits ++ [.entity (note 2 false)]
    settings.maxTake = some 2 ∧ (2 : UInt32) ≠ 0 ∧
      (q.ask (MemoryStore.repository s settings) none).run.run m = (.ok hits, m) ∧
      (q.ask (MemoryStore.repository s { settings with maxTake := none }) none).run.run m =
        (.ok all, m) ∧
      hits.length ≤ (2 : UInt32).toNat ∧ hits = all.take (2 : UInt32).toNat := by
  intro s note m settings q hits all
  have top : settings.maxTake = some 2 := rfl
  have positive : (2 : UInt32) ≠ 0 := by decide
  have capped : (q.ask (MemoryStore.repository s settings) none).run.run m = (.ok hits, m) := rfl
  have whole : (q.ask (MemoryStore.repository s { settings with maxTake := none }) none).run.run m =
      (.ok all, m) := rfl
  obtain ⟨bounded, first⟩ := length_le_of_maxTake top positive capped
  exact ⟨top, positive, capped, whole, bounded, first all m whole⟩

/-- Under a maximum of 0 a request for one note shows two: the maximum takes its limit away. -/
theorem not_length_le_of_zero :
    let s : Schema Slots := ⟨"Note", SchemaDraft.baseFields, [], [], none⟩
    let note (id : BitVec 128) : Slots :=
      ⟨{ BaseFields.fresh Uuid.nil Instant.epoch with id := ⟨id⟩ }, [], [], none⟩
    let m : MemoryStore Slots := ⟨[note 1, note 2], .usual, 0⟩
    let settings : RepositorySettings := ⟨10, some 0, true⟩
    let q : Paged := .request (.listing { ListingRequest.usual with take := 1 })
    let hits : List (Hit Slots) := [.entity (note 1), .entity (note 2)]
    settings.maxTake = some 0 ∧
      (q.ask (MemoryStore.repository s settings) none).run.run m = (.ok hits, m) ∧
      ¬ hits.length ≤ (0 : UInt32).toNat := by
  intro s note m settings q hits
  exact ⟨rfl, rfl, by decide⟩

end Paged

end EntityQuery
