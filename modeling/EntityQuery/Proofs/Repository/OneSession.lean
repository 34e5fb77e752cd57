import EntityQuery.Proofs.Repository.Resolution
import EntityQuery.Proofs.Store.Safety

/-!
Work in one session. An operation that resolves, and finds the capabilities it needs, does all its
work in a single session, and this work does not report a lack of sessions; any other operation is
refused before it asks for one. So an operation lacks a session exactly if none is free when it
starts. Main statement: `exists_pooled`.
-/

namespace EntityQuery

variable {E α β : Type}

open Result Repository

/-! ### What the store reports -/

namespace MemoryStore

/-- The error of a store whose sessions are all in use. -/
def exhausted : StorageError := .backend (.poolExhausted name)

variable {s : Schema E} {rows : List E}

lemma fetch_ne_exhausted (p : Plan) (cancel : Option (Handle E)) :
    (fetch s rows p cancel).result ≠ .error exhausted := by
  intro h
  unfold fetch at h
  split at h
  · cases h
  · rcases of_watched_eq_error h with hexecute | ⟨hinterrupted, -⟩
    · obtain ⟨_, -, hquery⟩ := mapError_eq_error_iff.1 hexecute
      cases hquery
    · cases hinterrupted

lemma watch_ne_exhausted (cancel : Option (Handle E)) (events : List (Event E)) :
    watch cancel events ≠ .error exhausted := by
  intro h
  cases eq_interrupted_of_watch h

lemma count_ne_exhausted (filter : Option Predicate) (cancel : Option (Handle E)) :
    (count s rows filter cancel).result ≠ .error exhausted := by
  unfold count matching
  cases hwatch : watch cancel (Plan.matchingEvents s filter rows) with
  | ok after => exact fun h => by cases h
  | error e =>
    rintro ⟨⟩
    exact watch_ne_exhausted cancel _ hwatch

lemma deleteWhere_ne_exhausted (filter : Option Predicate) (cancel : Option (Handle E)) :
    (deleteWhere s filter cancel rows).1.result ≠ .error exhausted := by
  rw [deleteWhere_eq]
  cases hwatch : watch cancel (Plan.matchingEvents s filter rows) with
  | ok after => exact fun h => by cases h
  | error e =>
    rintro ⟨⟩
    exact watch_ne_exhausted cancel _ hwatch

variable [Entity E]

lemma settled_ne_exhausted (candidate : List E) (changed : List ℕ) (x : α) :
    (settled s rows candidate changed x).1 ≠ .error exhausted := by
  unfold settled
  split <;> exact fun h => by cases h

lemma insert_ne_exhausted (new : List E) : (insert s new rows).1 ≠ .error exhausted := by
  rw [insert_eq]
  exact settled_ne_exhausted _ _ _

lemma replace_ne_exhausted (e : E) : (replace s e rows).1 ≠ .error exhausted := by
  rw [replace_eq]
  split
  · exact fun h => by cases h
  · exact settled_ne_exhausted _ _ _

lemma updateWhere_ne_exhausted (filter : Option Predicate) (m : Mutation)
    (cancel : Option (Handle E)) :
    (updateWhere s filter m cancel rows).1.result ≠ .error exhausted := by
  have hresult := congrArg Prod.fst (updateWhere_eq s filter m cancel rows)
  simp only at hresult
  rw [hresult]
  cases hwatch : watch cancel (Plan.matchingEvents s filter rows) with
  | error e =>
    rintro ⟨⟩
    exact watch_ne_exhausted cancel _ hwatch
  | ok after =>
    simp only [update_eq]
    split
    · exact fun h => by cases h
    · exact settled_ne_exhausted _ _ _

end MemoryStore

namespace Repository

/-! ### Work in one session -/

/-- Work that does not report a lack of sessions. -/
def Solvent (work : Action (List E) α) : Prop :=
  Maintains (fun _ => True) (fun e => e ≠ MemoryStore.exhausted) work

lemma outcome_ne_exhausted {e : StorageError} (h : e ≠ MemoryStore.exhausted) (signalled : Bool) :
    outcome signalled e ≠ MemoryStore.exhausted := by
  cases signalled with
  | true => exact fun h => by cases h
  | false =>
    cases e with
    | backend b =>
      cases b with
      | uniqueViolation => exact fun h => by cases h
      | _ => exact h
    | _ => exact h

lemma solvent_answered {work : List E → Answer α × List E}
    (h : ∀ rows, (work rows).1.result ≠ .error MemoryStore.exhausted) :
    Solvent (answered work) := by
  refine fun rows _ => ⟨trivial, fun e he => ?_⟩
  rw [run_answered] at he
  obtain ⟨p, hp, rfl⟩ := mapError_eq_error_iff.1 he
  exact outcome_ne_exhausted (fun hexhausted => h rows (hexhausted ▸ hp)) _

lemma solvent_orNotFound (s : Schema E) (id : Uuid) (x : Option α) :
    Solvent (orNotFound s id x : Action (List E) α) := by
  cases x with
  | some x => exact maintains_pure x
  | none => exact maintains_throw fun h => by cases h

lemma run_pooled_of_exhausted {work : Action (List E) α} {m : MemoryStore E} (h : m.free = 0) :
    (pooled work).run.run m = (.error MemoryStore.exhausted, m) := by
  rw [run_pooled, if_pos h]
  rfl

/-- A step that requires capabilities and then does solvent work in one session. -/
def InOneSession (r : Repository E (MemoryStore E)) (needed : List Capability)
    (a : Action (MemoryStore E) α) : Prop :=
  ∃ work : Action (List E) α, Solvent work ∧ a = (r.require needed >>= fun _ => pooled work)

variable {r : Repository E (MemoryStore E)} {needed : List Capability}

lemma InOneSession.bind {a : Action (MemoryStore E) α} (ha : InOneSession r needed a)
    {next : α → Action (List E) β} (hnext : ∀ x, Solvent (next x)) :
    InOneSession r needed (a >>= fun x => onRows (next x)) := by
  obtain ⟨work, hwork, rfl⟩ := ha
  exact ⟨work >>= next, hwork.bind hnext, by simp only [bind_assoc, pooled_bind]⟩

lemma InOneSession.discard {a : Action (MemoryStore E) α} (ha : InOneSession r needed a) :
    InOneSession r needed (Functor.discard a) :=
  ha.bind fun _ => maintains_pure ()

lemma inOneSession_pooled {work : Action (List E) α} (h : Solvent work) :
    InOneSession r [] (pooled work) := ⟨work, h, rfl⟩

lemma InOneSession.orNotFound {a : Action (MemoryStore E) α} (ha : InOneSession r needed a)
    (s : Schema E) (id : Uuid) (f : α → Option β) :
    InOneSession r needed (a >>= fun x => Repository.orNotFound s id (f x)) := by
  simpa only [onRows_orNotFound] using ha.bind fun x => solvent_orNotFound s id (f x)

lemma InOneSession.of_resolved {x : Except QueryError α} {a : α} (hx : x = .ok a)
    {next : α → Action (MemoryStore E) β} (h : InOneSession r needed (next a)) :
    InOneSession r needed (resolved x >>= next) := by
  rw [hx, resolved_ok_bind]
  exact h

end Repository

/-! ### Operations -/

/-- A repository on the store in memory, some of whose capabilities may be hidden. -/
def MemoryStore.limited [Entity E] (s : Schema E) (settings : RepositorySettings)
    (supports : Capability → Bool) : Repository E (MemoryStore E) :=
  ⟨s, { MemoryStore.backend s with supports }, settings⟩

/-- What a write needs of a backend. -/
def Write.needs : Write E → List Capability
  | .updateWhere .. | .executeUpdate .. => [.bulkUpdate]
  | .deleteWhere .. => [.bulkDelete]
  | .insert .. | .bulkInsert .. | .update .. | .delete _ => []

namespace Operation

/-- What an operation that resolves needs of a backend. -/
def needs (s : Schema E) (settings : RepositorySettings) :
    Operation E → Except QueryError (List Capability)
  | .write w => do
    w.resolution s
    return w.needs
  | .query p _ => do
    p.validate
    return p.requiredCapabilities
  | .queryItems l _ => return (l.plan s settings).requiredCapabilities
  | .getItems request _ => do
    let l ← Listing.ofRequest s request
    return (l.plan s settings).requiredCapabilities
  | .groupByDistinct request _ => do
    let g ← Grouping.ofRequest s request
    return (g.plan settings).requiredCapabilities
  | .get id includes => do
    let filter ← byId s id
    let includes ← s.includes includes
    return { Plan.everything with includes, filter := some filter }.requiredCapabilities
  | .getSelect id request => do
    let lookup ← Lookup.ofRequest s request
    let filter ← byId s id
    return (lookup.plan filter).requiredCapabilities
  | .getAll _ => return Plan.everything.requiredCapabilities
  | .first filters _ => do
    let filter ← filters.mapM (Predicate.ofList s)
    let l : Listing := { Listing.firstOf settings.defaultTake with filter, page := ⟨0, 1⟩ }
    return (l.plan s settings).requiredCapabilities
  | .count filters _ => do
    let filter ← filters.mapM (Predicate.ofList s)
    return if filter.isSome then [.filtering] else []

/-- What is needed is known exactly of the operations that resolve. -/
lemma discard_needs (s : Schema E) (settings : RepositorySettings) (op : Operation E) :
    Functor.discard (op.needs s settings) = op.resolution s := by
  have hdrop {γ : Type} {x : Except QueryError γ} {f : γ → List Capability} :
      Functor.discard (x >>= fun a => pure (f a)) = Functor.discard x := by
    cases x <;> rfl
  cases op with
  | getItems | groupByDistinct | first | count => exact hdrop
  | queryItems | getAll => rfl
  | write w =>
    rw [needs, resolution]
    cases w.resolution s <;> rfl
  | query p cancel =>
    rw [needs, resolution]
    cases p.validate <;> rfl
  | get id includes =>
    rw [needs, resolution]
    cases byId s id <;> cases s.includes includes <;> rfl
  | getSelect id request =>
    rw [needs, resolution]
    cases byId s id <;> cases Lookup.ofRequest s request <;> rfl

/-- The operation resolves, and the backend has the capabilities it needs. -/
def Admitted (s : Schema E) (settings : RepositorySettings) (supports : Capability → Bool)
    (op : Operation E) : Prop :=
  ¬ op.Malformed s ∧ ∀ needed, op.needs s settings = .ok needed → ∀ c ∈ needed, supports c

lemma exists_needs {s : Schema E} {op : Operation E} (h : ¬ op.Malformed s)
    (settings : RepositorySettings) : ∃ needed, op.needs s settings = .ok needed := by
  rw [← op.fails_resolution_iff, ← op.discard_needs s settings] at h
  exact not_fails_iff.1 (mt fails_map_iff.2 h)

end Operation

variable [Entity E] {s : Schema E} {settings : RepositorySettings} {supports : Capability → Bool}

/-- The session that work takes is the only one. -/
lemma Repository.inOneSession_inSession (s : Schema E) (settings : RepositorySettings)
    (supports : Capability → Bool) {work : Action (List E) α} (h : Solvent work)
    (needed : List Capability) :
    let r := MemoryStore.limited s settings supports
    InOneSession r needed (r.require needed >>= fun _ => r.inSession (onRows work)) :=
  ⟨work, h, congrArg _ (funext fun _ => inSession_onRows s settings work)⟩

lemma Repository.inOneSession_query {p : Plan} (hp : p.validate = .ok ())
    (cancel : Option (Handle E)) :
    let r := MemoryStore.limited s settings supports
    InOneSession r p.requiredCapabilities (r.query p cancel) := by
  have hfetched : Solvent (fetched s p cancel) :=
    solvent_answered fun rows => MemoryStore.fetch_ne_exhausted p cancel
  exact .of_resolved hp
    (inOneSession_inSession s settings supports hfetched p.requiredCapabilities)

/-- A write that resolves does its work in one session. -/
lemma Write.inOneSession {w : Write E} (h : w.resolution s = .ok ()) :
    let r := MemoryStore.limited s settings supports
    InOneSession r w.needs (w.run r) := by
  intro r
  have happended (new : List E) : Solvent (appended s new) :=
    solvent_answered fun rows => MemoryStore.insert_ne_exhausted new
  have hdeleted (filter : Option Predicate) (cancel : Option (Handle E)) :
      Solvent (answered (MemoryStore.deleteWhere s filter cancel)) :=
    solvent_answered fun rows => MemoryStore.deleteWhere_ne_exhausted filter cancel
  have hchanged (c : BulkChange) (cancel : Option (Handle E)) :
      InOneSession r [.bulkUpdate] (r.executeUpdate c cancel) := by
    have hwork : Solvent (answered (MemoryStore.updateWhere s c.filter c.mutation cancel)) :=
      solvent_answered fun rows => MemoryStore.updateWhere_ne_exhausted c.filter c.mutation cancel
    exact inOneSession_inSession s settings supports hwork [.bulkUpdate]
  cases w with
  | insert now fresh e =>
    have heq : r.insert now fresh e = _ := insert_eq s settings now fresh e
    rw [run, heq]
    exact (inOneSession_pooled ((happended _).bind fun _ => maintains_pure _)).discard
  | bulkInsert now fresh new =>
    have heq : r.bulkInsert now fresh new = _ := bulkInsert_eq s settings now fresh new
    rw [run, heq]
    exact (inOneSession_pooled ((happended _).bind fun _ => maintains_pure _)).discard
  | update now id e =>
    obtain ⟨filter, hfilter, -⟩ := map_eq_ok_iff.1 h
    have heq : r.update now id e = _ := update_eq s settings now id e
    rw [run, heq]
    refine (InOneSession.of_resolved hfilter (inOneSession_pooled ?_)).discard
    refine Maintains.bind (solvent_answered fun rows => MemoryStore.fetch_ne_exhausted _ none)
      fun hits => (solvent_orNotFound s id _).bind fun stored => ?_
    refine Maintains.bind (solvent_answered fun rows => MemoryStore.replace_ne_exhausted _)
      fun found => ?_
    cases found with
    | true => exact maintains_pure _
    | false => exact maintains_throw fun h => by cases h
  | updateWhere request cancel =>
    obtain ⟨c, hc, -⟩ := map_eq_ok_iff.1 h
    exact (InOneSession.of_resolved hc (hchanged c cancel)).discard
  | executeUpdate c cancel => exact (hchanged c cancel).discard
  | delete id =>
    obtain ⟨filter, hfilter, -⟩ := map_eq_ok_iff.1 h
    have heq : r.delete id = _ := delete_eq s settings id
    rw [run, heq]
    refine .of_resolved hfilter (inOneSession_pooled ((hdeleted _ none).bind fun n => ?_))
    split
    · exact maintains_throw fun h => by cases h
    · exact maintains_pure ()
  | deleteWhere filters cancel =>
    obtain ⟨filter, hfilter, -⟩ := map_eq_ok_iff.1 h
    have hwork := inOneSession_inSession s settings supports (hdeleted filter cancel) [.bulkDelete]
    exact (InOneSession.of_resolved hfilter hwork).discard

namespace Operation

/-- **An operation that resolves does its work in one session**, once the capabilities it needs are
there. -/
theorem inOneSession (supports : Capability → Bool) {op : Operation E} {needed : List Capability}
    (h : op.needs s settings = .ok needed) :
    let r := MemoryStore.limited s settings supports
    InOneSession r needed (op.run r) := by
  intro r
  have hquery {p : Plan} (hp : p.validate = .ok ()) (cancel : Option (Handle E)) :
      InOneSession r p.requiredCapabilities (r.query p cancel) := inOneSession_query hp cancel
  cases op with
  | write w =>
    obtain ⟨_, hw, h⟩ := bind_eq_ok_iff.1 h
    cases h
    exact w.inOneSession hw
  | query p cancel =>
    obtain ⟨_, hp, h⟩ := bind_eq_ok_iff.1 h
    cases h
    exact (hquery hp cancel).discard
  | queryItems l cancel =>
    cases h
    exact (hquery rfl cancel).discard
  | getItems request cancel =>
    obtain ⟨l, hl, h⟩ := bind_eq_ok_iff.1 h
    cases h
    exact (InOneSession.of_resolved hl (hquery rfl cancel)).discard
  | groupByDistinct request cancel =>
    obtain ⟨g, hg, h⟩ := bind_eq_ok_iff.1 h
    cases h
    have hvalid : (g.plan settings).validate = .ok () := if_neg fun h => nomatch h.2
    exact (InOneSession.of_resolved hg (hquery hvalid cancel)).discard
  | get id includes =>
    obtain ⟨filter, hfilter, h⟩ := bind_eq_ok_iff.1 h
    obtain ⟨included, hincluded, h⟩ := bind_eq_ok_iff.1 h
    cases h
    exact (InOneSession.of_resolved hfilter (.of_resolved hincluded
      ((hquery rfl none).orNotFound s id _))).discard
  | getSelect id request =>
    obtain ⟨lookup, hlookup, h⟩ := bind_eq_ok_iff.1 h
    obtain ⟨filter, hfilter, h⟩ := bind_eq_ok_iff.1 h
    cases h
    exact (InOneSession.of_resolved hlookup (.of_resolved hfilter
      ((hquery rfl none).orNotFound s id _))).discard
  | getAll cancel =>
    cases h
    exact ((hquery rfl cancel).bind fun _ => maintains_pure _).discard
  | first filters cancel =>
    obtain ⟨filter, hfilter, h⟩ := bind_eq_ok_iff.1 h
    cases h
    exact (InOneSession.of_resolved hfilter
      ((hquery rfl cancel).bind fun _ => maintains_pure _)).discard
  | count filters cancel =>
    obtain ⟨filter, hfilter, h⟩ := bind_eq_ok_iff.1 h
    cases h
    have hcounted : Solvent (counted s filter cancel) :=
      solvent_answered fun rows => MemoryStore.count_ne_exhausted filter cancel
    have hwork := inOneSession_inSession s settings supports hcounted
      (if filter.isSome then [.filtering] else [])
    exact (InOneSession.of_resolved hfilter hwork).discard

/-- **An admitted operation is solvent work in one session.** -/
theorem exists_pooled {op : Operation E} (h : op.Admitted s settings supports) :
    ∃ work : Action (List E) Unit, Solvent work ∧
      op.run (MemoryStore.limited s settings supports) = pooled work := by
  obtain ⟨needed, hneeded⟩ := exists_needs h.1 settings
  obtain ⟨work, hwork, hrun⟩ := inOneSession supports hneeded
  exact ⟨work, hwork, by rw [hrun, require_of_supported (h.2 needed hneeded), pure_bind]⟩

lemma run_of_exhausted (settings : RepositorySettings) {op : Operation E}
    (h : op.resolution s = .ok ()) {m : MemoryStore E} (hm : m.free = 0) :
    (op.run (MemoryStore.repository s settings)).run.run m = (.error MemoryStore.exhausted, m) := by
  have hadmitted : op.Admitted s settings fun _ => true :=
    ⟨op.fails_resolution_iff.not.1 (not_fails_iff.2 ⟨(), h⟩), fun _ _ _ _ => rfl⟩
  obtain ⟨work, -, hrun⟩ := exists_pooled hadmitted
  have hpooled : op.run (MemoryStore.repository s settings) = pooled work := hrun
  rw [hpooled, run_pooled_of_exhausted hm]

lemma refused_of_not_admitted {op : Operation E} (h : ¬ op.Admitted s settings supports) :
    ∃ e, ∀ m, (op.run (MemoryStore.limited s settings supports)).run.run m = (.error e, m) := by
  by_cases hmalformed : op.Malformed s
  · obtain ⟨e, he⟩ := op.fails_resolution_iff.2 hmalformed
    exact ⟨.query e, run_of_resolution_eq_error _ settings he⟩
  · obtain ⟨needed, hneeded⟩ := exists_needs hmalformed settings
    obtain ⟨work, -, hrun⟩ := inOneSession supports hneeded
    have hmissing : ¬ ∀ c ∈ needed, supports c := fun hsupports =>
      h ⟨hmalformed, fun other hother => Except.ok.inj (hneeded.symm.trans hother) ▸ hsupports⟩
    obtain ⟨e, he⟩ :=
      require_of_unsupported (r := MemoryStore.limited s settings supports) hmissing
    exact ⟨e, fun m => by rw [hrun, he]; rfl⟩

end Operation

end EntityQuery
