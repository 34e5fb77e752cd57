import EntityQuery.Proofs.Repository.ById
import EntityQuery.Proofs.Repository.Ledger
import EntityQuery.Slots

/-!
A repository on the store in memory refines a ledger. Rows with different identifiers are the
entities of a ledger; each call changes the rows as it changes the ledger and gives the same answer.
That a search by identifier meets one row at most is the uniqueness of identifiers, which every call
keeps. Main statements: `Call.follows_run` for one call and `Ledger.refines_run` for all runs.
-/

namespace EntityQuery

variable {E α β : Type} [Entity E]

namespace Ledger

/-- The ledger has these rows as its entities, each under its own identifier. -/
def Holds (l : Ledger E) (rows : List E) : Prop := l.entries = rows.map entry

lemma exists_holds {s : Schema E} {rows : List E} (h : Rows.Distinct s rows) :
    ∃ l : Ledger E, l.Holds rows := by
  refine ⟨⟨rows.map entry, ?_⟩, rfl⟩
  have hkeys : (rows.map entry).map Prod.fst = rows.map Entity.id := by rw [List.map_map]; rfl
  rw [hkeys, List.nodup_iff_pairwise_ne, List.pairwise_map]
  exact (Rows.distinct_iff_pairwise.1 h).imp fun hap => hap.id_ne

lemma map_snd_entry (rows : List E) : (rows.map entry).map Prod.snd = rows := by
  rw [List.map_map, Function.comp_def]
  exact List.map_id' rows

variable {l : Ledger E} {rows : List E}

lemma Holds.lookup (h : l.Holds rows) (id : Uuid) :
    l.lookup id = rows.find? fun e => Entity.id e == id := by
  rw [Ledger.lookup, h]
  clear h
  induction rows with
  | nil => rfl
  | cons e rows ih =>
    rw [List.map_cons, entry, List.lookup_cons, ih, List.find?_cons, Bool.beq_comm]

lemma Holds.split {id : Uuid} {e : E} (h : l.Holds rows) (hlookup : l.lookup id = some e) :
    ∃ before after, rows = before ++ e :: after ∧ Entity.id e = id ∧
      (∀ r ∈ before, Entity.id r ≠ id) ∧ ∀ r ∈ after, Entity.id r ≠ id := by
  obtain ⟨front, back, hentries, hfront, hback⟩ := exists_of_lookup_eq_some hlookup
  obtain ⟨before, rest, rfl, rfl, hrest⟩ := List.map_eq_append_iff.1 (h.symm.trans hentries)
  obtain ⟨stored, after, rfl, hentry, rfl⟩ := List.map_eq_cons_iff.1 hrest
  obtain ⟨hid, rfl⟩ := Prod.mk.inj hentry
  exact ⟨before, after, rfl, hid, fun r hr => hfront _ (List.mem_map_of_mem hr),
    fun r hr => hback _ (List.mem_map_of_mem hr)⟩

section Split

variable {before after : List E} {stored : E} (h : l.Holds (before ++ stored :: after))
  (hbefore : ∀ r ∈ before, Entity.id r ≠ Entity.id stored)
  (hafter : ∀ r ∈ after, Entity.id r ≠ Entity.id stored)

include h hbefore hafter

lemma Holds.entries_put {new : E} (hid : Entity.id new = Entity.id stored) :
    (l.put (Entity.id stored) new).entries = (before ++ new :: after).map entry := by
  rw [Holds, List.map_append, List.map_cons] at h
  rw [Ledger.entries_put h (by simpa [entry] using hbefore) (by simpa [entry] using hafter),
    List.map_append, List.map_cons, entry, hid]

lemma Holds.erase : (l.erase (Entity.id stored)).Holds
    ((before ++ stored :: after).filter fun e => Entity.id e != Entity.id stored) := by
  rw [Holds, List.map_append, List.map_cons] at h
  have keep : ∀ es : List E, (∀ r ∈ es, Entity.id r ≠ Entity.id stored) →
      es.filter (fun e => Entity.id e != Entity.id stored) = es :=
    fun es hes => List.filter_eq_self.2 fun r hr => bne_iff_ne.2 (hes r hr)
  rw [Holds, entries_erase h (by simpa [entry] using hbefore), List.filter_append,
    List.filter_cons_of_neg (by simp), keep _ hbefore, keep _ hafter, List.map_append]

end Split

end Ledger

/-! ### Calls -/

/-- A call as a step of a backend. -/
def Call.run {σ : Type} (r : Repository E σ) : Call E → Action σ (Reply E)
  | .bulkInsert now fresh new => Reply.entities <$> r.bulkInsert now fresh new
  | .insert now fresh e => Reply.entity <$> r.insert now fresh e
  | .get id includes => Reply.entity <$> r.get id includes
  | .update now id e => Reply.entity <$> r.update now id e
  | .delete id => (fun _ => Reply.done) <$> r.delete id

/-- The ledger and the store have the same entities, which are distinct, and a session is free. -/
structure Ledger.Mirrors (s : Schema E) (l : Ledger E) (m : MemoryStore E) : Prop where
  holds : l.Holds m.rows
  distinct : Rows.Distinct s m.rows
  free : m.free ≠ 0

/-- The result of a call is an answer of the ledger, and the store it leaves mirrors the ledger
after this answer. -/
def Ledger.Follows (s : Schema E) (l : Ledger E) (c : Call E)
    (result : Except StorageError (Reply E) × MemoryStore E) : Prop :=
  ∃ l' : Ledger E, l.Answers s c result.1 l' ∧ l'.Mirrors s result.2

namespace Call

variable {d : SchemaDraft E} {s : Schema E} {l : Ledger E} {m : MemoryStore E}

omit [Entity E] in
lemma run_map {σ : Type} (f : α → β) (a : Action σ α) (m : σ) :
    (f <$> a).run.run m = ((a.run.run m).1.map f, (a.run.run m).2) := by
  rw [← bind_pure_comp, Repository.run_bind]
  cases a.run.run m with
  | mk r m => cases r <;> rfl

/-- A write ends on the ledger as it ends for its candidate rows. -/
lemma follows_concluded {c : Call E} {candidate : List E} {changed : List ℕ} {x : α}
    (reply : α → Reply E) (h : l.Mirrors s m)
    (hsame : ∀ i, i ∉ changed → ∀ a, candidate[i]? = some a → m.rows[i]? = some a)
    (hanswers : ∀ answer l', l.Settles s (candidate.map Ledger.entry) (reply x) answer l' →
      l.Answers s c answer l') :
    l.Follows s c
      ((Repository.inStore m (Repository.concluded s m.rows candidate changed x)).1.map reply,
        (Repository.inStore m (Repository.concluded s m.rows candidate changed x)).2) := by
  unfold Repository.concluded
  cases hclash : Rows.clash? s candidate changed with
  | some name =>
    refine ⟨l, hanswers _ _ (.refused ?_), h⟩
    rw [Ledger.map_snd_entry]
    exact Rows.shared_of_clash?_eq_some hclash
  | none =>
    have hcandidate := Rows.distinct_of_clash?_eq_none h.distinct hclash hsame
    obtain ⟨l', hl'⟩ := Ledger.exists_holds hcandidate
    refine ⟨l', hanswers _ _ (.accepted hl' ?_), hl', hcandidate, h.free⟩
    rw [Ledger.map_snd_entry]
    exact hcandidate

/-! ### New entities -/

lemma stamped_eq_arrival (now : Instant) (fresh : Uuid) (e : E) :
    Repository.stamped now fresh e = Ledger.arrival now fresh e := by
  have hnil : (Entity.id e).isNil = true ↔ Entity.id e = Uuid.nil := by
    cases Entity.id e with
    | mk bits => simp [Uuid.isNil, Uuid.nil]
  have hid : (if (Entity.base e).id.isNil then fresh else (Entity.base e).id) =
      if Entity.id e = Uuid.nil then fresh else Entity.id e := by
    show (if (Entity.id e).isNil then fresh else Entity.id e) = _
    simp only [hnil]
  rw [Repository.stamped, Ledger.arrival, hid]

variable (settings : RepositorySettings)

lemma follows_bulkInsert (h : l.Mirrors s m) (now : Instant) (fresh : ℕ → Uuid) (new : List E) :
    l.Follows s (.bulkInsert now fresh new)
      (((bulkInsert now fresh new).run (MemoryStore.repository s settings)).run.run m) := by
  have hnew : (new.mapIdx fun i e => Repository.stamped now (fresh i) e) =
      Ledger.arrivals now fresh new := by
    simp only [stamped_eq_arrival, Ledger.arrivals]
  rw [run, run_map, Repository.run_bulkInsert settings h.free, hnew]
  refine follows_concluded .entities h (fun _ hi _ ha => Rows.getElem?_of_append _ _ hi ha)
    fun answer l' hsettles => .bulkInsert ?_
  rwa [List.map_append, ← h.holds] at hsettles

lemma follows_insert (h : l.Mirrors s m) (now : Instant) (fresh : Uuid) (e : E) :
    l.Follows s (.insert now fresh e)
      (((insert now fresh e).run (MemoryStore.repository s settings)).run.run m) := by
  rw [run, run_map, Repository.run_insert settings h.free, stamped_eq_arrival]
  refine follows_concluded .entity h
    (fun _ hi _ ha => Rows.getElem?_of_append _ [Ledger.arrival now fresh e] hi ha)
    fun answer l' hsettles => .insert ?_
  rwa [List.map_append, ← h.holds] at hsettles

/-! ### Entities by their identifiers -/

variable (hd : d.KeepsBase) (hs : d.build = .ok s)

include hd hs

lemma follows_get (h : l.Mirrors s m) (id : Uuid) {includes : List String}
    (hincludes : s.DeclaresAll includes) :
    l.Follows s (.get id includes)
      (((get id includes).run (MemoryStore.repository s settings)).run.run m) := by
  obtain ⟨included, hincluded, hcontains⟩ := Schema.exists_includes hincludes
  rw [run, run_map, Repository.run_get settings hd hs h.free id hincluded, ← h.holds.lookup]
  cases hlookup : l.lookup id with
  | none => exact ⟨l, .missing rfl hlookup, h⟩
  | some e =>
    refine ⟨l, ?_, h⟩
    show l.Answers s _ (.ok (.entity (s.unloadExcept included e))) l
    rw [Schema.unloadExcept_eq_view hcontains]
    exact .get hlookup

lemma follows_update (h : l.Mirrors s m) (now : Instant) (id : Uuid) (e : E) :
    l.Follows s (.update now id e)
      (((update now id e).run (MemoryStore.repository s settings)).run.run m) := by
  cases hlookup : l.lookup id with
  | none =>
    rw [run, run_map, Repository.run_update_of_find? settings hd hs h.free, ← h.holds.lookup,
      hlookup]
    exact ⟨l, .missing rfl hlookup, h⟩
  | some stored =>
    -- no other row has the identifier, so the row that is fetched is the one that is replaced
    obtain ⟨before, after, hrows, rfl, hbefore, hafter⟩ := h.holds.split hlookup
    have hholds : l.Holds (before ++ stored :: after) := hrows ▸ h.holds
    rw [run, run_map, Repository.run_update settings hd hs h.free now e hrows hbefore]
    refine follows_concluded .entity h ?_ fun answer l' hsettles => .update hlookup ?_
    · intro i hi a ha
      rw [← Rows.set_middle before after stored] at ha
      rwa [List.getElem?_set_ne (by simpa [eq_comm] using hi), ← hrows] at ha
    · have hid : Entity.id (Ledger.revision now stored e) = Entity.id stored := by
        rw [Ledger.revision, Entity.id, hd.base_withBase]
        rfl
      rw [hholds.entries_put hbefore hafter hid]
      exact hsettles

lemma follows_delete (h : l.Mirrors s m) (id : Uuid) :
    l.Follows s (.delete id)
      (((delete id).run (MemoryStore.repository s settings)).run.run m) := by
  rw [run, run_map, Repository.run_delete settings hd hs h.free]
  cases hlookup : l.lookup id with
  | none =>
    have habsent : ∀ e ∈ m.rows, Entity.id e ≠ id := by
      rw [h.holds.lookup, List.find?_eq_none] at hlookup
      simpa using hlookup
    rw [if_neg fun hex => hex.elim fun e he => habsent e he.1 he.2,
      List.filter_eq_self.2 fun e he => bne_iff_ne.2 (habsent e he)]
    exact ⟨l, .missing rfl hlookup, h⟩
  | some stored =>
    -- the filter takes every row with the identifier, which is one
    obtain ⟨before, after, hrows, rfl, hbefore, hafter⟩ := h.holds.split hlookup
    have hholds : l.Holds (before ++ stored :: after) := hrows ▸ h.holds
    rw [if_pos ⟨stored, by simp [hrows], rfl⟩]
    refine ⟨_, .delete hlookup, ?_, h.distinct.filter _, h.free⟩
    rw [hrows]
    exact hholds.erase hbefore hafter

/-- **A call does to the store what it does to the ledger**, and gives the same answer. -/
theorem follows_run (h : l.Mirrors s m) {c : Call E} (hc : c.Declared s) :
    l.Follows s c ((c.run (MemoryStore.repository s settings)).run.run m) := by
  cases c with
  | bulkInsert now fresh new => exact follows_bulkInsert settings h now fresh new
  | insert now fresh e => exact follows_insert settings h now fresh e
  | get id includes => exact follows_get settings hd hs h id hc
  | update now id e => exact follows_update settings hd hs h now id e
  | delete id => exact follows_delete settings hd hs h id

end Call

/-! ### Runs -/

/-- The results of calls one after the other, each with the state that it leaves. -/
def Call.history {σ : Type} (r : Repository E σ) :
    σ → List (Call E) → List (Except StorageError (Reply E) × σ)
  | _, [] => []
  | m, c :: cs => let result := (c.run r).run.run m; result :: history r result.2 cs

namespace Ledger

variable {d : SchemaDraft E} {s : Schema E}

lemma exists_run (hd : d.KeepsBase) (hs : d.build = .ok s) (settings : RepositorySettings)
    {l : Ledger E} {m : MemoryStore E} (h : l.Mirrors s m) {cs : List (Call E)}
    (hcs : ∀ c ∈ cs, c.Declared s) :
    ∃ steps, Run s l cs steps ∧
      List.Forall₂ (fun result step => result.1 = step.1 ∧ step.2.Holds result.2.rows)
        (Call.history (MemoryStore.repository s settings) m cs) steps := by
  induction cs generalizing l m with
  | nil => exact ⟨[], .nil, .nil⟩
  | cons c cs ih =>
    obtain ⟨l', hanswers, hmirrors⟩ :=
      Call.follows_run settings hd hs h (hcs c List.mem_cons_self)
    obtain ⟨steps, hrun, hsteps⟩ := ih hmirrors fun c hc => hcs c (List.mem_cons_of_mem _ hc)
    exact ⟨_ :: steps, .cons hanswers hrun, .cons ⟨rfl, hmirrors.holds⟩ hsteps⟩

/-- **A repository on the store in memory refines a ledger**: to every run of calls from a store
without entities there is a run of the ledger with the same answers, and after each call the store
has the entities of the ledger, in their order. -/
theorem refines_run (hd : d.KeepsBase) (hs : d.build = .ok s) (settings : RepositorySettings)
    {m : MemoryStore E} (hrows : m.rows = []) (hfree : m.free ≠ 0) {cs : List (Call E)}
    (hcs : ∀ c ∈ cs, c.Declared s) :
    ∃ steps, Run s empty cs steps ∧
      List.Forall₂ (fun result step => result.1 = step.1 ∧ step.2.Holds result.2.rows)
        (Call.history (MemoryStore.repository s settings) m cs) steps :=
  exists_run hd hs settings
    ⟨by rw [hrows]; rfl, by rw [hrows]; exact Rows.distinct_nil s, hfree⟩ hcs

/-- A note is stored, read with its tags, replaced and deleted; another one is asked for in vain. -/
theorem refines_run_note :
    let tags : Navigation Slots := ⟨"Tags", Slots.unload 0⟩
    let d : SchemaDraft Slots := (SchemaDraft.empty "Note").addBaseFields.addNavigation tags
    let s : Schema Slots :=
      ⟨"Note", SchemaDraft.baseFields, [tags], [], some ⟨4, "ModifiedAt"⟩⟩
    let m : MemoryStore Slots := .empty .usual
    let note : Slots := ⟨BaseFields.fresh Uuid.nil Instant.epoch, [], [["a"]], none⟩
    let cs : List (Call Slots) :=
      [.insert Instant.epoch ⟨7⟩ note, .get ⟨7⟩ ["tags"], .update Instant.epoch ⟨7⟩ note,
        .get ⟨8⟩ [], .delete ⟨7⟩]
    d.KeepsBase ∧ d.build = .ok s ∧ m.rows = [] ∧ m.free ≠ 0 ∧ (∀ c ∈ cs, c.Declared s) ∧
      ∃ steps, Run s empty cs steps ∧
        List.Forall₂ (fun result step => result.1 = step.1 ∧ step.2.Holds result.2.rows)
          (Call.history (MemoryStore.repository s .usual) m cs) steps := by
  intro tags d s m note cs
  have keeps : d.KeepsBase :=
    ⟨fun _ => id, fun _ _ => rfl, fun n hn e => by
      obtain rfl := List.mem_singleton.1 hn
      rfl⟩
  have built : d.build = .ok s := rfl
  have free : m.free ≠ 0 := by decide
  have declared : ∀ c ∈ cs, c.Declared s := by
    have asked : s.DeclaresAll ["tags"] := fun name hname =>
      ⟨tags, List.mem_singleton_self _, by rw [List.mem_singleton.1 hname]; decide⟩
    simp only [cs, List.forall_mem_cons]
    exact ⟨trivial, asked, trivial, fun _ h => absurd h List.not_mem_nil, trivial,
      fun _ h => absurd h List.not_mem_nil⟩
  exact ⟨keeps, built, rfl, free, declared, refines_run keeps built .usual rfl free declared⟩

end Ledger

end EntityQuery
