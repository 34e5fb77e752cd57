import EntityQuery.Proofs.Store.Writes

/-!
Handles that stay silent. A handle that is not signalled before some events, and by no read among
them, passes every checkpoint and comes out as it went in, so work that is watched by it ends as if
nobody watched. Main statement: `updateWhere_of_silent`.
-/

namespace EntityQuery

variable {E : Type}

namespace Handle

/-- The handle is not signalled, and none of the events signals it. -/
def Silent (h : Handle E) (events : List (Event E)) : Prop :=
  h.signalled = false ∧ ∀ e f, .read e f ∈ events → h.trips e f = false

lemma silent_append {h : Handle E} {as bs : List (Event E)} (hs : h.Silent (as ++ bs)) :
    h.Silent as ∧ h.Silent bs :=
  ⟨⟨hs.1, fun e f hr => hs.2 e f (List.mem_append_left _ hr)⟩,
    ⟨hs.1, fun e f hr => hs.2 e f (List.mem_append_right _ hr)⟩⟩

lemma follow_of_silent {h : Handle E} {events : List (Event E)} (hs : h.Silent events) :
    h.follow events = some h := by
  induction events with
  | nil => rfl
  | cons event events ih =>
    have hsplit : h.Silent ([event] ++ events) := hs
    have hrest := ih (silent_append hsplit).2
    cases event with
    | checkpoint => rw [follow, hs.1, if_neg Bool.false_ne_true, hrest]
    | read e f => rw [follow, hs.2 e f List.mem_cons_self, Bool.or_false, hrest]

end Handle

namespace MemoryStore

variable {cancel : Option (Handle E)} {events : List (Event E)}

lemma watch_of_silent (hs : ∀ h ∈ cancel, h.Silent events) : watch cancel events = .ok cancel := by
  cases cancel with
  | none => rfl
  | some h => rw [watch, Handle.follow_of_silent (hs h rfl)]

lemma any_signalled_of_silent (hs : ∀ h ∈ cancel, h.Silent events) :
    cancel.any Handle.signalled = false := by
  cases cancel with
  | none => rfl
  | some h => exact (hs h rfl).1

lemma watched_of_silent {α : Type} (hs : ∀ h ∈ cancel, h.Silent events)
    (result : Except StorageError α) : watched cancel events result = ⟨result, false⟩ := by
  rw [watched, watch_of_silent hs]
  show (⟨result, cancel.any Handle.signalled⟩ : Answer α) = _
  rw [any_signalled_of_silent hs]

variable [Entity E]

/-- The events of changing the rows that pass a filter. -/
def changeEvents (s : Schema E) (filter : Option Predicate) (m : Mutation) (rows : List E) :
    List (Event E) :=
  Plan.matchingEvents s filter rows ++ Rows.updateEvents s m (Rows.positions s filter rows) rows

/-- **A change that a silent handle watches is the update of the rows that pass.** -/
theorem updateWhere_of_silent {s : Schema E} {filter : Option Predicate} {m : Mutation}
    {rows : List E} (hs : ∀ h ∈ cancel, h.Silent (changeEvents s filter m rows)) :
    updateWhere s filter m cancel rows =
      let (result, new) := update s m (Rows.positions s filter rows) rows
      (⟨result, false⟩, new) := by
  have hmatching : ∀ h ∈ cancel, h.Silent (Plan.matchingEvents s filter rows) :=
    fun h hh => (Handle.silent_append (hs h hh)).1
  have hupdate : ∀ h ∈ cancel,
      h.Silent (Rows.updateEvents s m (Rows.positions s filter rows) rows) :=
    fun h hh => (Handle.silent_append (hs h hh)).2
  unfold updateWhere matching
  simp only [watch_of_silent hmatching, bind, Except.bind, pure, Except.pure,
    watch_of_silent hupdate, any_signalled_of_silent hs]

end MemoryStore

end EntityQuery
