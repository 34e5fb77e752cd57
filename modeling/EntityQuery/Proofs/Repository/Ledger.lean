import EntityQuery.Proofs.Schema.Includes
import EntityQuery.Proofs.Store.Uniqueness

/-!
Ledgers: maps from identifiers to entities that keep the order of insertion. The calls that create,
read, update and delete entities have a meaning on ledgers which says nothing of filters, sessions
and positions. Main statement: `Answers.agree`, this meaning is definite.
-/

namespace EntityQuery

variable {E : Type}

/-- A map from identifiers to entities, in the order of insertion. -/
structure Ledger (E : Type) where
  entries : List (Uuid × E)
  nodup : (entries.map Prod.fst).Nodup

namespace Ledger

/-! ### Operations -/

/-- The ledger without entries. -/
def empty : Ledger E := ⟨[], List.nodup_nil⟩

/-- The entity with an identifier. -/
def lookup (l : Ledger E) (id : Uuid) : Option E := l.entries.lookup id

lemma keys_put (entries : List (Uuid × E)) (id : Uuid) (e : E) :
    (entries.map fun p => if p.1 = id then (id, e) else p).map Prod.fst = entries.map Prod.fst := by
  rw [List.map_map]
  refine List.map_congr_left fun p _ => ?_
  by_cases h : p.1 = id <;> simp [h]

/-- The ledger with another entity in the place of the one with an identifier. -/
def put (l : Ledger E) (id : Uuid) (e : E) : Ledger E :=
  ⟨l.entries.map fun p => if p.1 = id then (id, e) else p, by rw [keys_put]; exact l.nodup⟩

/-- The ledger without the entity with an identifier. -/
def erase (l : Ledger E) (id : Uuid) : Ledger E :=
  ⟨l.entries.eraseP fun p => p.1 == id, l.nodup.sublist ((List.eraseP_sublist ..).map _)⟩

lemma exists_of_lookup_eq_some {l : Ledger E} {id : Uuid} {e : E} (h : l.lookup id = some e) :
    ∃ before after, l.entries = before ++ (id, e) :: after ∧
      (∀ p ∈ before, p.1 ≠ id) ∧ ∀ p ∈ after, p.1 ≠ id := by
  obtain ⟨before, after, hentries, hbefore⟩ := List.lookup_eq_some_iff.1 h
  refine ⟨before, after, hentries, fun p hp hid => ?_, fun p hp hid => ?_⟩
  · simpa [hid] using hbefore p hp
  · have hnodup := l.nodup
    rw [hentries, List.map_append, List.map_cons, List.nodup_append, List.nodup_cons] at hnodup
    exact hnodup.2.1.1 (List.mem_map.2 ⟨p, hp, hid⟩)

lemma map_put_of_ne {entries : List (Uuid × E)} {id : Uuid} (h : ∀ p ∈ entries, p.1 ≠ id) (e : E) :
    (entries.map fun p => if p.1 = id then (id, e) else p) = entries := by
  conv_rhs => rw [← List.map_id entries]
  exact List.map_congr_left fun p hp => if_neg (h p hp)

section Split

variable {l : Ledger E} {id : Uuid} {stored : E} {before after : List (Uuid × E)}

/-- What is put takes the place of one entity, and the others stay where they are. -/
lemma entries_put (hentries : l.entries = before ++ (id, stored) :: after)
    (hbefore : ∀ p ∈ before, p.1 ≠ id) (hafter : ∀ p ∈ after, p.1 ≠ id) (e : E) :
    (l.put id e).entries = before ++ (id, e) :: after := by
  show (l.entries.map fun p => if p.1 = id then (id, e) else p) = _
  rw [hentries, List.map_append, List.map_cons, map_put_of_ne hbefore, map_put_of_ne hafter,
    if_pos rfl]

lemma entries_erase (hentries : l.entries = before ++ (id, stored) :: after)
    (hbefore : ∀ p ∈ before, p.1 ≠ id) : (l.erase id).entries = before ++ after := by
  show l.entries.eraseP (fun p => p.1 == id) = _
  rw [hentries, List.eraseP_append_right _ (by simpa using hbefore),
    List.eraseP_cons_of_pos (by simp)]

end Split

end Ledger

/-! ### Calls -/

/-- A call that creates, reads, updates or deletes entities. -/
inductive Call (E : Type) where
  | bulkInsert (now : Instant) (fresh : ℕ → Uuid) (new : List E)
  | insert (now : Instant) (fresh : Uuid) (e : E)
  | get (id : Uuid) (includes : List String)
  | update (now : Instant) (id : Uuid) (e : E)
  | delete (id : Uuid)

/-- What a call gives back. -/
inductive Reply (E : Type) where
  | entities (es : List E)
  | entity (e : E)
  | done

namespace Call

/-- The identifier that the call asks for. -/
def wanted? : Call E → Option Uuid
  | .get id _ | .update _ id _ | .delete id => some id
  | .bulkInsert .. | .insert .. => none

/-- The call asks for declared navigations only. -/
def Declared (s : Schema E) : Call E → Prop
  | .get _ includes => s.DeclaresAll includes
  | _ => True

end Call

namespace Ledger

variable [Entity E]

/-- The entry of an entity. -/
def entry (e : E) : Uuid × E := (Entity.id e, e)

/-- A new entity: created and changed now, and with a fresh identifier if it has none. -/
def arrival (now : Instant) (fresh : Uuid) (e : E) : E :=
  Entity.withBase e
    { Entity.base e with
      id := if Entity.id e = Uuid.nil then fresh else Entity.id e
      createdAt := now
      modifiedAt := now }

/-- New entities, each with its own fresh identifier. -/
def arrivals (now : Instant) (fresh : ℕ → Uuid) (new : List E) : List E :=
  new.mapIdx fun i e => arrival now (fresh i) e

/-- An entity with the base fields of a stored one, changed now. -/
def revision (now : Instant) (stored e : E) : E :=
  Entity.withBase e { Entity.base stored with modifiedAt := now }

/-- How a write with candidate entries ends: it is accepted if these are distinct, and refused in
the name of something that two of them share. -/
inductive Settles (s : Schema E) (l : Ledger E) (candidate : List (Uuid × E)) (reply : Reply E) :
    Except StorageError (Reply E) → Ledger E → Prop
  | accepted {l' : Ledger E} (hentries : l'.entries = candidate)
      (hdistinct : Rows.Distinct s (candidate.map Prod.snd)) :
      Settles s l candidate reply (.ok reply) l'
  | refused {name : String} (hshared : Rows.Shared s (candidate.map Prod.snd) name) :
      Settles s l candidate reply (.error (.conflict s.name name)) l

/-- The answer to a call on a ledger, and the ledger after it. -/
inductive Answers (s : Schema E) (l : Ledger E) :
    Call E → Except StorageError (Reply E) → Ledger E → Prop
  | bulkInsert {now : Instant} {fresh : ℕ → Uuid} {new : List E}
      {answer : Except StorageError (Reply E)} {l' : Ledger E}
      (h : l.Settles s (l.entries ++ (arrivals now fresh new).map entry)
        (.entities (arrivals now fresh new)) answer l') :
      Answers s l (.bulkInsert now fresh new) answer l'
  | insert {now : Instant} {fresh : Uuid} {e : E} {answer : Except StorageError (Reply E)}
      {l' : Ledger E}
      (h : l.Settles s (l.entries ++ [entry (arrival now fresh e)])
        (.entity (arrival now fresh e)) answer l') :
      Answers s l (.insert now fresh e) answer l'
  | get {id : Uuid} {includes : List String} {e : E} (h : l.lookup id = some e) :
      Answers s l (.get id includes) (.ok (.entity (s.view includes e))) l
  | update {now : Instant} {id : Uuid} {stored e : E} {answer : Except StorageError (Reply E)}
      {l' : Ledger E} (hstored : l.lookup id = some stored)
      (h : l.Settles s (l.put id (revision now stored e)).entries
        (.entity (revision now stored e)) answer l') :
      Answers s l (.update now id e) answer l'
  | delete {id : Uuid} {e : E} (h : l.lookup id = some e) :
      Answers s l (.delete id) (.ok .done) (l.erase id)
  | missing {c : Call E} {id : Uuid} (hc : c.wanted? = some id) (h : l.lookup id = none) :
      Answers s l c (.error (.notFound s.name id.text)) l

/-- Two outcomes are the same, or both are refusals of the same write. -/
def Agree (s : Schema E) (a a' : Except StorageError (Reply E)) (l l' : Ledger E) : Prop :=
  l = l' ∧ (a = a' ∨ ∃ name name', a = .error (.conflict s.name name) ∧
    a' = .error (.conflict s.name name'))

variable {s : Schema E} {l l₁ l₂ : Ledger E} {a₁ a₂ : Except StorageError (Reply E)}

lemma Settles.agree {candidate : List (Uuid × E)} {reply : Reply E}
    (h₁ : l.Settles s candidate reply a₁ l₁) (h₂ : l.Settles s candidate reply a₂ l₂) :
    Agree s a₁ a₂ l₁ l₂ := by
  cases h₁ with
  | accepted hentries₁ hdistinct =>
    cases h₂ with
    | accepted hentries₂ _ =>
      refine ⟨?_, Or.inl rfl⟩
      cases l₁
      cases l₂
      exact (mk.injEq ..).mpr (hentries₁.trans hentries₂.symm)
    | refused hshared => exact absurd hshared (hdistinct.not_shared _)
  | refused hshared =>
    cases h₂ with
    | accepted _ hdistinct => exact absurd hshared (hdistinct.not_shared _)
    | refused _ => exact ⟨rfl, Or.inr ⟨_, _, rfl, rfl⟩⟩

/-- **A ledger answers a call in one way**, except that of several things that are shared any may
be named. -/
theorem Answers.agree {c : Call E} (h₁ : l.Answers s c a₁ l₁) (h₂ : l.Answers s c a₂ l₂) :
    Agree s a₁ a₂ l₁ l₂ := by
  cases h₁ with
  | bulkInsert h₁ =>
    cases h₂ with
    | bulkInsert h₂ => exact h₁.agree h₂
    | missing hc => cases hc
  | insert h₁ =>
    cases h₂ with
    | insert h₂ => exact h₁.agree h₂
    | missing hc => cases hc
  | get h₁ =>
    cases h₂ with
    | get h₂ =>
      obtain rfl := Option.some_inj.1 (h₁.symm.trans h₂)
      exact ⟨rfl, Or.inl rfl⟩
    | missing hc h₂ => cases hc; rw [h₁] at h₂; cases h₂
  | update hstored₁ h₁ =>
    cases h₂ with
    | update hstored₂ h₂ =>
      obtain rfl := Option.some_inj.1 (hstored₁.symm.trans hstored₂)
      exact h₁.agree h₂
    | missing hc h₂ => cases hc; rw [hstored₁] at h₂; cases h₂
  | delete h₁ =>
    cases h₂ with
    | delete h₂ => exact ⟨rfl, Or.inl rfl⟩
    | missing hc h₂ => cases hc; rw [h₁] at h₂; cases h₂
  | missing hc h₁ =>
    cases h₂ with
    | bulkInsert | insert => cases hc
    | get h₂ | update h₂ | delete h₂ => cases hc; rw [h₁] at h₂; cases h₂
    | missing hc₂ _ =>
      obtain rfl := Option.some_inj.1 (hc.symm.trans hc₂)
      exact ⟨rfl, Or.inl rfl⟩

/-- The answers to calls one after the other, and the ledgers after them. -/
inductive Run (s : Schema E) :
    Ledger E → List (Call E) → List (Except StorageError (Reply E) × Ledger E) → Prop
  | nil {l : Ledger E} : Run s l [] []
  | cons {l l' : Ledger E} {c : Call E} {cs : List (Call E)}
      {answer : Except StorageError (Reply E)}
      {rest : List (Except StorageError (Reply E) × Ledger E)}
      (hhead : l.Answers s c answer l') (htail : Run s l' cs rest) :
      Run s l (c :: cs) ((answer, l') :: rest)

end Ledger

end EntityQuery
