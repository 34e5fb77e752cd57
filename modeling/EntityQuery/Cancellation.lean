import EntityQuery.Schema.Basic

/-!
Cooperative cancellation. A caller gives a signal, and whoever runs the work looks for it at
checkpoints. The work is known by its events, the checkpoints and the fields it reads, so a handle
that is signalled while a certain entity is read can be followed through them.
-/

namespace EntityQuery

/-! ### Signals and those who wait for them -/

/-- A signal that once given stays given, the number of those who wait for it, and the number of
those it has woken. -/
structure Signal where
  given : Bool
  waiting : Nat
  woken : Nat
  deriving DecidableEq, Repr

namespace Signal

/-- A signal not given, with nobody waiting. -/
def idle : Signal := ⟨false, 0, 0⟩

/-- Gives the signal and wakes everybody. -/
def give (s : Signal) : Signal := ⟨true, 0, s.woken + s.waiting⟩

/-- One more waits; a signal already given wakes at once. -/
def wait (s : Signal) : Signal :=
  if s.given then { s with woken := s.woken + 1 } else { s with waiting := s.waiting + 1 }

end Signal

/-! ### Handles -/

/-- What work does that matters to a handle. -/
inductive Event (E : Type) where
  /-- The work looks whether it shall stop. -/
  | checkpoint
  | read (e : E) (f : FieldRef)

/-- The caller's side of a piece of work: whether the signal is given, and at which reads it will
be. -/
structure Handle (E : Type) where
  signalled : Bool
  trips : E → FieldRef → Bool

namespace Handle

variable {E : Type}

/-- A handle that is never signalled. -/
def quiet : Handle E := ⟨false, fun _ _ => false⟩

/-- A handle that is signalled from the start. -/
def raised : Handle E := ⟨true, fun _ _ => false⟩

/-- The handle after some events; none if a checkpoint finds it signalled. -/
def follow (h : Handle E) : List (Event E) → Option (Handle E)
  | [] => some h
  | .checkpoint :: rest => if h.signalled then none else h.follow rest
  | .read e f :: rest => follow { h with signalled := h.signalled || h.trips e f } rest

end Handle

/-! ### Events of loops -/

/-- The number of items from one checkpoint of a loop to the next. -/
def checkInterval : Nat := 256

namespace Event

variable {E : Type}

/-- Reads of fields of one entity. -/
def reads (e : E) (fields : List FieldRef) : List (Event E) := fields.map (.read e)

/-- The events of a loop over some items: a checkpoint before the first item and then at every
interval. -/
def loop {α : Type} (body : α → List (Event E)) (items : List α) : List (Event E) :=
  (items.mapIdx fun i x =>
    if i % checkInterval = 0 then .checkpoint :: body x else body x).flatten

/-- The items of a loop up to the first that ends it. -/
def upTo {α : Type} (ends : α → Bool) : List α → List α
  | [] => []
  | x :: rest => if ends x then [x] else x :: upTo ends rest

end Event

end EntityQuery
