/-!
# The factory slot

The server accepts connections before its owner can hand over the pipeline. The slot is where the owner puts the
factory of work sessions, once; an upload that finds it empty waits. Nobody is told when the slot is filled: a
waiting upload looks again when its timer ticks or when something happens to the shutdown signal.

A wait is a fold over what happens meanwhile, so that every order of events is a value one can reason about.

A wait that nothing ends goes on for ever. Whoever uses a wait has to say what happens around it, and if that is not
enough the wait is told as one that is still going on.
-/

namespace FtpIntake

/-- A cell that keeps the first factory put into it. -/
structure FactorySlot (φ : Type) where
  factory : Option φ := none

namespace FactorySlot

variable {φ : Type}

/-- A slot with nothing in it. -/
def empty : FactorySlot φ := ⟨none⟩

/-- Puts a factory into an empty slot, and tells whether the slot was empty. -/
def set (slot : FactorySlot φ) (f : φ) : Bool × FactorySlot φ :=
  match slot.factory with
  | none => (true, ⟨some f⟩)
  | some _ => (false, slot)

/-- Whether the slot holds a factory. -/
def isSet (slot : FactorySlot φ) : Bool :=
  slot.factory.isSome

end FactorySlot

/-- The shutdown signal as a connection sees it. -/
structure ShutdownSignal where
  /-- Whether the server is stopping. -/
  stopping : Bool := false
  /-- Whether the side that sends the signal has gone away. -/
  senderGone : Bool := false
  deriving DecidableEq

/-- What can happen around a waiting upload. -/
inductive Happening (φ : Type) where
  /-- The owner puts a factory into the slot. -/
  | factory (f : φ)
  /-- The shutdown signal is sent, with its value. -/
  | signal (stopping : Bool)
  /-- The sender of the shutdown signal goes away. -/
  | senderGone
  /-- The upload's timer expires. -/
  | tick

/-- The slot and the signal, which every connection shares with the server. -/
structure Surroundings (φ : Type) where
  slot : FactorySlot φ := {}
  signal : ShutdownSignal := {}

/-- How a wait for a factory stands. -/
inductive Acquired (φ : Type) where
  | factory (f : φ)
  | abandoned
  /-- The wait goes on. -/
  | waiting

namespace Surroundings

variable {φ : Type}

/-- What a happening changes. -/
def apply (s : Surroundings φ) : Happening φ → Surroundings φ
  -- a slot that is filled keeps the factory it has
  | .factory f => { s with slot := (s.slot.set f).2 }
  | .signal stopping => { s with signal := { s.signal with stopping } }
  | .senderGone => { s with signal := { s.signal with senderGone := true } }
  | .tick => s

/-- What a run of happenings changes. -/
def applyAll (s : Surroundings φ) (happenings : List (Happening φ)) : Surroundings φ :=
  happenings.foldl apply s

/--
What an upload finds when it looks: a factory if there is one, else a reason to give up if the server is stopping
or nobody can tell any more that it is, else nothing.
-/
def look (s : Surroundings φ) : Option (Acquired φ) :=
  match s.slot.factory with
  -- a factory is used even when the server is stopping
  | some f => some (.factory f)
  | none => if s.signal.stopping || s.signal.senderGone then some .abandoned else none

/--
What a happening does to a waiting upload. A new factory goes unnoticed, a tick and a signal make it look again,
and a sender that goes away makes it give up without looking.
-/
def notice (s : Surroundings φ) : Happening φ → Option (Acquired φ)
  | .factory _ => none
  | .signal _ => s.look
  | .tick => s.look
  | .senderGone => some .abandoned

/-- A wait that has begun: its end, the surroundings then, and what is still to happen. -/
def sleep (s : Surroundings φ) : List (Happening φ) → Acquired φ × Surroundings φ × List (Happening φ)
  | [] => (.waiting, s, [])
  | happening :: rest =>
    -- the happening has come about before it is noticed
    match (s.apply happening).notice happening with
    | some acquired => (acquired, s.apply happening, rest)
    | none => (s.apply happening).sleep rest

/-- Waits for a factory: looks, and sleeps if there is nothing to be found yet. -/
def acquire (s : Surroundings φ) (happenings : List (Happening φ)) :
    Acquired φ × Surroundings φ × List (Happening φ) :=
  match s.look with
  | some acquired => (acquired, s, happenings)
  | none => s.sleep happenings

end Surroundings

end FtpIntake
