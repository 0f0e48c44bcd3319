import FtpIntake.Connection

/-!
# Servers

A server is started and stopped by its owner. While it runs it accepts connections, which share its tree, its slot and
its pipeline. Each start begins a new *activation* with a shutdown signal and a count of connections of its own;
connections of an earlier activation may still be about.

`Server.step` takes one step of the owner, of the accepting side of an activation or of a connection. It gives nothing
where the step cannot be taken, so a list of steps for which `Server.runSteps` gives something is one order in which
things may happen. Stopping is three steps: the signal is sent, the accepting side is waited for, and the tree is
cleared. `Server.start` and `Server.stop` are what the owner sees when nobody else takes a step.
-/

namespace FtpIntake

/-- What belongs to one start of a server. -/
structure Activation where
  signal : ShutdownSignal := {}
  /-- Whether connections are still accepted. -/
  accepting : Bool := true
  /-- How many connections count. -/
  active : Nat := 0
  connections : List Connection := []

/-- Where the owner of a server stands. -/
inductive OwnerStage where
  | stopped
  | running
  /-- The signal has been sent. -/
  | signalled
  /-- Nothing is accepted any more. -/
  | drained
  deriving DecidableEq

/-- A server. -/
structure Server (σ : Type) where
  service : Service
  tree : Tree := Tree.empty
  slot : FactorySlot FactoryId := {}
  pipeline : σ
  stage : OwnerStage := .stopped
  /-- The address that was bound. -/
  address : Option Endpoint := none
  /-- The activations, the earliest first. -/
  activations : List Activation := []

/-- A step of a server. An activation and a connection are named by their places. -/
inductive ServerStep where
  /-- The owner starts the server on an address that was bound for it. -/
  | start (address : Endpoint)
  /-- The owner sends the shutdown signal. -/
  | signal
  /-- The owner has waited until nothing is accepted any more. -/
  | drain
  /-- The owner clears the tree and is done with stopping. -/
  | clear
  /-- The owner puts a factory into the slot. -/
  | fill (factory : FactoryId)
  | accept (activation : Nat) (peer here : Endpoint)
  /-- An activation notices the signal and accepts nothing any more. -/
  | closeListener (activation : Nat)
  | connection (activation connection : Nat) (step : ConnectionStep)

namespace Server

variable {σ : Type}

/-- A new server with nothing in its slot. -/
def make (config : Config) (pipeline : σ) : Except ServerFault (Server σ) :=
  (Service.make config).map fun service => { service, pipeline }

/-- Whether nothing runs. -/
def isStopped (s : Server σ) : Bool :=
  s.stage == .stopped

/-- The activation that was started last. -/
def current? (s : Server σ) : Option Activation :=
  s.activations.getLast?

/-- Changes an activation, if there is one in the given place and the change is possible. -/
def changeActivation (s : Server σ) (i : Nat) (change : Activation → Option Activation) : Option (Server σ) := do
  let activation ← s.activations[i]?
  return { s with activations := s.activations.set i (← change activation) }

/-! ## Steps of the owner

What the owner does at one moment. With the signal it lets go of the sender, so the signal is on and nothing more is
heard of it. -/

/-- Begins an activation on a bound address. -/
def begin (s : Server σ) (address : Endpoint) : Server σ :=
  { s with stage := .running, address := address, activations := s.activations ++ [{}] }

/-- Sends the shutdown signal to the last activation, which is then the last that is heard of its sender. -/
def sendSignal (s : Server σ) : Server σ :=
  { s with
    stage := .signalled
    activations := s.activations.modify (s.activations.length - 1) fun activation =>
      { activation with signal := { stopping := true, senderGone := true } } }

/-- Clears the tree and forgets the address. -/
def clearTree (s : Server σ) : Server σ :=
  { s with stage := .stopped, tree := Tree.empty, address := none }

/-- Puts a factory into the slot, and tells whether it was empty. -/
def fill (s : Server σ) (factory : FactoryId) : Bool × Server σ :=
  let (filled, slot) := s.slot.set factory
  (filled, { s with slot })

/-! ## Steps of a connection

A connection works on a copy of what it shares, as an exchange, and puts it back at the end of the step. Nobody else
takes a step in between. -/

/-- A connection as an exchange with what it shares with the others. -/
def exchange (s : Server σ) (activation : Activation) (c : Connection) (circumstances : Circumstances) :
    Exchange σ where
  client := c.client
  tree := s.tree
  surroundings := ⟨s.slot, activation.signal⟩
  pipeline := s.pipeline
  circumstances
  effects := c.effects

/-- What an exchange leaves behind: a connection that stands where the verdict says, and what it shares with others. A
connection that ends gives up its data channel. -/
def settle (s : Server σ) (activation : Activation) (verdict : Verdict) (x : Exchange σ) :
    Connection × Activation × Server σ :=
  -- whoever ends gives up the data channel, also after a reply that could not be sent
  let x := if Phase.after verdict = .ended then x.closeChannel else x
  ({ client := x.client, phase := Phase.after verdict, effects := x.effects },
    { activation with signal := x.surroundings.signal },
    { s with tree := x.tree, slot := x.surroundings.slot, pipeline := x.pipeline })

variable [Pipeline σ]

/-- A step of a connection: the connection, its activation and the server afterwards. -/
def stepConnection (s : Server σ) (activation : Activation) (c : Connection) (step : ConnectionStep) :
    Option (Connection × Activation × Server σ) :=
  match c.phase, step with
  | .arrived, .count =>
    -- it counts before it is known whether it may stay
    let place := activation.active + 1
    some ({ c with phase := .counted place }, { activation with active := place }, s)
  | .counted place, .greet =>
    let x := s.exchange activation c {}
    -- a connection that is turned away is told so and over, whether or not it could be told
    let (verdict, x) :=
      if s.service.config.maxClients < place then (.quits, (x.say Reply.tooManyConnections).2)
      else x.say Reply.welcome
    some (s.settle activation verdict x)
  | .checking, .look =>
    if activation.signal.stopping then
      some (s.settle activation .quits ((s.exchange activation c {}).say Reply.shuttingDown).2)
    else some ({ c with phase := .listening }, activation, s)
  | .listening, .wake =>
    if activation.signal.stopping then some ({ c with phase := .checking }, activation, s)
    -- nobody can send the signal any more, so there is nothing left to wait for
    else if activation.signal.senderGone then some (s.settle activation .quits (s.exchange activation c {}))
    else none
  | .listening, .hear input => some ({ c with phase := .executing input }, activation, s)
  | .executing input, .execute circumstances =>
    let (verdict, x) := (s.exchange activation c circumstances).take s.service input
    some (s.settle activation verdict x)
  | .ended, .release =>
    -- a connection stops counting last, after everything else that it does
    some ({ c with phase := .released }, { activation with active := activation.active - 1 }, s)
  | _, _ => none

/-! ## All steps

A step that cannot be taken gives nothing, and neither does a list of steps with such a step in it. -/

/-- Takes a step, if it can be taken. -/
def step (s : Server σ) : ServerStep → Option (Server σ)
  | .start address => if s.stage = .stopped then some (s.begin address) else none
  | .signal =>
    match s.stage with
    | .running => some s.sendSignal
    -- there is nobody to tell, but the tree is cleared again
    | .stopped => some { s with stage := .drained }
    | _ => none
  -- only the accepting side is waited for, not the connections
  | .drain =>
    if s.stage = .signalled ∧ s.current?.all (fun activation => !activation.accepting) then
      some { s with stage := .drained }
    else none
  | .clear => if s.stage = .drained then some s.clearTree else none
  | .fill factory => some (s.fill factory).2
  | .accept i peer here =>
    s.changeActivation i fun activation =>
      if activation.accepting then
        some { activation with connections := activation.connections ++ [Connection.accepted peer here] }
      else none
  | .closeListener i =>
    s.changeActivation i fun activation =>
      if activation.accepting && activation.signal.stopping then some { activation with accepting := false }
      else none
  | .connection i k step => do
    let activation ← s.activations[i]?
    let c ← activation.connections[k]?
    let (c, activation, s) ← s.stepConnection activation c step
    let activation := { activation with connections := activation.connections.set k c }
    return { s with activations := s.activations.set i activation }

/-- Takes steps one after the other, if all of them can be taken. -/
def runSteps (s : Server σ) (steps : List ServerStep) : Option (Server σ) :=
  steps.foldlM step s

/-! ## What the owner sees

Starting and stopping as the owner calls them, with nobody else around. -/

/-- Starts a server. `bind` is what the host answers to the request for the configured address. -/
def start (s : Server σ) (bind : String → Except IoFault Endpoint) : Except ServerFault Endpoint × Server σ :=
  if s.isStopped then
    match bind s.service.config.controlSocket with
    -- the address is bound before anything is changed
    | .ok address => (.ok address, s.begin address)
    | .error cause => (.error (.bind s.service.config.controlSocket cause), s)
  else (.error .alreadyStarted, s)

/-- The steps of stopping a server that runs, without a step of anybody else. -/
def stopSteps (s : Server σ) : List ServerStep :=
  if s.isStopped then [.signal, .clear]
  else [.signal, .closeListener (s.activations.length - 1), .drain, .clear]

/-- Stops a server. A server that does not run is only cleared. -/
def stop (s : Server σ) : Server σ :=
  (s.runSteps s.stopSteps).getD s

end Server

end FtpIntake
