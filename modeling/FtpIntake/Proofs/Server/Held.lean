import FtpIntake.Proofs.Exchange.Ports
import FtpIntake.Proofs.Server.Admission
import FtpIntake.Proofs.Server.Clearing

/-!
# Ports that are held

A server listens for control connections, and for data connections on the port of each passive channel. The host lets
it listen on another port only if it does not listen there already. Ports change hands as channels are replaced, used
and given up and as connections end, and a new listener is there before the one that it replaces is gone.

A request for a passive channel tries the ports of the range one after the other, and the other connections do not wait
for it: a port may be given up after it was tried, and be taken before the next one is. So each try is an event of its
own here, and the host answers it by what is held at that moment. A listener that a try has got is held from then on,
although the client has no channel on it before the line has been executed.

* **`HostedServer`** is a server with the answers that the host has given to the lines that are being executed.
  `HostedServer.next` is what happens to it: a try, or anything that can happen to a server at all. The host's answers
  are those that a line goes by when it is executed, which it is once it has no more port to try.
* **`HostedServer.Holds`** says who holds which port, and `HostedServer.heldPorts` are all of them.
* **`Connection.Berths`** is what a step may do about the port of a connection, and `Advance.berths` says so of every
  step.
* **`HostedServer.Fares`** is what an event makes of one connection, and `HostedServer.fares_next` says so of every event.
* **`HostedServer.handover_next`** is what follows for all ports at once: nobody gets a port but one, and that one gets
  a port that nobody held.
* **`HostedServer.Accounted`** is the invariant. No port is held twice, a listener that a line has got is not the one of
  its client's channel, and a client that is not logged in has no channel. `HostedServer.Accounted.next` is the step,
  and `HostedServer.Accounted.nextAll` the run.

The server of a range that begins with zero leaves the choice of a port to the host, which is not what is told here: in
these events the host gives the port that it was asked for, or none.
-/

namespace FtpIntake

/-! ## Handing over

Somebody may have several things, as a client has two ports while its channel is being replaced. -/

section Handover

variable {α β : Type} {before after : α → β → Prop}

/-- What one has nobody else has. -/
def Exclusive (has : α → β → Prop) : Prop :=
  ∀ a b x, has a x → has b x → a = b

/-- Nobody has anything new, except that the actor may have got what nobody had. -/
def Handover (actor : α) (before after : α → β → Prop) : Prop :=
  ∀ a x, after a x → before a x ∨ (a = actor ∧ ∀ b, ¬before b x)

/-- If everything has one owner at most, handing over keeps it so. -/
theorem Handover.exclusive {actor : α} (h : Handover actor before after) (hbefore : Exclusive before) :
    Exclusive after := by
  intro a b x ha hb
  rcases h a x ha with ha | ⟨rfl, hfree⟩
  · rcases h b x hb with hb | ⟨-, hfree⟩
    · exact hbefore a b x ha hb
    · exact absurd ha (hfree a)
  · rcases h b x hb with hb | ⟨rfl, -⟩
    · exact absurd hb (hfree b)
    · rfl

/-- What its only owner has given away nobody has. -/
theorem Handover.free {actor : α} (h : Handover actor before after) (hbefore : Exclusive before) {a : α} {x : β}
    (ha : before a x) (hgone : ¬after a x) (b : α) : ¬after b x := by
  intro hb
  rcases h b x hb with hkept | ⟨-, hfree⟩
  · obtain rfl := hbefore a b x ha hkept
    exact hgone hb
  · exact hfree a ha

end Handover

/-! ## Who holds a port

A port is held by the channel of a client that has not gone, or by the listener of the control connections. A channel
that was replaced or given up holds nothing any more, even while the connection goes on. -/

/-- Whether a connection has ended. -/
def Phase.isOver : Phase → Bool
  | .ended | .released => true
  | _ => false

/-- The port that the server listens on for the client of a connection. A listener goes with its connection. -/
def Connection.port? (c : Connection) : Option UInt16 :=
  if c.phase.isOver then none else c.client.channel.localEndpoint?.map (·.port)

/-- The port belongs to a channel of a connection that has not ended. -/
theorem Connection.port?_eq_some_iff {c : Connection} {port : UInt16} :
    c.port? = some port ↔
      c.phase.isOver = false ∧ ∃ endpoint, c.client.channel.localEndpoint? = some endpoint ∧ endpoint.port = port := by
  rw [port?, Option.ite_none_left_eq_some, Bool.not_eq_true, Option.map_eq_some_iff]

/-- What listens on a port. -/
inductive PortHolder where
  /-- The control connections come in there. -/
  | control
  /-- A connection has a passive channel there. -/
  | connection (activation connection : Nat)
  deriving DecidableEq

namespace Server

variable {σ : Type}

/-- The port of the control connections, as long as they are accepted. -/
def controlPort? (s : Server σ) : Option UInt16 :=
  if s.activations.any (·.accepting) then s.address.map (·.port) else none

/-- Who listens on which port. -/
def port? (s : Server σ) : PortHolder → Option UInt16
  | .control => s.controlPort?
  | .connection i k => (s.connection? i k).bind Connection.port?

/-- The ports of all listeners that the server knows of. -/
def heldPorts (s : Server σ) : List UInt16 :=
  s.controlPort?.toList ++ s.activations.flatMap fun activation => activation.connections.filterMap Connection.port?

/-- The list leaves out no holder and has no port without one. -/
theorem mem_heldPorts {s : Server σ} {port : UInt16} : port ∈ s.heldPorts ↔ ∃ holder, s.port? holder = some port := by
  rw [heldPorts, List.mem_append, Option.mem_toList]
  constructor
  · rintro (hcontrol | hchannels)
    · exact ⟨.control, hcontrol⟩
    · obtain ⟨activation, hactivation, hport⟩ := List.mem_flatMap.1 hchannels
      obtain ⟨c, hc, hport⟩ := List.mem_filterMap.1 hport
      obtain ⟨i, hi⟩ := List.mem_iff_getElem?.1 hactivation
      obtain ⟨k, hk⟩ := List.mem_iff_getElem?.1 hc
      exact ⟨.connection i k, Option.bind_eq_some_iff.2 ⟨c, Option.bind_eq_some_iff.2 ⟨activation, hi, hk⟩, hport⟩⟩
  · rintro ⟨holder, hport⟩
    cases holder with
    | control => exact .inl hport
    | connection i k =>
      obtain ⟨c, hc, hport⟩ := Option.bind_eq_some_iff.1 hport
      obtain ⟨activation, hi, hk⟩ := Option.bind_eq_some_iff.1 hc
      exact .inr (List.mem_flatMap.2
        ⟨activation, List.mem_of_getElem? hi, List.mem_filterMap.2 ⟨c, List.mem_of_getElem? hk, hport⟩⟩)

end Server

/-! ## A server on its host

Trying a port is an event of its own here, so that other connections can take and give up ports between two tries of
one line. The host remembers for the line what it has answered: the ports that it has refused, and the listener that
it has granted. Once it has granted one, or has refused all ports of the range, the line can be executed, and it is
executed with these answers. A new line begins with an empty memory. -/

/-- Whether the connection executes a request for a passive channel. A client has to be logged in for it, and `PASV`
can name an IPv4 address only. -/
def Connection.seeksPort (c : Connection) (service : Service) : Bool :=
  match c.phase with
  | .executing input =>
    (input.executed? service).any fun r =>
      c.client.loggedIn && (r.verb == "PASV" && c.client.here.ip.isIpv4 || r.verb == "EPSV")
  | _ => false

/-- Who has to do with an occurrence: the connection that takes a step or is lost, or else the owner of the server. -/
def Server.Occurrence.actor : Occurrence → PortHolder
  | .step (.connection i k _) | .lost i k => .connection i k
  | _ => .control

/-- A server, and what the host has answered to the tries of the lines that are being executed. -/
structure HostedServer (σ : Type) where
  server : Server σ
  /-- The ports that were refused, and to whose line. -/
  refused : List (PortHolder × UInt16) := []
  /-- The ports that were granted. The server listens there for a channel that is yet to be made. -/
  listeners : List (PortHolder × UInt16) := []

namespace HostedServer

open Server (Occurrence)

variable {σ : Type}

/-- Who listens on which port, be it for a channel or for one that is yet to be made. -/
def Holds (h : HostedServer σ) (holder : PortHolder) (port : UInt16) : Prop :=
  h.server.port? holder = some port ∨ (holder, port) ∈ h.listeners

/-- The ports on which the server listens. -/
def heldPorts (h : HostedServer σ) : List UInt16 :=
  h.server.heldPorts ++ h.listeners.map Prod.snd

/-- The list leaves out no holder and has no port without one. -/
theorem mem_heldPorts {h : HostedServer σ} {port : UInt16} : port ∈ h.heldPorts ↔ ∃ holder, h.Holds holder port := by
  rw [heldPorts, List.mem_append, Server.mem_heldPorts, List.mem_map]
  constructor
  · rintro (⟨holder, hport⟩ | ⟨⟨holder, port⟩, hlistens, rfl⟩)
    · exact ⟨holder, .inl hport⟩
    · exact ⟨holder, .inr hlistens⟩
  · rintro ⟨holder, hport | hlistens⟩
    · exact .inl ⟨holder, hport⟩
    · exact .inr ⟨_, hlistens, rfl⟩

/-- A port that is not in the list is free. -/
theorem notMem_heldPorts {h : HostedServer σ} {port : UInt16} :
    port ∉ h.heldPorts ↔ ∀ holder, ¬h.Holds holder port := by
  rw [mem_heldPorts, not_exists]

/-- The ports on which passive channels are made. -/
def dataPorts (h : HostedServer σ) : List UInt16 :=
  h.server.service.control.dataPorts

/-- The port that the line of a connection tries next: the first that it was not refused, as long as it has got none. -/
def due? (h : HostedServer σ) (i k : Nat) : Option UInt16 :=
  if (h.server.connection? i k).any (·.seeksPort h.server.service) &&
      h.dataPorts.all fun port => (.connection i k, port) ∉ h.listeners then
    h.dataPorts.find? fun port => (.connection i k, port) ∉ h.refused
  else none

/-- What the host has answered to the line of a connection. -/
def binder (h : HostedServer σ) (i k : Nat) : DataChannel.Binder := fun asked =>
  if (.connection i k, asked.port) ∈ h.listeners then some asked.port else none

/-- What can happen to a server on its host. -/
inductive Event where
  /-- The line of a connection tries the next port. -/
  | tries (activation connection : Nat)
  | occurs (occurrence : Occurrence)

/-- Whether something can happen by now. A line is not executed as long as it has a port to try, and a server is not
started on an address whose port is held. -/
def admits (h : HostedServer σ) : Occurrence → Bool
  | .step (.start address) => decide (address.port ∉ h.heldPorts)
  | .step (.connection i k (.execute _)) => (h.due? i k).isNone
  | _ => true

/-- Whether the host keeps what it has answered to the line of somebody. It does so until they have gone on. -/
def Event.Spares : Event → PortHolder → Prop
  | .tries _ _, _ => True
  | .occurs occurrence, holder => holder ≠ occurrence.actor

/-- An occurrence in which a line goes by what the host has answered to it. -/
def answering (h : HostedServer σ) : Occurrence → Occurrence
  | .step (.connection i k (.execute circumstances)) =>
    .step (.connection i k (.execute { circumstances with bind := h.binder i k }))
  | occurrence => occurrence

/-- What is left of some rows after an occurrence: those of all but the one who has to do with it. -/
def spare (occurrence : Occurrence) (rows : List (PortHolder × UInt16)) : List (PortHolder × UInt16) :=
  rows.filter (·.1 ≠ occurrence.actor)

variable [Pipeline σ]

/--
A server on its host after an event, if that is possible. The host refuses a port just if it is held. With the line the
answers to its tries are done with: a listener that it has got belongs to its client's channel, or is gone.
-/
def next (h : HostedServer σ) : Event → Option (HostedServer σ)
  | .tries i k =>
    (h.due? i k).map fun port =>
      if port ∈ h.heldPorts then { h with refused := (.connection i k, port) :: h.refused }
      else { h with listeners := (.connection i k, port) :: h.listeners }
  | .occurs occurrence =>
    if h.admits occurrence then
      (h.server.occur (h.answering occurrence)).map fun server =>
        { server, refused := spare occurrence h.refused, listeners := spare occurrence h.listeners }
    else none

/-- What it is after some events, one after the other, if all of them are possible. -/
def nextAll (h : HostedServer σ) (events : List Event) : Option (HostedServer σ) :=
  events.foldlM next h

end HostedServer

/-! ## What a step does about a port

The exchange of a line is given its answers as a binder, and takes the first port that is granted. So a client's port
changes in one of three ways: it stays, it is let go, or it is the one that the host has granted. -/

open DataChannel (granted?)

/-- Whichever way a connection goes on, its client has had a turn, and it is over or has kept what this turn has made of
the channel. -/
def Connection.Berths (bind : DataChannel.Binder) (ports : List UInt16) (c c' : Connection) : Prop :=
  ∃ client, PortStep bind ports c.client client (repliesOf (addedTo c.effects c'.effects)) ∧
    (c'.phase.isOver = true ∨ (c.phase.isOver = false ∧ c'.client.channel = client.channel))

namespace Connection.Berths

variable {bind : DataChannel.Binder} {ports : List UInt16} {c c' : Connection}

/-- A step that neither says anything nor touches the channel counts as a turn without anything in it. -/
theorem of_same (heffects : c'.effects = c.effects) (hchannel : c'.client.channel = c.client.channel)
    (hphase : c'.phase.isOver = true ∨ c.phase.isOver = false) : Berths bind ports c c' := by
  have hadded : addedTo c.effects c'.effects = [] := addedTo_eq (by rw [heffects, List.append_nil])
  refine ⟨c.client, .quiet (.inr rfl) ?_, hphase.imp_right fun hnot => ⟨hnot, hchannel⟩⟩
  rw [hadded]
  exact nofun

/-- A port that a connection has after a step it had before, or the host has granted it in this step. -/
theorem port?_eq_some (h : Berths bind ports c c') {port : UInt16} (hport : c'.port? = some port) :
    c.port? = some port ∨ granted? bind c.client.here.ip ports = some port := by
  obtain ⟨client, hstep, hphase⟩ := h
  obtain ⟨hgoes, endpoint, hendpoint, rfl⟩ := Connection.port?_eq_some_iff.1 hport
  obtain ⟨hbefore, hchannel⟩ := hphase.resolve_left (by rw [hgoes]; exact Bool.false_ne_true)
  rw [hchannel] at hendpoint
  -- there was a turn, which has kept the channel or made a new one
  cases hstep with
  | quiet hquiet =>
    rcases hquiet with hnone | hsame
    · cases hnone.symm.trans hendpoint
    · exact .inl (Connection.port?_eq_some_iff.2 ⟨hbefore, endpoint, hsame ▸ hendpoint, rfl⟩)
  | listens hgranted hlistens =>
    rw [hlistens] at hendpoint
    cases hendpoint
    exact .inr hgranted

/-- A reply that says where the server listens says the port that the host has just granted. -/
theorem advertised (h : Berths bind ports c c') {r : Reply} (hr : r ∈ repliesOf (addedTo c.effects c'.effects))
    (htold : r.isPassive = true) :
    ∃ port, granted? bind c.client.here.ip ports = some port ∧
      r.advertised? c.client.here.ip = some ⟨c.client.here.ip, port⟩ ∧
      (c'.phase.isOver = true ∨ c'.client.channel = .passive ⟨c.client.here.ip, port⟩ c.client.peer.ip) := by
  obtain ⟨client, hstep, hphase⟩ := h
  cases hstep with
  | quiet _ hquiet => exact Bool.noConfusion ((hquiet r hr).symm.trans htold)
  | listens hgranted hlistens hreplies hadvertised =>
    rw [hreplies, List.mem_singleton] at hr
    subst hr
    exact ⟨_, hgranted, hadvertised, hphase.imp_right fun hgoes => hgoes.2.trans hlistens⟩

/-- A connection that ends or gets another channel has let go of its port, unless the host has granted the same port
once more. -/
theorem port?_ne_some (h : Berths bind ports c c') {port : UInt16}
    (hgranted : granted? bind c.client.here.ip ports ≠ some port)
    (hgone : c'.phase.isOver = true ∨ c'.client.channel ≠ c.client.channel) : c'.port? ≠ some port := by
  obtain ⟨client, hstep, hphase⟩ := h
  intro hport
  obtain ⟨hgoes, endpoint, hendpoint, rfl⟩ := Connection.port?_eq_some_iff.1 hport
  have hnotOver : ¬c'.phase.isOver = true := by
    rw [hgoes]
    exact Bool.false_ne_true
  have hchannel := (hphase.resolve_left hnotOver).2
  -- had it the port still, this would be the channel of before, or the one that has just been granted
  cases hstep with
  | quiet hquiet =>
    rcases hquiet with hnone | hsame
    · cases (hnone.symm.trans (hchannel ▸ hendpoint))
    · exact hgone.resolve_left hnotOver (hchannel.trans hsame)
  | listens hgrants hlistens =>
    rw [hchannel, hlistens] at hendpoint
    cases hendpoint
    exact hgranted hgrants

end Connection.Berths

/-- What the host answers in a step of a connection. -/
def ConnectionStep.binder : ConnectionStep → DataChannel.Binder
  | .execute circumstances => circumstances.bind
  | _ => fun _ => none

namespace Server

variable {σ : Type}

/-- However a turn ends, what it has done about the port is done; a connection that ends lets go of it. -/
theorem berths_settle {bind : DataChannel.Binder} {ports : List UInt16} (s : Server σ) (activation : Activation)
    (verdict : Verdict) {x : Exchange σ} {c : Connection} {added : List Effect}
    (heffects : x.effects.reverse = c.effects.reverse ++ added) (hphase : c.phase.isOver = false)
    (hstep : PortStep bind ports c.client x.client (repliesOf added)) :
    c.Berths bind ports (s.settle activation verdict x).1 := by
  refine ⟨x.client, ?_, ?_⟩
  · rw [s.repliesOf_settle activation verdict heffects]
    exact hstep
  · cases verdict with
    | goesOn => exact .inr ⟨hphase, rfl⟩
    | quits | breaks => exact .inl rfl

/-- A reply of the connection itself does nothing about the port. -/
theorem berths_settle_say {bind : DataChannel.Binder} {ports : List UInt16} (s : Server σ) (activation : Activation)
    (verdict : Verdict) {c : Connection} {r : Reply} (hphase : c.phase.isOver = false) (hcode : r.isPassive = false) :
    c.Berths bind ports (s.settle activation verdict ((s.exchange activation c {}).say r).2).1 := by
  refine s.berths_settle activation verdict (Exchange.history_answer (s.exchange activation c {}) r) hphase ?_
  refine .quiet_singleton (.inr ?_) hcode
  show ((s.exchange activation c {}).answer r).2.client.channel = _
  rw [Exchange.answer_snd]
  rfl

variable [Pipeline σ]

/-- **What a step of a connection does about its port.** -/
theorem Advance.berths {s : Server σ} {activation : Activation} {c : Connection} {own : ConnectionStep}
    {result : Connection × Activation × Server σ} (h : Advance s activation c own result) :
    c.Berths own.binder s.service.control.dataPorts result.1 := by
  cases h with
  | counted hphase | waiting hphase | woken hphase | heard _ hphase =>
    exact .of_same rfl rfl (.inr (by rw [hphase]; rfl))
  | released hphase => exact .of_same rfl rfl (.inl rfl)
  | turnedAway hphase | welcomed hphase | dismissed hphase =>
    exact s.berths_settle_say activation _ (by rw [hphase]; rfl) rfl
  | deserted hphase =>
    have hreplies : ∀ r ∈ repliesOf [], r.isPassive = false := nofun
    exact s.berths_settle activation _ (List.append_nil _).symm (by rw [hphase]; rfl) (.quiet (.inr rfl) hreplies)
  | @executed input circumstances hphase =>
    obtain ⟨added, hhistory, hstep⟩ := (s.exchange activation c circumstances).portStep_take s.service input
    exact s.berths_settle activation _ hhistory (by rw [hphase]; rfl) hstep

/-- A client that is not logged in has no channel, whatever its connection does. -/
theorem Advance.idle {s : Server σ} {activation : Activation} {c : Connection} {own : ConnectionStep}
    {result : Connection × Activation × Server σ} (h : Advance s activation c own result)
    (hidle : c.client.loggedIn = false → c.client.channel = .idle) :
    result.1.client.loggedIn = false → result.1.client.channel = .idle := by
  -- a connection that ends gives its channel up, and one that goes on has what its turn has left
  have hsettle (verdict : Verdict) (x : Exchange σ) (hx : x.client.loggedIn = false → x.client.channel = .idle) :
      (s.settle activation verdict x).1.client.loggedIn = false →
        (s.settle activation verdict x).1.client.channel = .idle := by
    cases verdict with
    | goesOn => exact hx
    | quits | breaks => exact fun _ => rfl
  have hsaid (r : Reply) : ((s.exchange activation c {}).say r).2.client.loggedIn = false →
      ((s.exchange activation c {}).say r).2.client.channel = .idle := by
    show ((s.exchange activation c {}).answer r).2.client.loggedIn = false → _
    rw [show ((s.exchange activation c {}).say r).2 = ((s.exchange activation c {}).answer r).2 from rfl,
      Exchange.answer_snd]
    exact hidle
  cases h with
  | counted | waiting | woken | heard | released => exact hidle
  | turnedAway | welcomed | dismissed => exact hsettle _ _ (hsaid _)
  | deserted => exact hsettle _ _ hidle
  | @executed input circumstances => exact hsettle _ _ (Exchange.idle_take s.service input hidle)

/-! ## What an occurrence does about all ports

One connection moves at most. The other connections keep their ports, and the port of the control connections comes
with a start and goes when the last activation accepts nothing any more. -/

variable {s t : Server σ} {occurrence : Occurrence}

/-- What an occurrence makes of the connection in a place. -/
inductive Undergoes (s : Server σ) (i k : Nat) (c : Connection) : Occurrence → Connection → Prop where
  | spared {occurrence : Occurrence} (hother : ∀ own, occurrence ≠ .step (.connection i k own)) :
      Undergoes s i k c occurrence c
  | lost : Undergoes s i k c (.lost i k) { c with phase := .ended }
  | advanced {activation : Activation} {own : ConnectionStep} {result : Connection × Activation × Server σ}
      (hadvance : Advance s activation c own result) : Undergoes s i k c (.step (.connection i k own)) result.1

omit [Pipeline σ] in
/-- A connection that is lost has ended, and no other connection notices. -/
theorem connection?_lose {i k : Nat} (h : s.lose i k = some t) :
    ∃ c, s.connection? i k = some c ∧ t.connection? i k = some { c with phase := .ended } ∧
      (∀ j l, (j, l) ≠ (i, k) → t.connection? j l = s.connection? j l) ∧ t.service = s.service := by
  obtain ⟨activation, changed, hactivation, hchanged, rfl⟩ := changeActivation_eq_some h
  obtain ⟨c, hconnection, hchanged⟩ := Option.bind_eq_some_iff.1 hchanged
  obtain ⟨-, hchanged⟩ := Option.ite_none_right_eq_some.1 hchanged
  cases hchanged
  obtain ⟨hself, hothers⟩ := connection?_set hactivation hconnection (t := s) rfl rfl { c with phase := .ended }
  exact ⟨c, Option.bind_eq_some_iff.2 ⟨activation, hactivation, hconnection⟩, hself, hothers, rfl⟩

/-- **A connection stays where it is**, and only its own steps and its loss do anything to it. -/
theorem undergoes_occur (h : s.occur occurrence = some t) {i k : Nat} {c : Connection}
    (hc : s.connection? i k = some c) :
    ∃ c', t.connection? i k = some c' ∧ Undergoes s i k c occurrence c' := by
  cases occurrence with
  | step step =>
    -- a step of the owner, of the accepting side or of another connection spares it
    rcases (moves_of_step h).own_or_other hc with
      ⟨own, activation, result, rfl, -, hadvance, hafter⟩ | ⟨hother, -, hafter⟩
    · exact ⟨_, hafter, .advanced hadvance⟩
    · refine ⟨c, hafter, .spared ?_⟩
      rintro own heq
      cases heq
      rw [ownIn, if_pos rfl] at hother
      cases hother
  | lost j l =>
    obtain ⟨c', hc', hafter, hothers, -⟩ := connection?_lose h
    by_cases hself : (i, k) = (j, l)
    · obtain ⟨rfl, rfl⟩ := Prod.mk.inj hself
      obtain rfl := Option.some.inj (hc.symm.trans hc')
      exact ⟨_, hafter, .lost⟩
    · exact ⟨c, (hothers i k hself).trans hc, .spared fun _ heq => Occurrence.noConfusion heq⟩

/-- Connections come by being accepted only. -/
theorem connection_before_occur (h : s.occur occurrence = some t) {i k : Nat} {d : Connection}
    (hd : t.connection? i k = some d) :
    (∃ c, s.connection? i k = some c) ∨ ∃ peer here, d = Connection.accepted peer here := by
  cases occurrence with
  | step step => exact (moves_of_step h).connection_before hd
  | lost j l =>
    obtain ⟨c, hc, -, hothers, -⟩ := connection?_lose h
    by_cases hself : (i, k) = (j, l)
    · obtain ⟨rfl, rfl⟩ := Prod.mk.inj hself
      exact .inl ⟨c, hc⟩
    · exact .inl ⟨d, (hothers i k hself).symm.trans hd⟩

/-- What a server was set up with stays as it is. -/
theorem service_occur (h : s.occur occurrence = some t) : t.service = s.service := by
  cases occurrence with
  | step step => exact service_of_step h
  | lost j l =>
    obtain ⟨-, -, -, -, hservice⟩ := connection?_lose h
    exact hservice

omit [Pipeline σ] in
/-- Control connections come in as long as some activation accepts them. -/
theorem controlPort?_eq_some_iff {port : UInt16} :
    s.controlPort? = some port ↔
      (∃ (i : Nat) (activation : Activation), s.activations[i]? = some activation ∧ activation.accepting = true) ∧
        s.address.map (·.port) = some port := by
  rw [controlPort?, Option.ite_none_right_eq_some, List.any_eq_true]
  refine and_congr_left fun _ => ⟨?_, ?_⟩
  · rintro ⟨activation, hmem, haccepting⟩
    obtain ⟨i, hi⟩ := List.mem_iff_getElem?.1 hmem
    exact ⟨i, activation, hi, haccepting⟩
  · rintro ⟨i, activation, hi, haccepting⟩
    exact ⟨activation, List.mem_of_getElem? hi, haccepting⟩

omit [Pipeline σ] in
/-- A port for control connections that is there afterwards was there before, if nobody has begun to accept. -/
theorem controlPort?_of_accepting {port : UInt16} (h : t.controlPort? = some port) (haddress : t.address = s.address)
    (haccepting : ∀ (i : Nat) (after : Activation), t.activations[i]? = some after → after.accepting = true →
      ∃ before, s.activations[i]? = some before ∧ before.accepting = true) : s.controlPort? = some port := by
  obtain ⟨⟨i, activation, hi, haccepts⟩, hport⟩ := controlPort?_eq_some_iff.1 h
  exact controlPort?_eq_some_iff.2 ⟨⟨i, haccepting i activation hi haccepts⟩, haddress ▸ hport⟩

omit [Pipeline σ] in
/-- A change of one activation that does not make it accept makes nobody accept. -/
theorem accepting_of_set {j : Nat} {activation changed : Activation} (hactivation : s.activations[j]? = some activation)
    (haccepting : changed.accepting = true → activation.accepting = true) (i : Nat) (after : Activation)
    (hafter : (s.activations.set j changed)[i]? = some after) (haccepts : after.accepting = true) :
    ∃ before, s.activations[i]? = some before ∧ before.accepting = true := by
  by_cases hj : j = i
  · subst hj
    rw [List.getElem?_set_self (List.getElem?_eq_some_iff.1 hactivation).1] at hafter
    cases hafter
    exact ⟨activation, hactivation, haccepting haccepts⟩
  · rw [List.getElem?_set_ne hj] at hafter
    exact ⟨after, hafter, haccepts⟩

/-- No step of a connection has to do with the accepting side. -/
theorem Advance.accepting {activation : Activation} {c : Connection} {own : ConnectionStep}
    {result : Connection × Activation × Server σ} (h : Advance s activation c own result) :
    result.2.1.accepting = activation.accepting ∧ result.2.2.address = s.address := by
  have hsettle (verdict : Verdict) (x : Exchange σ) :
      (s.settle activation verdict x).2.1.accepting = activation.accepting ∧
        (s.settle activation verdict x).2.2.address = s.address := by
    cases verdict <;> exact ⟨rfl, rfl⟩
  cases h with
  | counted | waiting | woken | heard | released => exact ⟨rfl, rfl⟩
  | turnedAway | welcomed | dismissed | deserted | executed => exact hsettle _ _

/-- A new port for the control connections comes only with a start. -/
theorem controlPort?_occur (h : s.occur occurrence = some t) {port : UInt16} (hport : t.controlPort? = some port) :
    s.controlPort? = some port ∨ ∃ address : Endpoint, occurrence = .step (.start address) ∧ address.port = port := by
  cases occurrence with
  | lost j l =>
    obtain ⟨activation, changed, hactivation, hchanged, rfl⟩ := changeActivation_eq_some h
    obtain ⟨c, -, hchanged⟩ := Option.bind_eq_some_iff.1 hchanged
    obtain ⟨-, hchanged⟩ := Option.ite_none_right_eq_some.1 hchanged
    cases hchanged
    exact .inl (controlPort?_of_accepting hport rfl (accepting_of_set hactivation id))
  | step step =>
    cases moves_of_step h with
    | started address => exact .inr ⟨address, rfl, Option.some.inj (controlPort?_eq_some_iff.1 hport).2⟩
    -- the address is forgotten
    | cleared => cases (controlPort?_eq_some_iff.1 hport).2
    | skipped | drained | filled => exact .inl hport
    | signalled =>
      -- the signal alone does not end the accepting
      refine .inl (controlPort?_of_accepting hport rfl fun i after hafter haccepts => ?_)
      rw [sendSignal, List.getElem?_modify] at hafter
      obtain ⟨before, hbefore, rfl⟩ := Option.map_eq_some_iff.1 hafter
      refine ⟨before, hbefore, ?_⟩
      split at haccepts <;> exact haccepts
    | accepted _ _ hactivation => exact .inl (controlPort?_of_accepting hport rfl (accepting_of_set hactivation id))
    | closed hactivation haccepting =>
      exact .inl (controlPort?_of_accepting hport rfl (accepting_of_set hactivation fun _ => haccepting))
    | @advanced i k activation activation' c c' own u hactivation hconnection hadvance =>
      obtain ⟨haccepting, haddress⟩ := hadvance.accepting
      obtain ⟨-, hactivations, -⟩ := hadvance.others
      refine .inl (controlPort?_of_accepting hport haddress fun i after hafter haccepts => ?_)
      dsimp only at hafter
      rw [hactivations] at hafter
      refine accepting_of_set hactivation ?_ i after hafter haccepts
      exact haccepting.symm.trans

end Server

/-! ## What an event does about all ports

Two kinds of events are put together: a try, which changes what the host remembers and nothing of the server, and an
occurrence, which changes the server and takes the memory of the line away. In both cases whoever gets a port gets one
that nobody held. -/

namespace HostedServer

open Server (Occurrence Undergoes undergoes_occur connection_before_occur controlPort?_occur service_occur)

variable {σ : Type} {h h' : HostedServer σ} {i k : Nat} {port : UInt16}

theorem mem_spare {occurrence : Occurrence} {rows : List (PortHolder × UInt16)} {row : PortHolder × UInt16} :
    row ∈ spare occurrence rows ↔ row ∈ rows ∧ row.1 ≠ occurrence.actor := by
  rw [spare, List.mem_filter, decide_eq_true_iff]

/-- **A line that has a port to try** has got none so far, and has not been refused this one. -/
theorem of_due? (hdue : h.due? i k = some port) :
    (∀ port ∈ h.dataPorts, (.connection i k, port) ∉ h.listeners) ∧ port ∈ h.dataPorts ∧
      (.connection i k, port) ∉ h.refused := by
  obtain ⟨hboth, hfind⟩ := Option.ite_none_right_eq_some.1 hdue
  obtain ⟨-, hnone⟩ := Bool.and_eq_true_iff.1 hboth
  refine ⟨fun port hport => ?_, List.mem_of_find?_eq_some hfind, by simpa using List.find?_some hfind⟩
  exact of_decide_eq_true (List.all_eq_true.1 hnone port hport)

/-- A line that has no more port to try, and has got none, has been refused all of them. -/
theorem refused_of_due?_eq_none {c : Connection} (hconnection : h.server.connection? i k = some c)
    (hseeks : c.seeksPort h.server.service = true) (hdue : h.due? i k = none)
    (hnone : ∀ port ∈ h.dataPorts, (.connection i k, port) ∉ h.listeners) :
    ∀ port ∈ h.dataPorts, (.connection i k, port) ∈ h.refused := by
  have hboth : ((h.server.connection? i k).any (·.seeksPort h.server.service) &&
      h.dataPorts.all fun port => (.connection i k, port) ∉ h.listeners) = true := by
    rw [hconnection]
    exact Bool.and_eq_true_iff.2 ⟨hseeks, List.all_eq_true.2 fun port hport => decide_eq_true (hnone port hport)⟩
  rw [due?, if_pos hboth, List.find?_eq_none] at hdue
  exact fun port hport => by simpa using hdue port hport

/-- A port that a line goes by is one of the range that the host has granted to it. -/
theorem listeners_of_granted {here : Ip}
    (hgranted : granted? (h.binder i k) here h.dataPorts = some port) :
    port ∈ h.dataPorts ∧ (.connection i k, port) ∈ h.listeners := by
  obtain ⟨asked, hasked, hbind⟩ := List.exists_of_findSome?_eq_some hgranted
  obtain ⟨hlistens, hsame⟩ := Option.ite_none_right_eq_some.1 hbind
  obtain rfl : asked = port := Option.some.inj hsame
  exact ⟨hasked, hlistens⟩

/-- A line gets no port just if it has no listener. -/
theorem granted?_eq_none_iff {here : Ip} :
    granted? (h.binder i k) here h.dataPorts = none ↔ ∀ port ∈ h.dataPorts, (.connection i k, port) ∉ h.listeners := by
  rw [granted?, List.findSome?_eq_none_iff]
  refine forall₂_congr fun port _ => ?_
  simp [binder]

variable [Pipeline σ] {occurrence : Occurrence} {event : Event}

/-- What a try has done: the host has refused the port, or it has granted it, by whether it was held. -/
theorem tries_cases (hnext : h.next (.tries i k) = some h') :
    ∃ port, h.due? i k = some port ∧ h'.server = h.server ∧
      ((port ∈ h.heldPorts ∧ h'.refused = (.connection i k, port) :: h.refused ∧ h'.listeners = h.listeners) ∨
        (port ∉ h.heldPorts ∧ h'.refused = h.refused ∧ h'.listeners = (.connection i k, port) :: h.listeners)) := by
  obtain ⟨port, hdue, rfl⟩ := Option.map_eq_some_iff.1 hnext
  by_cases hheld : port ∈ h.heldPorts
  · rw [if_pos hheld]
    exact ⟨port, hdue, rfl, .inl ⟨hheld, rfl, rfl⟩⟩
  · rw [if_neg hheld]
    exact ⟨port, hdue, rfl, .inr ⟨hheld, rfl, rfl⟩⟩

/-- What an occurrence has done. -/
theorem occurs_cases (hnext : h.next (.occurs occurrence) = some h') :
    h.admits occurrence = true ∧ h.server.occur (h.answering occurrence) = some h'.server ∧
      h'.refused = spare occurrence h.refused ∧ h'.listeners = spare occurrence h.listeners := by
  obtain ⟨hadmits, hnext⟩ := Option.ite_none_right_eq_some.1 hnext
  obtain ⟨server, hserver, rfl⟩ := Option.map_eq_some_iff.1 hnext
  exact ⟨hadmits, hserver, rfl, rfl⟩

omit [Pipeline σ] in
/-- The host's answers change nothing about who does what. -/
theorem actor_answering (h : HostedServer σ) (occurrence : Occurrence) :
    (h.answering occurrence).actor = occurrence.actor := by
  unfold answering
  split <;> rfl

omit [Pipeline σ] in
/-- In whatever step of a connection, the host has answered with the listeners that its line has got, or not at all. -/
theorem binder_of_answering {own : ConnectionStep} (hown : h.answering occurrence = .step (.connection i k own))
    {here : Ip} (hgranted : granted? own.binder here h.dataPorts = some port) :
    port ∈ h.dataPorts ∧ (.connection i k, port) ∈ h.listeners := by
  unfold answering at hown
  split at hown
  · cases hown
    exact listeners_of_granted hgranted
  · next hother =>
    subst hown
    cases own with
    | execute circumstances => exact absurd rfl (hother i k circumstances)
    | _ =>
      -- nothing is asked of the host
      obtain ⟨asked, -, hnone⟩ := List.exists_of_findSome?_eq_some hgranted
      cases hnone

/-- Who has to do with an event. -/
def Event.actor : Event → PortHolder
  | .tries i k => .connection i k
  | .occurs occurrence => occurrence.actor

omit [Pipeline σ] in
/-- Only the rows of those who have gone on are taken away. -/
theorem Event.eq_actor_of_not_spares {holder : PortHolder} (hspares : ¬event.Spares holder) : holder = event.actor := by
  cases event with
  | tries => exact absurd trivial hspares
  | occurs => exact not_not.1 hspares

/-- What an event makes of the connection in a place. If the connection has gone on, it went by what its line has got
from the host. -/
inductive Fares (h : HostedServer σ) (i k : Nat) (c : Connection) (event : Event) : Connection → Prop where
  | spared : Fares h i k c event c
  | lost : Fares h i k c event { c with phase := .ended }
  | advanced {bind : DataChannel.Binder} {c' : Connection} (hactor : event.actor = .connection i k)
      (hgranted : ∀ here port, granted? bind here h.dataPorts = some port →
        port ∈ h.dataPorts ∧ (.connection i k, port) ∈ h.listeners)
      (hberths : c.Berths bind h.dataPorts c')
      (hidle : (c.client.loggedIn = false → c.client.channel = .idle) →
        c'.client.loggedIn = false → c'.client.channel = .idle) : Fares h i k c event c'

/-- **A connection stays where it is**, and what happens to it is one of these. -/
theorem fares_next (hnext : h.next event = some h') {c : Connection} (hc : h.server.connection? i k = some c) :
    ∃ c', h'.server.connection? i k = some c' ∧ Fares h i k c event c' := by
  cases event with
  | tries j l =>
    -- a try is between a line and the host
    obtain ⟨-, -, hserver, -⟩ := tries_cases hnext
    exact ⟨c, hserver ▸ hc, .spared⟩
  | occurs occurrence =>
    obtain ⟨-, hserver, -⟩ := occurs_cases hnext
    obtain ⟨c', hafter, hundergoes⟩ := undergoes_occur hserver hc
    refine ⟨c', hafter, ?_⟩
    generalize hanswering : h.answering occurrence = answered at hundergoes
    cases hundergoes with
    | spared => exact .spared
    | lost => exact .lost
    | advanced hadvance =>
      refine .advanced ?_ (fun here port hgranted => binder_of_answering hanswering hgranted) hadvance.berths
        hadvance.idle
      show occurrence.actor = _
      rw [← h.actor_answering occurrence, hanswering]
      rfl

/-- A connection was there before, or it has just been accepted. -/
theorem connection_before_next (hnext : h.next event = some h') {d : Connection}
    (hd : h'.server.connection? i k = some d) :
    (∃ c, h.server.connection? i k = some c ∧ Fares h i k c event d) ∨
      ∃ peer here, d = Connection.accepted peer here := by
  have hbefore : (∃ c, h.server.connection? i k = some c) ∨ ∃ peer here, d = Connection.accepted peer here := by
    cases event with
    | tries j l =>
      obtain ⟨-, -, hserver, -⟩ := tries_cases hnext
      exact .inl ⟨d, hserver ▸ hd⟩
    | occurs occurrence => exact connection_before_occur (occurs_cases hnext).2.1 hd
  refine hbefore.imp_left ?_
  rintro ⟨c, hc⟩
  obtain ⟨c', hc', hfares⟩ := fares_next hnext hc
  obtain rfl := Option.some.inj (hd.symm.trans hc')
  exact ⟨c, hc, hfares⟩

/-- The service is the same in every state of a run. -/
theorem service_next (hnext : h.next event = some h') : h'.server.service = h.server.service := by
  cases event with
  | tries j l =>
    obtain ⟨-, -, hserver, -⟩ := tries_cases hnext
    rw [hserver]
  | occurs occurrence => exact service_occur (occurs_cases hnext).2.1

/-- Whether somebody's line tries a port in an event. -/
def Tries (h : HostedServer σ) (event : Event) (holder : PortHolder) (port : UInt16) : Prop :=
  ∃ i k, holder = .connection i k ∧ event = .tries i k ∧ h.due? i k = some port

omit [Pipeline σ] in
/-- A try is about the port that is due, for the line that tries. -/
theorem tries_iff {holder : PortHolder} {tried : UInt16} (hdue : h.due? i k = some tried) :
    h.Tries (.tries i k) holder port ↔ (holder, port) = (.connection i k, tried) := by
  constructor
  · rintro ⟨j, l, rfl, hsame, hother⟩
    cases hsame
    cases hdue.symm.trans hother
    rfl
  · rintro hsame
    cases hsame
    exact ⟨i, k, rfl, rfl, hdue⟩

omit [Pipeline σ] in
theorem Tries.eq_actor {holder : PortHolder} (htries : h.Tries event holder port) : holder = event.actor := by
  obtain ⟨i, k, rfl, rfl, -⟩ := htries
  rfl

omit [Pipeline σ] in
/-- Who is in some rows, if one more has been added to them on a condition. -/
theorem mem_rows {rows rows' : List (PortHolder × UInt16)} {row added : PortHolder × UInt16} {taken : Prop}
    (hrows : (taken ∧ rows' = added :: rows) ∨ (¬taken ∧ rows' = rows)) :
    row ∈ rows' ↔ (row = added ∧ taken) ∨ row ∈ rows := by
  rcases hrows with ⟨htaken, rfl⟩ | ⟨hnot, rfl⟩
  · rw [List.mem_cons, and_iff_left htaken]
  · exact ⟨.inr, fun h => h.resolve_left fun hrow => hnot hrow.2⟩

/-- A port is refused to a line that tries it while it is held, and that is forgotten with the line. -/
theorem mem_refused_next (hnext : h.next event = some h') {holder : PortHolder} :
    (holder, port) ∈ h'.refused ↔
      (h.Tries event holder port ∧ port ∈ h.heldPorts) ∨ ((holder, port) ∈ h.refused ∧ event.Spares holder) := by
  cases event with
  | tries i k =>
    obtain ⟨tried, hdue, -, hanswer⟩ := tries_cases hnext
    have hrows : (tried ∈ h.heldPorts ∧ h'.refused = (.connection i k, tried) :: h.refused) ∨
        (tried ∉ h.heldPorts ∧ h'.refused = h.refused) :=
      hanswer.imp (fun hno => ⟨hno.1, hno.2.1⟩) fun hyes => ⟨hyes.1, hyes.2.1⟩
    -- the row that is added is about the port that was due
    rw [tries_iff hdue, mem_rows hrows]
    refine or_congr (and_congr_right fun hsame => ?_) (and_iff_left trivial).symm
    cases hsame
    rfl
  | occurs occurrence =>
    -- an occurrence adds nothing
    rw [(occurs_cases hnext).2.2.1, mem_spare]
    refine ⟨.inr, ?_⟩
    rintro (⟨⟨i, k, -, htries, -⟩, -⟩ | hkept)
    · cases htries
    · exact hkept

/-- A port is granted to a line that tries it while it is free, and the listener is the line's until it is executed. -/
theorem mem_listeners_next (hnext : h.next event = some h') {holder : PortHolder} :
    (holder, port) ∈ h'.listeners ↔
      (h.Tries event holder port ∧ port ∉ h.heldPorts) ∨ ((holder, port) ∈ h.listeners ∧ event.Spares holder) := by
  cases event with
  | tries i k =>
    obtain ⟨tried, hdue, -, hanswer⟩ := tries_cases hnext
    have hrows : (tried ∉ h.heldPorts ∧ h'.listeners = (.connection i k, tried) :: h.listeners) ∨
        (¬tried ∉ h.heldPorts ∧ h'.listeners = h.listeners) :=
      hanswer.symm.imp (fun hyes => ⟨hyes.1, hyes.2.2⟩) fun hno => ⟨not_not.2 hno.1, hno.2.2⟩
    rw [tries_iff hdue, mem_rows hrows]
    refine or_congr (and_congr_right fun hsame => ?_) (and_iff_left trivial).symm
    cases hsame
    rfl
  | occurs occurrence =>
    rw [(occurs_cases hnext).2.2.2, mem_spare]
    refine ⟨.inr, ?_⟩
    rintro (⟨⟨i, k, -, htries, -⟩, -⟩ | hkept)
    · cases htries
    · exact hkept

/-- **A port that is new to its holder** comes from a listener that a line has got, or nobody held it. -/
theorem port?_next (hnext : h.next event = some h') {holder : PortHolder}
    (hport : h'.server.port? holder = some port) :
    h.server.port? holder = some port ∨
      (¬event.Spares holder ∧ ((holder, port) ∈ h.listeners ∨ port ∉ h.heldPorts)) := by
  cases event with
  | tries i k =>
    obtain ⟨-, -, hserver, -⟩ := tries_cases hnext
    exact .inl (hserver ▸ hport)
  | occurs occurrence =>
    cases holder with
    | control =>
      obtain ⟨hadmits, hserver, -⟩ := occurs_cases hnext
      rcases controlPort?_occur hserver hport with hkept | ⟨address, hstart, rfl⟩
      · exact .inl hkept
      · -- the host has let the server listen for control connections
        obtain rfl : occurrence = .step (.start address) := by
          unfold answering at hstart
          split at hstart
          · cases hstart
          · exact hstart
        exact .inr ⟨not_not.2 rfl, .inr (of_decide_eq_true hadmits)⟩
    | connection i k =>
      obtain ⟨d, hd, hport⟩ := Option.bind_eq_some_iff.1 hport
      -- a connection that has just been accepted has no port, and one that was there can get one only by its own step
      rcases connection_before_next hnext hd with ⟨c, hc, hfares⟩ | ⟨peer, here, rfl⟩
      · have hkept (hsame : c.port? = some port) : h.server.port? (.connection i k) = some port :=
          Option.bind_eq_some_iff.2 ⟨c, hc, hsame⟩
        cases hfares with
        | spared => exact .inl (hkept hport)
        | lost => cases hport
        | advanced hactor hgranted hberths =>
          rcases hberths.port?_eq_some hport with hsame | hgot
          · exact .inl (hkept hsame)
          · exact .inr ⟨not_not.2 hactor.symm, .inl (hgranted _ _ hgot).2⟩
      · cases hport

/-- **Ports change hands one at a time.** -/
theorem handover_next (hnext : h.next event = some h') : Handover event.actor h.Holds h'.Holds := by
  intro holder port hholds
  rcases hholds with hport | hlistens
  · rcases port?_next hnext hport with hkept | ⟨hspares, hlistens | hfree⟩
    · exact .inl (.inl hkept)
    · -- a channel takes over the listener that its line has got
      exact .inl (.inr hlistens)
    · exact .inr ⟨Event.eq_actor_of_not_spares hspares, notMem_heldPorts.1 hfree⟩
  · rcases (mem_listeners_next hnext).1 hlistens with ⟨htries, hfree⟩ | ⟨hkept, -⟩
    · exact .inr ⟨htries.eq_actor, notMem_heldPorts.1 hfree⟩
    · exact .inl (.inr hkept)

/-! ## The invariant

It has four parts, since a port can be on its way to a client in two places: in the memory of the host, and in the
channel of the client. None of the parts is kept without the others. -/

/-- No port is held twice, what a line has got is not its client's channel, what it was refused it has not got, and a
client that is not logged in has no channel. -/
structure Accounted (service : Service) (h : HostedServer σ) : Prop where
  serves : h.server.service = service
  exclusive : Exclusive h.Holds
  apart : ∀ holder port, (holder, port) ∈ h.listeners → h.server.port? holder ≠ some port
  decided : ∀ holder port, (holder, port) ∈ h.refused → (holder, port) ∉ h.listeners
  idle : ∀ i k c, h.server.connection? i k = some c → c.client.loggedIn = false → c.client.channel = .idle

omit [Pipeline σ] in
/-- Nobody holds anything of a new server. -/
theorem accounted_new (service : Service) (pipeline : σ) :
    Accounted service { server := { service, pipeline } } := by
  refine ⟨rfl, fun a b port ha => ?_, fun _ _ hlistens => absurd hlistens List.not_mem_nil,
    fun _ _ hrefused => absurd hrefused List.not_mem_nil, fun _ _ _ hc => nomatch hc⟩
  rcases ha with hport | hlistens
  · cases a with
    | control | connection => cases hport
  · cases hlistens

/-- **Every event keeps to that.** -/
theorem Accounted.next {service : Service} (hs : Accounted service h) (hnext : h.next event = some h') :
    Accounted service h' where
  serves := (service_next hnext).trans hs.serves
  exclusive := (handover_next hnext).exclusive hs.exclusive
  apart := by
    intro holder port hlistens hport
    rcases (mem_listeners_next hnext).1 hlistens with ⟨htries, hfree⟩ | ⟨hkept, hspares⟩
    · -- the channels are those of before
      rcases port?_next hnext hport with hsame | ⟨hother, -⟩
      · exact notMem_heldPorts.1 hfree holder (.inl hsame)
      · obtain ⟨i, k, -, rfl, -⟩ := htries
        exact hother trivial
    · -- whoever keeps a listener has nothing to do with the event, and so no new port either
      rcases port?_next hnext hport with hsame | ⟨hother, -⟩
      · exact hs.apart holder port hkept hsame
      · exact hother hspares
  decided := by
    intro holder port hrefused hlistens
    rcases (mem_refused_next hnext).1 hrefused with ⟨htries, hheld⟩ | ⟨hrefused, -⟩ <;>
      rcases (mem_listeners_next hnext).1 hlistens with ⟨hagain, hfree⟩ | ⟨hkept, -⟩
    · exact hfree hheld
    · -- a line that has got a listener tries no more
      obtain ⟨i, k, rfl, -, hdue⟩ := htries
      obtain ⟨hnone, hrange, -⟩ := of_due? hdue
      exact hnone port hrange hkept
    · -- a line does not try a port again
      obtain ⟨i, k, rfl, -, hdue⟩ := hagain
      exact (of_due? hdue).2.2 hrefused
    · exact hs.decided holder port hrefused hkept
  idle := by
    intro i k d hd
    rcases connection_before_next hnext hd with ⟨c, hc, hfares⟩ | ⟨peer, here, rfl⟩
    · cases hfares with
      | spared => exact hs.idle i k d hc
      | lost => exact hs.idle i k c hc
      | advanced _ _ _ hidle => exact hidle (hs.idle i k c hc)
    · exact fun _ => rfl

/-- The run of a run and one more event. -/
theorem nextAll_append_singleton (h : HostedServer σ) (events : List Event) (event : Event) :
    h.nextAll (events ++ [event]) = (h.nextAll events).bind (·.next event) := by
  rw [nextAll, List.foldlM_append]
  refine congrArg (Option.bind (h.nextAll events)) (funext fun u => ?_)
  rw [List.foldlM_cons]
  exact bind_pure (u.next event)

/-- The invariant holds in every run. Induction on the events, the last one last. -/
theorem Accounted.nextAll {service : Service} {events : List Event} (hs : Accounted service h)
    (hrun : h.nextAll events = some h') : Accounted service h' := by
  induction events using List.reverseRecOn generalizing h' with
  | nil =>
    obtain rfl := Option.some.inj hrun
    exact hs
  | append_singleton events event ih =>
    rw [nextAll_append_singleton] at hrun
    obtain ⟨u, hu, hlast⟩ := Option.bind_eq_some_iff.1 hrun
    exact (ih hu).next hlast

end HostedServer

end FtpIntake
