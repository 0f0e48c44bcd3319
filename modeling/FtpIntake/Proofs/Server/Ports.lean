import FtpIntake.Pipeline.Memory
import FtpIntake.Proofs.Server.Held

/-!
# Which port a client gets

Clients ask for passive channels, use them and leave, all at the same time, and the ports that the server may listen on
are few. Each client that gets one is told which, and nobody else has it. A client that gets none has found each port of
the range held when it tried it. That does not say that all of them were held at one moment: a port that one client has
found held may be given up, and be taken again, while the client goes on to the next one.

* **`Server.take_of_execute`** is how a turn of a client becomes a step of its connection.
* **`HostedServer.Tried`** says when the line that is being executed has tried a port, and **`mem_refused_iff`** that
  the ports that the host has refused to it are those that were held at that moment. Induction on the events.
* **`HostedServer.Accounted.told`**, **`released`** and **`refused_iff`** are what the invariant gives for one event.
* **`HostedServer.ports_after`** is what holds of the next thing that happens, whatever has happened so far: what a
  client is told, when a port is free again, and when a request for a passive channel is refused.
* **`HostedServer.own_port_is_in_the_way`** shows that a client can stand in its own way.
-/

namespace FtpIntake

/-! ## The turn of a line

When a line is executed it has an answer of the host to each port that it needs, and these are what its exchange binds
with. -/

namespace Server

variable {σ : Type} [Pipeline σ] {s t : Server σ} {i k : Nat} {c : Connection}

/-- What a connection has executed has been a turn of its client. -/
theorem take_of_execute {circumstances : Circumstances} {input : Input} (hconnection : s.connection? i k = some c)
    (hphase : c.phase = .executing input)
    (hnext : s.occur (.step (.connection i k (.execute circumstances))) = some t) :
    ∃ (x : Exchange σ) (added : List Effect) (c' : Connection), x.client = c.client ∧
      x.circumstances = circumstances ∧ (x.take s.service input).2.history = x.history ++ added ∧
      t.connection? i k = some c' ∧ codesOf (addedTo c.effects c'.effects) = codesOf added ∧
      (c'.phase.isOver = true ∨ c'.client.channel = (x.take s.service input).2.client.channel) := by
  obtain ⟨c', hafter, hundergoes⟩ := undergoes_occur hnext hconnection
  cases hundergoes with
  | spared hother => exact absurd rfl (hother _)
  | @advanced activation _ _ hadvance =>
    cases hadvance with
    | @executed found _ hfound =>
      -- there is only one input that the connection can have read
      obtain rfl : found = input := by
        cases hfound.symm.trans hphase
        rfl
      let x := s.exchange activation c circumstances
      obtain ⟨added, hhistory, -⟩ := x.portStep_take s.service found
      refine ⟨x, added, _, rfl, rfl, hhistory, hafter, ?_, ?_⟩
      · exact congrArg (List.map Reply.code) (s.repliesOf_settle activation _ hhistory)
      · cases (x.take s.service found).1 with
        | goesOn => exact .inr rfl
        | quits | breaks => exact .inl rfl

end Server

namespace HostedServer

open Server (Occurrence take_of_execute)

variable {σ : Type} [Pipeline σ] {start h h' u : HostedServer σ} {i k : Nat} {port : UInt16} {events : List Event}
  {event : Event}

/-! ## When a port was tried

A refusal is forgotten when its line is over, so it belongs to the line that is being executed. The events since the
try are told by `Spares`: none of them has ended the line. -/

/-- The line that a connection is executing has tried a port when the server was `u`: since then there have been further
tries, and things that the connection had nothing to do with. -/
def Tried (start : HostedServer σ) (events : List Event) (i k : Nat) (port : UInt16) (u : HostedServer σ) : Prop :=
  ∃ before after, events = before ++ .tries i k :: after ∧ start.nextAll before = some u ∧ u.due? i k = some port ∧
    ∀ event ∈ after, event.Spares (.connection i k)

/-- The last event was the try, or the line is still the same. -/
theorem tried_append_singleton :
    Tried start (events ++ [event]) i k port u ↔
      (event = .tries i k ∧ start.nextAll events = some u ∧ u.due? i k = some port) ∨
        (Tried start events i k port u ∧ event.Spares (.connection i k)) := by
  constructor
  · rintro ⟨before, after, heq, hbefore, hdue, hspares⟩
    -- the try is the last event itself, or the last event comes after it and has spared the line
    rcases List.eq_nil_or_concat after with rfl | ⟨after, last, rfl⟩
    · obtain ⟨rfl, hlast⟩ := List.append_inj' heq rfl
      exact .inl ⟨List.singleton_inj.1 hlast, hbefore, hdue⟩
    · rw [List.concat_eq_append] at heq hspares
      rw [← List.cons_append, ← List.append_assoc] at heq
      obtain ⟨rfl, hlast⟩ := List.append_inj' heq rfl
      obtain rfl := List.singleton_inj.1 hlast
      obtain ⟨hspares, hlast⟩ := List.forall_mem_append.1 hspares
      exact .inr ⟨⟨before, after, rfl, hbefore, hdue, hspares⟩, hlast _ (List.mem_singleton_self _)⟩
  · rintro (⟨rfl, hbefore, hdue⟩ | ⟨⟨before, after, rfl, hbefore, hdue, hspares⟩, hlast⟩)
    · exact ⟨events, [], rfl, hbefore, hdue, List.forall_mem_nil _⟩
    · refine ⟨before, after ++ [event], ?_, hbefore, hdue, ?_⟩
      · rw [List.append_assoc, List.cons_append]
      · exact List.forall_mem_append.2 ⟨hspares, List.forall_mem_singleton.2 hlast⟩

/-- **The ports that the host has refused to a line** are those that were held when the line tried them. -/
theorem mem_refused_iff (hstart : start.refused = []) (hrun : start.nextAll events = some h) :
    (.connection i k, port) ∈ h.refused ↔ ∃ u, Tried start events i k port u ∧ port ∈ u.heldPorts := by
  induction events using List.reverseRecOn generalizing h with
  | nil =>
    obtain rfl := Option.some.inj hrun
    rw [hstart]
    refine iff_of_false List.not_mem_nil ?_
    rintro ⟨-, ⟨before, after, heq, -⟩, -⟩
    exact List.append_ne_nil_of_right_ne_nil before (List.cons_ne_nil _ _) heq.symm
  -- the refusals of the last state are old ones that were spared, or the one of this event
  | append_singleton events event ih =>
    rw [nextAll_append_singleton] at hrun
    obtain ⟨last, hlast, hnext⟩ := Option.bind_eq_some_iff.1 hrun
    rw [mem_refused_next hnext, ih hlast]
    simp only [tried_append_singleton, hlast, Option.some.injEq]
    constructor
    · rintro (⟨⟨j, l, heq, htries, hdue⟩, hheld⟩ | ⟨⟨u, htried, hheld⟩, hspares⟩)
      · cases heq
        exact ⟨last, .inl ⟨htries, rfl, hdue⟩, hheld⟩
      · exact ⟨u, .inr ⟨htried, hspares⟩, hheld⟩
    · rintro ⟨u, ⟨htries, rfl, hdue⟩ | ⟨htried, hspares⟩, hheld⟩
      · exact .inl ⟨⟨i, k, rfl, htries, hdue⟩, hheld⟩
      · exact .inr ⟨⟨u, htried, hheld⟩, hspares⟩

/-! ## What the invariant says of one event

Each part of the statement on ports is proved for the next event out of the invariant alone, without a run. -/

namespace Accounted

variable {service : Service} {c c' : Connection}

/-- A client is told of a port of the configured range that it has got for itself. -/
theorem told (hs : Accounted service h) (hnext : h.next event = some h')
    (hconnection : h.server.connection? i k = some c) (hafter : h'.server.connection? i k = some c') {r : Reply}
    (hr : r ∈ repliesOf (addedTo c.effects c'.effects)) (hcode : r.code = 227 ∨ r.code = 229) :
    ∃ port, r.advertised? c.client.here.ip = some ⟨c.client.here.ip, port⟩ ∧
      service.config.dataPortMin ≤ port ∧ port ≤ service.config.dataPortMax ∧
      (c'.phase.isOver = true ∨ c'.client.channel = .passive ⟨c.client.here.ip, port⟩ c.client.peer.ip) ∧
      ∀ holder, h'.Holds holder port → holder = .connection i k := by
  obtain ⟨d, hd, hfares⟩ := fares_next hnext hconnection
  obtain rfl := Option.some.inj (hd.symm.trans hafter)
  have hsilent : repliesOf (addedTo c.effects c.effects) = [] :=
    congrArg repliesOf (addedTo_eq (List.append_nil c.effects.reverse).symm)
  -- only its own step can have said anything to the client
  cases hfares with
  | spared | lost =>
    rw [hsilent] at hr
    cases hr
  | advanced hactor hgets hberths =>
    have htold : r.isPassive = true := by
      rw [Reply.isPassive]
      rcases hcode with hcode | hcode <;> rw [hcode] <;> rfl
    obtain ⟨port, hgranted, hadvertised, hchannel⟩ := hberths.advertised hr htold
    obtain ⟨hmem, hlistens⟩ := hgets _ _ hgranted
    rw [dataPorts, hs.serves] at hmem
    obtain ⟨hlow, hhigh⟩ := DataChannel.mem_portRange.1 hmem
    refine ⟨port, hadvertised, hlow, hhigh, hchannel, fun holder hholder => ?_⟩
    -- the listener was this client's before, and only this client can have got anything new
    rcases handover_next hnext holder port hholder with hbefore | ⟨hactor', -⟩
    · exact hs.exclusive holder _ port hbefore (.inr hlistens)
    · exact hactor'.trans hactor

/-- A port is free once its channel has been replaced or its connection is over. -/
theorem released (hs : Accounted service h) (hnext : h.next event = some h')
    (hconnection : h.server.connection? i k = some c) (hafter : h'.server.connection? i k = some c')
    (hport : c.port? = some port) (hgone : c'.phase.isOver = true ∨ c'.client.channel ≠ c.client.channel) :
    port ∉ h'.heldPorts := by
  have hchannel : h.server.port? (.connection i k) = some port := Option.bind_eq_some_iff.2 ⟨c, hconnection, hport⟩
  -- what its line has got is another port
  have hother : (.connection i k, port) ∉ h.listeners := fun hlistens => hs.apart _ _ hlistens hchannel
  refine notMem_heldPorts.2 ((handover_next hnext).free hs.exclusive (.inl hchannel) ?_)
  rintro (hkept | hlistens)
  · have hplace : h'.server.port? (.connection i k) = c'.port? := congrArg (Option.bind · Connection.port?) hafter
    rw [hplace] at hkept
    obtain ⟨d, hd, hfares⟩ := fares_next hnext hconnection
    obtain rfl := Option.some.inj (hd.symm.trans hafter)
    cases hfares with
    | spared =>
      rcases hgone with hover | hnot
      · cases hover.symm.trans (Connection.port?_eq_some_iff.1 hport).1
      · exact hnot rfl
    | lost => cases hkept
    | advanced _ hgets hberths => exact hberths.port?_ne_some (fun hgot => hother (hgets _ _ hgot).2) hgone hkept
  · rcases (mem_listeners_next hnext).1 hlistens with ⟨-, hfree⟩ | ⟨hkept, -⟩
    · exact notMem_heldPorts.1 hfree _ (.inl hchannel)
    · exact hother hkept

omit [Pipeline σ] in
theorem loggedIn_of_port (hs : Accounted service h) (hconnection : h.server.connection? i k = some c)
    (hport : c.port? = some port) : c.client.loggedIn = true := by
  cases hin : c.client.loggedIn with
  | true => rfl
  | false =>
    obtain ⟨-, endpoint, hendpoint, -⟩ := Connection.port?_eq_some_iff.1 hport
    rw [hs.idle i k c hconnection hin] at hendpoint
    cases hendpoint

variable {circumstances : Circumstances} {input : Input} {r : Request}

/-- A request that uses the channel, gives it up or replaces it leaves the port free. -/
theorem released_of_request (hs : Accounted service h)
    (hnext : h.next (.occurs (.step (.connection i k (.execute circumstances)))) = some h')
    (hconnection : h.server.connection? i k = some c) (hafter : h'.server.connection? i k = some c')
    (hphase : c.phase = .executing input) (hexecuted : input.executed? service = some r)
    (hreleases : r.GivesUp ∨ r.verb = "QUIT" ∨ Executed.Negotiated ⟨r, codesOf (addedTo c.effects c'.effects)⟩)
    (hport : c.port? = some port) : port ∉ h'.heldPorts := by
  obtain ⟨-, endpoint, hendpoint, rfl⟩ := Connection.port?_eq_some_iff.1 hport
  obtain ⟨-, hserver, -⟩ := occurs_cases hnext
  obtain ⟨x, added, d, hclient, hanswers, hhistory, hd, hcodes, hleft⟩ := take_of_execute hconnection hphase hserver
  obtain rfl := Option.some.inj (hd.symm.trans hafter)
  have hin : x.client.loggedIn = true := hclient ▸ hs.loggedIn_of_port hconnection hport
  rw [hcodes] at hreleases
  refine hs.released hnext hconnection hafter hport (hleft.imp_right fun hchannel => ?_)
  rw [hchannel]
  intro hsame
  -- the channel cannot be the same: it would listen nowhere, or where the line has got another listener
  rcases Exchange.released_take (hs.serves ▸ hexecuted) hin hhistory hreleases with hnone | ⟨other, hgranted, hlistens⟩
  · rw [hsame, hendpoint] at hnone
    cases hnone
  · rw [← hsame, hlistens] at hendpoint
    cases hendpoint
    rw [hanswers] at hgranted
    have hheld : h.server.port? (.connection i k) = some other := Option.bind_eq_some_iff.2 ⟨c, hconnection, hport⟩
    exact hs.apart _ _ (listeners_of_granted hgranted).2 hheld

/-- A request for a passive channel is refused just if the host has refused all ports to it. -/
theorem refused_iff (hs : Accounted service h)
    (hnext : h.next (.occurs (.step (.connection i k (.execute circumstances)))) = some h')
    (hconnection : h.server.connection? i k = some c) (hafter : h'.server.connection? i k = some c')
    (hphase : c.phase = .executing input) (hexecuted : input.executed? service = some r)
    (hin : c.client.loggedIn = true) (hpassive : (r.verb = "PASV" ∧ c.client.here.ip.isIpv4 = true) ∨ r.verb = "EPSV") :
    codesOf (addedTo c.effects c'.effects) = [425] ↔
      ∀ port, service.config.dataPortMin ≤ port → port ≤ service.config.dataPortMax →
        (.connection i k, port) ∈ h.refused := by
  obtain ⟨hadmits, hserver, -⟩ := occurs_cases hnext
  obtain ⟨x, added, d, hclient, hanswers, hhistory, hd, hcodes, -⟩ := take_of_execute hconnection hphase hserver
  obtain rfl := Option.some.inj (hd.symm.trans hafter)
  have hseeks : c.seeksPort h.server.service = true := by
    rw [Connection.seeksPort, hphase, hs.serves]
    simpa [hexecuted, hin] using hpassive
  -- a line is executed only when it has no port to try
  have hdue : h.due? i k = none := Option.isNone_iff_eq_none.1 hadmits
  have hnone : (∀ port ∈ h.dataPorts, (.connection i k, port) ∉ h.listeners) ↔
      ∀ port ∈ h.dataPorts, (.connection i k, port) ∈ h.refused :=
    ⟨refused_of_due?_eq_none hconnection hseeks hdue, fun hrefused port hport => hs.decided _ _ (hrefused port hport)⟩
  rw [← hclient] at hin hpassive
  rw [hcodes, Exchange.refused_iff_take (hs.serves ▸ hexecuted) hin hpassive hhistory, hanswers]
  refine granted?_eq_none_iff.trans (hnone.trans ?_)
  rw [dataPorts, hs.serves]
  refine forall_congr' fun port => ?_
  rw [← and_imp]
  exact imp_congr_left DataChannel.mem_portRange

end Accounted

/-- **A client is told of a port that it alone has, a port is free as soon as its channel is not there any more, and a
request is refused only if no port was free when it tried it.** A new server has had a host that lets it listen on a
port just if it does not listen there already. Each try of a port is an event, and so is everything that the other
connections do between two tries. Whatever has happened since, and whatever happens next:

* A reply by 227 or 229 says where the channel of the client listens: at the address that the client has reached, on a
  port of the configured range that nobody else holds. The channel may be gone again, if the connection is over.
* The port of a channel that is replaced or given up, or whose connection is over, is held by nobody. That is so after
  every transfer, after `ABOR`, `USER` with a name and `QUIT`, and after a negotiation that was confirmed.
* `PASV` over IPv4 and `EPSV` are answered by 425 just if each port of the range was held at the moment when the line
  tried it: by the control connections, by a passive channel, or by a listener that another line had just got. The
  channel may be the client's own, since it is kept until there is another one. The moments are different ones. -/
theorem ports_after {service : Service} {pipeline : σ}
    (hrun : ({ server := { service, pipeline } } : HostedServer σ).nextAll events = some h)
    (hnext : h.next event = some h') (hconnection : h.server.connection? i k = some c) :
    let here := c.client.here.ip
    let low := service.config.dataPortMin
    let high := service.config.dataPortMax
    ∃ c', h'.server.connection? i k = some c' ∧
      let replies := repliesOf (addedTo c.effects c'.effects)
      let codes := codesOf (addedTo c.effects c'.effects)
      (∀ reply ∈ replies, reply.code = 227 ∨ reply.code = 229 → ∃ port,
        reply.advertised? here = some ⟨here, port⟩ ∧ low ≤ port ∧ port ≤ high ∧
          (c'.phase.isOver = true ∨ c'.client.channel = .passive ⟨here, port⟩ c.client.peer.ip) ∧
          ∀ holder, h'.Holds holder port → holder = .connection i k) ∧
      (∀ port, c.port? = some port → c'.phase.isOver = true ∨ c'.client.channel ≠ c.client.channel →
        port ∉ h'.heldPorts) ∧
      ∀ circumstances input r, event = .occurs (.step (.connection i k (.execute circumstances))) →
        c.phase = .executing input → input.executed? service = some r →
        (r.GivesUp ∨ r.verb = "QUIT" ∨ Executed.Negotiated ⟨r, codes⟩ →
          ∀ port, c.port? = some port → port ∉ h'.heldPorts) ∧
        (c.client.loggedIn = true → (r.verb = "PASV" ∧ here.isIpv4 = true) ∨ r.verb = "EPSV" →
          (codes = [425] ↔ ∀ port, low ≤ port → port ≤ high →
            ∃ u, Tried { server := { service, pipeline } } events i k port u ∧ port ∈ u.heldPorts)) := by
  intro here low high
  -- the invariant holds of the state in between, whatever the events before have been
  have hs : Accounted service h := (accounted_new service pipeline).nextAll hrun
  obtain ⟨c', hafter, -⟩ := fares_next hnext hconnection
  refine ⟨c', hafter, fun reply hreply hcode => hs.told hnext hconnection hafter hreply hcode,
    fun port hport hgone => hs.released hnext hconnection hafter hport hgone, ?_⟩
  rintro circumstances input r rfl hphase hexecuted
  refine ⟨fun hreleases port hport =>
    hs.released_of_request hnext hconnection hafter hphase hexecuted hreleases hport, fun hin hpassive => ?_⟩
  -- 425 is answered when each port was refused, and each refusal goes back to its own moment
  rw [hs.refused_iff hnext hconnection hafter hphase hexecuted hin hpassive]
  exact forall₃_congr fun port _ _ => mem_refused_iff rfl hrun

/-! ## Clients in a harbour

Runs that show what the statement allows: two clients are told that their ports are held, at different moments, and a
client whose only port is its own. -/

/-- The server begins to listen for control connections. -/
def opening : Event :=
  .occurs (.step (.start ⟨.v4 .loopback, 2121⟩))

/-- A client sends a line, which is still to be executed. -/
def hails (k : Nat) (line : String) : List Event :=
  [.occurs (.step (.connection 0 k .look)), .occurs (.step (.connection 0 k (.hear (.line line.toUTF8.toList))))]

/-- The line of a client is executed. -/
def executes (k : Nat) : Event :=
  .occurs (.step (.connection 0 k (.execute {})))

/-- A client comes in and logs in. -/
def docks (k : Nat) : List Event :=
  [.occurs (.step (.accept 0 ⟨.v4 .loopback, .ofNat (40000 + k)⟩ ⟨.v4 .loopback, 2121⟩)),
      .occurs (.step (.connection 0 k .count)), .occurs (.step (.connection 0 k .greet))] ++
    ["USER ftp\r\n", "PASS x\r\n"].flatMap fun line => hails k line ++ [executes k]

/-- A new server with some ports for passive channels. -/
def harbour (low high : UInt16) : HostedServer Memory :=
  { server := { service := ⟨{ dataPortMin := low, dataPortMax := high }, .anonymous⟩, pipeline := {} } }

/-- Three clients and two ports. The first client has the first port, and the other two find it held. -/
def crowd : List Event :=
  opening :: docks 0 ++ docks 1 ++ docks 2 ++ hails 0 "PASV\r\n" ++ [.tries 0 0, executes 0] ++
    hails 1 "EPSV\r\n" ++ hails 2 "PASV\r\n" ++ [.tries 0 1, .tries 0 2]

/-- Then the first client gives its port up, and the third gets the second port before the second client tries it. -/
def crowded : List Event :=
  crowd ++ hails 0 "ABOR\r\n" ++ [executes 0, .tries 0 2, .tries 0 1]

/-- The third client is told the second port, and nobody else has it. The second client is refused, since each port was
held when it tried it, although the first port is free by then. -/
theorem ports_after_of_three :
    ∃ (h h' h'' : HostedServer Memory) (third third' second second' : Connection),
      (harbour 50000 50001).nextAll crowded = some h ∧ h.next (executes 2) = some h' ∧
      h'.next (executes 1) = some h'' ∧
      h.server.connection? 0 2 = some third ∧ h'.server.connection? 0 2 = some third' ∧
      codesOf (addedTo third.effects third'.effects) = [227] ∧
      (∀ holder, h'.Holds holder 50001 → holder = .connection 0 2) ∧
      h'.server.connection? 0 1 = some second ∧ h''.server.connection? 0 1 = some second' ∧
      codesOf (addedTo second.effects second'.effects) = [425] ∧ 50000 ∉ h'.heldPorts ∧
      ∀ port, 50000 ≤ port → port ≤ 50001 →
        ∃ u, Tried (harbour 50000 50001) (crowded ++ [executes 2]) 0 1 port u ∧ port ∈ u.heldPorts := by
  let told : Reply := ⟨227, "Entering Passive Mode (127,0,0,1,195,81)."⟩
  let input : Input := .line "EPSV\r\n".toUTF8.toList
  have hrun : ((harbour 50000 50001).nextAll crowded).any (fun h => (h.next (executes 2)).any fun h' =>
      (h'.next (executes 1)).any fun h'' =>
        (h.server.connection? 0 2).any fun third => (h'.server.connection? 0 2).any fun third' =>
          (h'.server.connection? 0 1).any fun second => (h''.server.connection? 0 1).any fun second' =>
            decide (third.client.here.ip = .v4 .loopback ∧ repliesOf (addedTo third.effects third'.effects) = [told] ∧
              second.client.loggedIn = true ∧ second.phase = .executing input ∧ 50000 ∉ h'.heldPorts ∧
              codesOf (addedTo second.effects second'.effects) = [425])) = true := by decide +kernel
  simp only [Option.any_eq_true, decide_eq_true_iff] at hrun
  obtain ⟨h, hh, h', hh', h'', hh'', third, hthird, third', hthird', second, hsecond, second', hsecond', hstate⟩ := hrun
  obtain ⟨hhere, hreplies, hin, hphase, hfree, hcodes⟩ := hstate
  -- what the third client is told
  obtain ⟨c, hc, htold, -⟩ := ports_after hh hh' hthird
  obtain rfl := Option.some.inj (hthird'.symm.trans hc)
  rw [hhere, hreplies] at htold
  obtain ⟨port, hadvertised, -, -, -, halone⟩ := htold _ (List.mem_singleton_self _) (.inl rfl)
  have hread : told.advertised? (.v4 .loopback) = some ⟨.v4 .loopback, 50001⟩ := by decide +kernel
  obtain rfl : port = 50001 := congrArg Endpoint.port (Option.some.inj (hadvertised.symm.trans hread))
  -- why the second client is refused
  have hfurther : (harbour 50000 50001).nextAll (crowded ++ [executes 2]) = some h' := by
    rw [nextAll_append_singleton, hh]
    exact hh'
  have hexecuted : input.executed? (harbour 50000 50001).server.service = some ⟨"EPSV", none⟩ := by decide +kernel
  obtain ⟨a, ha, -, -, hasked⟩ := ports_after hfurther hh'' hsecond
  obtain rfl := Option.some.inj (hsecond'.symm.trans ha)
  obtain ⟨-, hrefused⟩ := hasked _ input _ rfl hphase hexecuted
  have hheld := (hrefused hin (.inr rfl)).1 hcodes
  exact ⟨h, h', h'', third, third', second, second', hh, hh', hh'', hthird, hthird',
    congrArg (List.map Reply.code) hreplies, halone, hsecond, hsecond', hcodes, hfree, hheld⟩

/-- There is one port, and the only client has it. It asks once more and is refused, although nobody else holds the port
when it tries it, nor afterwards. -/
theorem own_port_is_in_the_way :
    ∃ (u h h' : HostedServer Memory) (c c' : Connection),
      (harbour 50000 50000).server.service.config.check = .ok () ∧
      (harbour 50000 50000).nextAll
        (opening :: docks 0 ++ hails 0 "PASV\r\n" ++ [.tries 0 0, executes 0] ++ hails 0 "PASV\r\n") = some u ∧
      u.due? 0 0 = some 50000 ∧ u.next (.tries 0 0) = some h ∧ h.next (executes 0) = some h' ∧
      h.server.connection? 0 0 = some c ∧ h'.server.connection? 0 0 = some c' ∧ c.client.loggedIn = true ∧
      c.phase = .executing (.line "PASV\r\n".toUTF8.toList) ∧ codesOf (addedTo c.effects c'.effects) = [425] ∧
      ¬∃ i k, (i, k) ≠ (0, 0) ∧ (u.Holds (.connection i k) 50000 ∨ h.Holds (.connection i k) 50000) := by
  have hrun : ((harbour 50000 50000).nextAll
      (opening :: docks 0 ++ hails 0 "PASV\r\n" ++ [.tries 0 0, executes 0] ++ hails 0 "PASV\r\n")).any (fun u =>
        (u.next (.tries 0 0)).any fun h => (h.next (executes 0)).any fun h' =>
          (h.server.connection? 0 0).any fun c => (h'.server.connection? 0 0).any fun c' =>
            decide (u.due? 0 0 = some 50000 ∧ u.server.port? (.connection 0 0) = some 50000 ∧
              h.server.port? (.connection 0 0) = some 50000 ∧ c.client.loggedIn = true ∧
              c.phase = .executing (.line "PASV\r\n".toUTF8.toList) ∧
              codesOf (addedTo c.effects c'.effects) = [425])) = true := by decide +kernel
  simp only [Option.any_eq_true, decide_eq_true_iff] at hrun
  obtain ⟨u, hu, h, hh, h', hh', c, hc, c', hc', hdue, hbefore, hafter, hin, hphase, hcodes⟩ := hrun
  refine ⟨u, h, h', c, c', by decide +kernel, hu, hdue, hh, hh', hc, hc', hin, hphase, hcodes, ?_⟩
  rintro ⟨i, k, hother, hholds⟩
  -- no port is held twice
  have haccounted : Accounted (harbour 50000 50000).server.service u := (accounted_new _ _).nextAll hu
  have hself : PortHolder.connection i k = .connection 0 0 :=
    hholds.elim (fun hu => haccounted.exclusive _ _ 50000 hu (.inl hbefore))
      fun hh' => (haccounted.next hh).exclusive _ _ 50000 hh' (.inl hafter)
  cases hself
  exact hother rfl

end HostedServer

end FtpIntake
