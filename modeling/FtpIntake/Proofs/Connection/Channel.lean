import FtpIntake.Proofs.Connection.Conversation
import FtpIntake.Proofs.Connection.Line
import FtpIntake.Proofs.Exchange.Channel
import FtpIntake.Proofs.Since

/-!
# One channel for one transfer

A client negotiates a data channel and then transfers something over it. In between it may send whatever it likes, and
everybody else may try to connect. What counts is where the channel leads and that it is used once.

Who is at the other end is up to the network. A client connects to a passive channel, and the server accepts a
connection only from the address of the client; an active channel is a target at this address, so whoever answers there
is the client. `Guarded` is what is checked when a channel is negotiated, and `Reaches` is what is assumed of the network:
somebody who is connected to has the address that was asked for.

* **`ChannelStep`** is what a request may make of the channel: keep it, give it up, or put a guarded one in its place.
  `Exchange.Channelled` says that a turn does one of these, with the codes that the client is told.
* **`Conversation.Prepared`** is the invariant. A channel that is not idle leads to the client, and some request has
  negotiated it and none since then has given it up.
* **`Conversation.channel_after`** and **`Conversation.transfer_after`** are what follows for every state that a
  conversation gets into: the first for where the data go, the second for how often a channel is used.

The proofs go in three rounds: from the commands to the request, from the request to the turn, and from the turn to
the conversation. Each round has a structure of its own and one lemma for each way that the code can go.
-/

namespace FtpIntake

open Decision (negotiations negotiationCodes)

/-! ## Requests that have to do with the channel

Two kinds: those that negotiate a channel, if the code says so, and those that give it up whatever they are answered.
-/

/-- Whether a request gives the channel up whatever comes of it. -/
def Request.GivesUp (r : Request) : Prop :=
  r.verb ∈ transferVerbs ∨ r.verb = "ABOR" ∨ (r.verb = "USER" ∧ r.argument ≠ none)

/-- What gives the channel up, told by verbs: the transfers, `ABOR`, and `USER` with a name. -/
theorem Request.not_givesUp_iff {r : Request} :
    ¬r.GivesUp ↔ r.verb ∉ ["STOR", "LIST", "NLST", "MLSD", "ABOR"] ∧ (r.verb = "USER" → r.argument = none) := by
  simp only [GivesUp, transferVerbs, List.mem_cons, List.not_mem_nil, or_false, ne_eq]
  tauto

/-- A request that was executed, and the codes of the replies to it. -/
structure Executed where
  request : Request
  codes : List Nat

/-- The request has negotiated a channel, and the client was told so. -/
def Executed.Negotiated (e : Executed) : Prop :=
  ∃ code, (e.request.verb, code) ∈ negotiations ∧ e.codes = [code]

namespace Command

/-- A command negotiates just if its verb is one of the four. -/
theorem negotiates_iff {line : String} {command : Command} (hverb : ofVerb? (Request.ofLine line).verb = some command) :
    command.negotiates = true ↔ (Request.ofLine line).verb ∈ negotiations.map Prod.fst := by
  rw [← any_ofVerb?_iff negotiates (by decide) (by decide), hverb, Option.any_some]

/-- A request gives the channel up if its command does. Whether `USER` does depends on its argument. -/
theorem givesUp_iff (line : String) :
    (Request.ofLine line).GivesUp ↔
      (ofVerb? (Request.ofLine line).verb).any transfers = true ∨
        ofVerb? (Request.ofLine line).verb = some (.control .abor) ∨
        (ofVerb? (Request.ofLine line).verb = some (.control .user) ∧ (Request.ofLine line).argument ≠ none) := by
  rw [@any_ofVerb?_iff transfers transferVerbs (by decide) (by decide), ofVerb?_eq_abor_iff,
    ofVerb?_eq_user_iff, Request.GivesUp]

/-- Giving up is no negotiation. -/
theorem notMem_negotiations_of_givesUp {r : Request} (h : r.GivesUp) : r.verb ∉ negotiations.map Prod.fst := by
  rcases h with htransfers | habor | ⟨huser, -⟩
  · have hdisjoint : ∀ verb ∈ transferVerbs, verb ∉ negotiations.map Prod.fst := by decide
    exact hdisjoint _ htransfers
  · rw [habor]
    decide
  · rw [huser]
    decide

end Command

/-! ## What a request makes of the channel

Three steps are possible, and the codes tell which it was: the channel is kept, given up, or replaced by one that was
negotiated. -/

/-- What the execution of a request may make of the data channel, where the codes are those of the replies to it. -/
inductive ChannelStep (r : Request) (codes : List Nat) (before after : Client) : Prop where
  | kept (hspares : ¬r.GivesUp)
      (hrefused : r.verb ∈ negotiations.map Prod.fst → ∃ code, codes = [code] ∧ code ∉ negotiationCodes)
      (hsame : after.channel = before.channel)
  | givenUp (hother : r.verb ∉ negotiations.map Prod.fst) (hidle : after.channel = .idle)
  | negotiated (hnegotiated : Executed.Negotiated ⟨r, codes⟩)
      (hguarded : after.channel.Guarded before.peer.ip before.here.ip)

/-- After a transfer the channel is idle, whichever step was taken. -/
theorem ChannelStep.idle_of_transfer {r : Request} {codes : List Nat} {before after : Client}
    (h : ChannelStep r codes before after) (htransfers : r.verb ∈ transferVerbs) : after.channel = .idle := by
  cases h with
  | kept hspares => exact absurd (.inl htransfers) hspares
  | givenUp hother hidle => exact hidle
  | negotiated hnegotiated =>
    obtain ⟨code, hmem, -⟩ := hnegotiated
    exact absurd (List.mem_map_of_mem hmem) (Command.notMem_negotiations_of_givesUp (.inl htransfers))

/-- Of the client after a step only the channel counts. -/
theorem ChannelStep.of_after {r : Request} {codes : List Nat} {before after after' : Client}
    (h : ChannelStep r codes before after) (hchannel : after'.channel = after.channel) :
    ChannelStep r codes before after' := by
  cases h with
  | kept hspares hrefused hsame => exact .kept hspares hrefused (hchannel.trans hsame)
  | givenUp hother hidle => exact .givenUp hother (hchannel.trans hidle)
  | negotiated hnegotiated hguarded =>
    refine .negotiated hnegotiated ?_
    rw [hchannel]
    exact hguarded

/-- A negotiation gets one reply, and one that is refused changes nothing. -/
theorem ChannelStep.reply_of_negotiation {r : Request} {codes : List Nat} {before after : Client}
    (h : ChannelStep r codes before after) (hnegotiates : r.verb ∈ negotiations.map Prod.fst) :
    ∃ code, codes = [code] ∧ (code ∉ negotiationCodes → after.channel = before.channel) := by
  cases h with
  | kept hspares hrefused hsame =>
    obtain ⟨code, hcodes, -⟩ := hrefused hnegotiates
    exact ⟨code, hcodes, fun _ => hsame⟩
  | givenUp hother => exact absurd hnegotiates hother
  | negotiated hnegotiated =>
    obtain ⟨code, hmem, hcodes⟩ := hnegotiated
    have hsuccess : ∀ row ∈ negotiations, row.2 ∈ negotiationCodes := by decide
    exact ⟨code, hcodes, fun hcode => absurd (hsuccess _ hmem) hcode⟩

/-- An effect that is a stranger's has nothing to do with data. -/
theorem Effect.not_opening_of_isQuiet {effect : Effect} (h : effect.isQuiet = true) :
    effect.isOpening = false ∧ effect.isExchange = false := by
  cases effect with
  | channelClosed | channelOpened | sent | called => exact Bool.noConfusion h
  | stateReset | replyQueued | logged => exact ⟨rfl, rfl⟩

namespace Exchange

variable {σ : Type}

/-- The execution of a request has added these effects, and has made of the channel what it may. -/
structure Channelled (x x' : Exchange σ) (r : Request) (added : List Effect) : Prop where
  history : x'.history = x.history ++ added
  ends : x'.client.identity.1 = x.client.identity.1
  uses : Uses x added
  opens : .channelOpened ∈ added → r.verb ∈ transferVerbs
  step : ChannelStep r (codesOf added) x.client x'.client

/-- A command that decides what becomes of the client and then answers does to the channel what it decides. -/
theorem channelled_answer (x : Exchange σ) {r : Request} (client : Client) (reply : Reply)
    (hends : client.identity.1 = x.client.identity.1) (hstep : ChannelStep r [reply.code] x.client client) :
    ∃ added, Channelled x (({ x with client } : Exchange σ).reset.answer reply).2 r added := by
  have huses : Uses x [.stateReset, .replyQueued reply] :=
    ⟨Nat.le_of_ble_eq_true rfl, by simp, by simp [Effect.isExchange]⟩
  have hchannel : (({ x with client } : Exchange σ).reset.answer reply).2.client.channel = client.channel := by
    rw [answer_snd]
    rfl
  refine ⟨_, history_reset_answer x client reply, ?_, huses, by simp, ?_⟩
  · rw [identity_answer, identity_reset]
    exact hends
  · exact hstep.of_after hchannel

/-- A request that is refused leaves the channel alone, and there is none if it would have had to give it up. -/
theorem channelled_refused (x : Exchange σ) {r : Request} {reply : Reply} (hcode : reply.code ∉ negotiationCodes)
    (hidle : r.GivesUp → x.client.channel = .idle) : ∃ added, Channelled x (x.reset.say reply).2 r added := by
  refine channelled_answer x x.client reply rfl ?_
  by_cases hgives : r.GivesUp
  · exact .givenUp (Command.notMem_negotiations_of_givesUp hgives) (hidle hgives)
  · exact .kept hgives (fun _ => ⟨reply.code, rfl, hcode⟩) rfl

/-- A control command opens no data connection, and does one of the three things to the channel. -/
theorem channelled_control (x : Exchange σ) (service : Service) {line : String} {command : ControlCommand}
    (hverb : Command.ofVerb? (Request.ofLine line).verb = some (.control command)) :
    ∃ added, Channelled x (x.control service.control command (Request.ofLine line).argument).2
      (Request.ofLine line) added := by
  have hnegotiates := Command.negotiates_iff hverb
  obtain ⟨user, loggedIn, channel, hclient⟩ :=
    Decision.exists_make_client service.control x.circumstances.bind x.client command (Request.ofLine line).argument
  rw [control_snd]
  refine channelled_answer x _ _ (by rw [hclient]; rfl) ?_
  cases hkind : (Command.control command).negotiates with
  | false =>
    have hother : (Request.ofLine line).verb ∉ negotiations.map Prod.fst := by
      rw [← hnegotiates, hkind]
      exact Bool.false_ne_true
    -- of those that keep the channel, `ABOR` is none, and `USER` only if it names nobody
    rcases Decision.channel_make x.circumstances.bind x.client service.control (Request.ofLine line).argument hkind with
      hidle | ⟨hsame, habor, huser⟩
    · exact .givenUp hother hidle
    · refine .kept ?_ (fun h => absurd h hother) hsame
      rw [Command.givesUp_iff, hverb]
      rintro (htransfers | hfound | ⟨hfound, hargument⟩)
      · exact Bool.noConfusion htransfers
      · cases hfound
        exact habor rfl
      · cases hfound
        exact hargument (huser rfl)
  | true =>
    obtain ⟨code, hnegotiation, hmem⟩ :=
      Decision.negotiation_make x.circumstances.bind x.client service.control (Request.ofLine line).argument hkind
    cases hnegotiation with
    | succeeded hcode hguarded =>
      have hrow := hmem ((Request.ofLine line).verb, .control command) (Command.mem_table_of_ofVerb? hverb) rfl
      exact .negotiated ⟨code, hrow, congrArg (fun c => [c]) hcode⟩ hguarded
    | failed hcode hsame =>
      refine .kept (fun hgives => ?_) (fun _ => ⟨_, rfl, hcode⟩) hsame
      exact Command.notMem_negotiations_of_givesUp hgives (hnegotiates.1 hkind)

variable [Pipeline σ]

/-- Of the other commands the transfers give the channel up, and the rest keep it. -/
theorem channelled_run (x : Exchange σ) (service : Service) {line : String} {command : Command}
    (hverb : Command.ofVerb? (Request.ofLine line).verb = some command) (hcontrol : command.isControl = false) :
    ∃ added, Channelled x (x.run service.store command (Request.ofLine line).argument).2
      (Request.ofLine line) added := by
  have hends := congrArg Prod.fst (identity_run x service.store command (Request.ofLine line).argument)
  have hother : (Request.ofLine line).verb ∉ negotiations.map Prod.fst := by
    rw [← Command.negotiates_iff hverb]
    cases command with
    | control command => exact Bool.noConfusion hcontrol
    | _ => exact Bool.false_ne_true
  obtain ⟨added, hhistory, huses, ⟨htransfers, hidle⟩ | ⟨htransfers, hsame, hnone⟩⟩ :=
    channel_run x service.store (Request.ofLine line).argument hcontrol
  · have hmem := Command.mem_transferVerbs hverb htransfers
    exact ⟨added, hhistory, hends, huses, fun _ => hmem, .givenUp hother hidle⟩
  · -- no transfer: the channel is as it was, and the verb is none of those that give it up
    refine ⟨added, hhistory, hends, huses, fun hopened => absurd hopened hnone, ?_⟩
    refine .kept ?_ (fun h => absurd h hother) hsame
    rw [Command.givesUp_iff, hverb, Option.any_some, htransfers]
    rintro (hfalse | hfound | ⟨hfound, -⟩)
    · exact Bool.noConfusion hfalse
    · cases hfound
      exact Bool.noConfusion hcontrol
    · cases hfound
      exact Bool.noConfusion hcontrol

/-- **What the execution of a request makes of the channel**, one case for each way that it can go. -/
theorem channelled_dispatch (x : Exchange σ) (service : Service) (line : String)
    (hidle : x.client.loggedIn = false → x.client.channel = .idle) :
    ∃ added, Channelled x (x.dispatch service (Request.ofLine line)).2 (Request.ofLine line) added := by
  have hway := x.dispatched service (Request.ofLine line)
  generalize x.dispatch service (Request.ofLine line) = result at hway
  cases hway with
  | unknown hverb =>
    refine channelled_refused x (show 500 ∉ negotiationCodes by decide) fun hgives => ?_
    rw [Command.givesUp_iff, hverb] at hgives
    simp at hgives
  | refused hverb hout hclosed => exact channelled_refused x (show 530 ∉ negotiationCodes by decide) fun _ => hidle hout
  | controlled hverb hopen => exact channelled_control x service hverb
  | ran hverb hcontrol hopen => exact channelled_run x service hverb hcontrol

omit [Pipeline σ] in
/-- The line is logged before it is executed, which changes nothing about the channel. -/
theorem Channelled.of_begun {x x' : Exchange σ} {line : String} {r : Request} {added : List Effect}
    (h : Channelled (x.begun line) x' r added) :
    Channelled x x' r (.logged (LogRecord.executed (toString x.client.peer) line) :: added) := by
  have hends : x'.client.identity.1 = x.client.identity.1 := h.ends
  have huses : Uses x added := ⟨h.uses.once, h.uses.negotiated, h.uses.exchanged⟩
  -- the step is the same from the client before the line was begun, since its channel is
  have hstep : ChannelStep r (codesOf added) x.client x'.client := by
    cases h.step with
    | kept hspares hrefused hsame => exact .kept hspares hrefused hsame
    | givenUp hother hidle => exact .givenUp hother hidle
    | negotiated hnegotiated hguarded => exact .negotiated hnegotiated hguarded
  have hbegun := (x.writes_begun line).history
  generalize LogRecord.executed (toString x.client.peer) line = record at hbegun ⊢
  have hhistory : x'.history = x.history ++ .logged record :: added := by
    rw [h.history, hbegun, List.append_assoc]
    rfl
  refine ⟨hhistory, hends, ⟨?_, fun hopened => ?_, fun effect heffect hexchange => ?_⟩, fun hopened => ?_, hstep⟩
  · rw [List.countP_cons_of_neg Bool.false_ne_true]
    exact huses.once
  · exact huses.negotiated (by simpa using hopened)
  · rcases List.mem_cons.1 heffect with rfl | heffect
    · exact Bool.noConfusion hexchange
    · exact huses.exchanged effect heffect hexchange
  · exact h.opens (by simpa using hopened)

/-- **A request that is executed takes one of the three steps.** A client that is not logged in has no channel to
begin with. -/
theorem channelled_take {x : Exchange σ} {service : Service} {input : Input} {r : Request}
    (hexecuted : input.executed? service = some r) (hidle : x.client.loggedIn = false → x.client.channel = .idle) :
    ∃ added, Channelled x (x.take service input).2 r added := by
  rcases x.take_cases service input with ⟨line, hline, heq⟩ | ⟨hnone, -⟩
  · obtain rfl : Request.ofLine line = r := Option.some.inj (hline.symm.trans hexecuted)
    obtain ⟨added, hchannelled⟩ := channelled_dispatch (x.begun line) service line hidle
    rw [heq]
    exact ⟨_, hchannelled.of_begun⟩
  · cases hnone.symm.trans hexecuted

/-- What is not executed leaves the client as it was, but for a reply that may be on its way. -/
theorem channel_take_of_none {x : Exchange σ} {service : Service} {input : Input}
    (hexecuted : input.executed? service = none) :
    ∃ added, (x.take service input).2.history = x.history ++ added ∧ (∀ effect ∈ added, effect.isQuiet = true) ∧
      (x.take service input).2.client.identity = x.client.identity ∧
      (x.take service input).2.client.channel = x.client.channel := by
  rcases x.take_cases service input with ⟨line, hline, -⟩ | ⟨-, heq | heq⟩
  · cases hline.symm.trans hexecuted
  · rw [heq]
    exact ⟨[], (List.append_nil _).symm, nofun, rfl, rfl⟩
  · rw [heq]
    refine ⟨_, history_answer x Reply.tooLong, by simp [Effect.isQuiet], identity_answer x _, ?_⟩
    rw [answer_snd]

end Exchange

/-! ## The channel along a conversation

A channel that is not idle has been negotiated by some request, and no request since then has given it up or replaced
it. That is an invariant of the requests that were executed, with their codes. -/

namespace Conversation

open Exchange

variable {σ : Type} [Pipeline σ]

/-- What a turn adds to the record. -/
def addedBy (service : Service) (c : Conversation) (turn : Turn σ) : List Effect :=
  addedTo c.effects (c.take service turn).effects

/-- The request that is executed in a turn, with the codes of the replies to it. -/
def executedBy? (service : Service) (c : Conversation) (turn : Turn σ) : Option Executed :=
  match c.verdict with
  | .goesOn => (turn.input.executed? service).map fun r => ⟨r, codesOf (c.addedBy service turn)⟩
  | _ => none

/-- The requests that are executed in some turns, in order. -/
def allExecuted (service : Service) (c : Conversation) : List (Turn σ) → List Executed
  | [] => []
  | turn :: turns => (c.executedBy? service turn).toList ++ (c.take service turn).allExecuted service turns

/-- A channel that is not idle leads to the client, and it was negotiated and has not been given up since. -/
structure Prepared (peer here : Endpoint) (past : List Executed) (c : Conversation) : Prop where
  ends : c.client.identity.1 = (peer, here)
  guarded : c.client.channel.Guarded peer.ip here.ip
  since : c.client.channel ≠ .idle → Since Executed.Negotiated (fun e => ¬e.request.GivesUp) past

/-- What a turn has added is what its exchange has. -/
theorem addedBy_eq {service : Service} {c : Conversation} (h : c.verdict = .goesOn) {turn : Turn σ}
    {added : List Effect}
    (hhistory : ((c.enter turn).take service turn.input).2.history = (c.enter turn).history ++ added) :
    c.addedBy service turn = added := by
  refine addedTo_eq ?_
  rw [(take_of_goesOn service h turn).2.1]
  exact hhistory

/-- A turn of a conversation that goes on executes a request, or else it does nothing but answer. -/
theorem turn_cases (service : Service) {c : Conversation}
    (hidle : c.client.loggedIn = false → c.client.channel = .idle) (turn : Turn σ) :
    (∃ r, turn.input.executed? service = some r ∧
        c.executedBy? service turn = some ⟨r, codesOf (c.addedBy service turn)⟩ ∧
        Channelled (c.enter turn) ((c.enter turn).take service turn.input).2 r (c.addedBy service turn) ∧
        (c.take service turn).client = ((c.enter turn).take service turn.input).2.client) ∨
      (c.executedBy? service turn = none ∧ (∀ effect ∈ c.addedBy service turn, effect.isQuiet = true) ∧
        (c.take service turn).client.identity = c.client.identity ∧
        (c.take service turn).client.channel = c.client.channel) := by
  by_cases hgoes : c.verdict = .goesOn
  · obtain ⟨hclient, -⟩ := take_of_goesOn service hgoes turn
    have hexecutedBy : c.executedBy? service turn =
        (turn.input.executed? service).map fun r => ⟨r, codesOf (c.addedBy service turn)⟩ := by
      unfold executedBy?
      rw [hgoes]
    cases hexecuted : turn.input.executed? service with
    | some r =>
      obtain ⟨added, hchannelled⟩ := channelled_take (x := c.enter turn) hexecuted hidle
      obtain rfl := addedBy_eq hgoes hchannelled.history
      rw [hexecuted] at hexecutedBy
      exact .inl ⟨r, rfl, hexecutedBy, hchannelled, hclient⟩
    | none =>
      obtain ⟨added, hhistory, hquiet, hidentity, hchannel⟩ := channel_take_of_none (x := c.enter turn) hexecuted
      obtain rfl := addedBy_eq hgoes hhistory
      rw [hexecuted] at hexecutedBy
      rw [hclient]
      exact .inr ⟨hexecutedBy, hquiet, hidentity, hchannel⟩
  · -- a conversation that has ended does nothing more
    have htake := take_of_ended service hgoes turn
    have hnothing : c.addedBy service turn = [] := by
      rw [addedBy, htake]
      exact addedTo_eq (List.append_nil _).symm
    have hexecutedBy : c.executedBy? service turn = none := by
      unfold executedBy?
      split
      · next hverdict => exact absurd hverdict hgoes
      · rfl
    rw [hnothing, htake]
    exact .inr ⟨hexecutedBy, nofun, rfl, rfl⟩

/-- **A turn keeps what is said of the channel**, whoever may have tried to connect. -/
theorem Prepared.take {service : Service} {peer here : Endpoint} {past : List Executed} {c : Conversation}
    (h : Prepared peer here past c) (hidle : c.client.loggedIn = false → c.client.channel = .idle) (turn : Turn σ) :
    Prepared peer here (past ++ (c.executedBy? service turn).toList) (c.take service turn) := by
  rcases turn_cases service hidle turn with ⟨r, -, hexecuted, hchannelled, hclient⟩ | ⟨hexecuted, -, hidentity, hchannel⟩
  · have hends : (c.take service turn).client.identity.1 = (peer, here) := by
      rw [hclient, hchannelled.ends]
      exact h.ends
    have hstep := hchannelled.step
    rw [hexecuted, Option.toList_some]
    rw [← hclient] at hstep
    cases hstep with
    | kept hspares hrefused hsame =>
      -- whoever has negotiated the channel is further back, and this request is one that spares it
      refine ⟨hends, ?_, fun hbusy => since_append_singleton.2 (.inr ⟨h.since ?_, hspares⟩)⟩
      · rw [hsame]
        exact h.guarded
      · rw [← show _ = c.client.channel from hsame]
        exact hbusy
    | givenUp hother hidle =>
      refine ⟨hends, ?_, fun hbusy => absurd hidle hbusy⟩
      rw [hidle]
      trivial
    | negotiated hnegotiated hguarded =>
      -- the guard was put up against the ends of this connection, which never change
      refine ⟨hends, ?_, fun _ => since_append_singleton.2 (.inl hnegotiated)⟩
      have hpeer : c.client.peer = peer := congrArg Prod.fst h.ends
      have hhere : c.client.here = here := congrArg Prod.snd h.ends
      rw [← hpeer, ← hhere]
      exact hguarded
  · rw [hexecuted, Option.toList_none, List.append_nil]
    refine ⟨(congrArg Prod.fst hidentity).trans h.ends, ?_, fun hbusy => h.since ?_⟩
    · rw [hchannel]
      exact h.guarded
    · rw [← hchannel]
      exact hbusy

/-- The invariant holds over all turns. Induction on the turns, the requests growing with them. -/
theorem Prepared.after {service : Service} {peer here : Endpoint} {past : List Executed} {c : Conversation}
    (h : Prepared peer here past c) (hvouched : Vouched service.credentials c) (turns : List (Turn σ)) :
    Prepared peer here (past ++ c.allExecuted service turns) (c.after service turns) := by
  induction turns generalizing c past with
  | nil =>
    rw [allExecuted, List.append_nil]
    exact h
  | cons turn turns ih =>
    rw [allExecuted, ← List.append_assoc]
    exact ih (h.take hvouched.idle turn) (hvouched.take turn)

/-- A client that has just been let in has no channel. -/
theorem prepared_admitted (peer here : Endpoint) (outgoing : Outgoing) (effects : List Effect) :
    Prepared peer here [] (admitted peer here outgoing effects) :=
  ⟨rfl, trivial, fun hbusy => absurd rfl hbusy⟩

/-- **So does a whole conversation.** -/
theorem prepared_after (service : Service) (peer here : Endpoint) (outgoing : Outgoing) (effects : List Effect)
    (turns : List (Turn σ)) :
    Prepared peer here ((admitted peer here outgoing effects).allExecuted service turns)
      ((admitted peer here outgoing effects).after service turns) :=
  (prepared_admitted peer here outgoing effects).after
    (vouched_admitted service.credentials peer here outgoing effects) turns

/--
**The data go to the client and come from the client.** In every state that a conversation gets into, an active channel
has an unprivileged port of the client as its target, and a passive one is on the address that the client has connected
to, and for the client alone. There is a channel only while the client is logged in.

Bytes go over a data connection in a turn only if the other side of it is the client. For an active channel this
supposes that connecting to its target leads there.
-/
theorem channel_after (service : Service) (peer here : Endpoint) (outgoing : Outgoing) (effects : List Effect)
    (turns : List (Turn σ)) :
    let c := (admitted peer here outgoing effects).after service turns
    (∀ target, c.client.channel = .active target → target.ip = peer.ip ∧ 1024 ≤ target.port.toNat) ∧
    (∀ bound owner, c.client.channel = .passive bound owner → owner = peer.ip ∧ bound.ip = here.ip) ∧
    (c.client.channel ≠ .idle → c.client.loggedIn = true) ∧
    ∀ turn : Turn σ, turn.circumstances.dial.Reaches c.client.channel →
      ∀ effect ∈ c.addedBy service turn, effect.isExchange = true →
        ∃ stream, turn.circumstances.dial = .connected peer.ip stream := by
  intro c
  have hvouched : Vouched service.credentials c := (vouched_admitted _ peer here outgoing effects).after turns
  have hguarded : c.client.channel.Guarded peer.ip here.ip :=
    (prepared_after service peer here outgoing effects turns).guarded
  refine ⟨fun target hactive => ?_, fun bound owner hpassive => ?_, fun hbusy => ?_,
    fun turn hreaches effect heffect hexchange => ?_⟩
  · rw [hactive] at hguarded
    exact ⟨hguarded.1, UInt16.le_iff_toNat_le.1 hguarded.2⟩
  · rw [hpassive] at hguarded
    exact hguarded
  · cases hin : c.client.loggedIn with
    | true => rfl
    | false => exact absurd (hvouched.idle hin) hbusy
  · -- data are sent or read only over a connection that the turn has opened
    rcases turn_cases service hvouched.idle turn with ⟨r, -, -, hchannelled, -⟩ | ⟨-, hquiet, -⟩
    · obtain ⟨stream, hopen⟩ := hchannelled.uses.exchanged effect heffect hexchange
      exact ⟨stream, hguarded.peer_of_openWith hopen hreaches⟩
    · exact absurd ((Effect.not_opening_of_isQuiet (hquiet effect heffect)).2.symm.trans hexchange) Bool.false_ne_true

/-- The target of a `PORT` is where the next listing goes. -/
theorem channel_after_of_port :
    let service : Service := { config := {}, credentials := .anonymous }
    let peer : Endpoint := ⟨.v4 .loopback, 40000⟩
    let here : Endpoint := ⟨.v4 .loopback, 2121⟩
    let turn (line : String) : Turn Memory :=
      ⟨.line line.toUTF8.toList, Tree.empty, {}, {}, { dial := .connected peer.ip {} }⟩
    let c := (admitted peer here {} []).after service [turn "USER ftp", turn "PASS x", turn "PORT 127,0,0,1,4,1"]
    c.client.channel = .active ⟨peer.ip, 1025⟩ ∧ (turn "LIST").circumstances.dial.Reaches c.client.channel ∧
      ∃ effect ∈ c.addedBy service (turn "LIST"), effect.isExchange = true ∧
        ∃ stream, (turn "LIST").circumstances.dial = .connected peer.ip stream := by
  intro service peer here turn c
  have hrun : c.client.channel = .active ⟨peer.ip, 1025⟩ ∧
      (c.addedBy service (turn "LIST")).any Effect.isExchange = true := by decide +kernel
  obtain ⟨hchannel, hany⟩ := hrun
  -- who is reached under an active channel's address is the client
  have hreaches : (turn "LIST").circumstances.dial.Reaches c.client.channel := by
    intro target found stream hactive hdial
    rw [hchannel] at hactive
    cases hactive
    cases hdial
    rfl
  obtain ⟨effect, heffect, hexchange⟩ := List.any_eq_true.1 hany
  have hafter := channel_after service peer here {} [] [turn "USER ftp", turn "PASS x", turn "PORT 127,0,0,1,4,1"]
  exact ⟨hchannel, hreaches, effect, heffect, hexchange,
    hafter.2.2.2 (turn "LIST") hreaches effect heffect hexchange⟩

/--
**A channel serves one transfer.** In every state that a conversation gets into, a turn opens at most one data
connection. If it does, it executes `STOR`, `LIST`, `NLST` or `MLSD`, and before it some request has negotiated the
channel with success, and none since then was one of the four, `ABOR`, or a `USER` with an argument.

After one of the four the channel is idle, whatever has come of it. A request to negotiate is answered by one reply, and
if that is not 227, 229 or 200 the channel is what it was.
-/
theorem transfer_after (service : Service) (peer here : Endpoint) (outgoing : Outgoing) (effects : List Effect)
    (turns : List (Turn σ)) (turn : Turn σ) :
    let c := (admitted peer here outgoing effects).after service turns
    let past := (admitted peer here outgoing effects).allExecuted service turns
    let added := c.addedBy service turn
    added.countP Effect.isOpening ≤ 1 ∧
    (.channelOpened ∈ added → ∃ r, turn.input.executed? service = some r ∧ r.verb ∈ ["STOR", "LIST", "NLST", "MLSD"] ∧
      ∃ before negotiated between, past = before ++ negotiated :: between ∧
        (∃ code, (negotiated.request.verb, code) ∈ [("PASV", 227), ("EPSV", 229), ("PORT", 200), ("EPRT", 200)] ∧
          negotiated.codes = [code]) ∧
        ∀ e ∈ between, e.request.verb ∉ ["STOR", "LIST", "NLST", "MLSD", "ABOR"] ∧
          (e.request.verb = "USER" → e.request.argument = none)) ∧
    ∀ r, c.verdict = .goesOn → turn.input.executed? service = some r →
      (r.verb ∈ ["STOR", "LIST", "NLST", "MLSD"] → (c.take service turn).client.channel = .idle) ∧
      (r.verb ∈ ["PASV", "EPSV", "PORT", "EPRT"] → ∃ code, codesOf added = [code] ∧
        (code ∉ [227, 229, 200] → (c.take service turn).client.channel = c.client.channel)) := by
  intro c past added
  have hvouched : Vouched service.credentials c := (vouched_admitted _ peer here outgoing effects).after turns
  have h : Prepared peer here past c := prepared_after service peer here outgoing effects turns
  rcases turn_cases service hvouched.idle turn with
    ⟨r, hexecuted, -, hchannelled, hclient⟩ | ⟨hexecutedBy, hquiet, -, -⟩
  · have hstep := hchannelled.step
    rw [← hclient] at hstep
    refine ⟨hchannelled.uses.once, fun hopened => ?_, fun r' _ hexecuted' => ?_⟩
    · -- what is opened is not idle, so the invariant knows who has negotiated it
      have hbusy : c.client.channel ≠ .idle := by
        intro hidle
        have hnegotiated := hchannelled.uses.negotiated hopened
        rw [show (c.enter turn).client.channel = .idle from hidle] at hnegotiated
        exact Bool.noConfusion hnegotiated
      obtain ⟨before, negotiated, between, hpast, hnegotiated, hspares⟩ := h.since hbusy
      exact ⟨r, hexecuted, hchannelled.opens hopened, before, negotiated, between, hpast, hnegotiated,
        fun e he => Request.not_givesUp_iff.1 (hspares e he)⟩
    · obtain rfl : r = r' := Option.some.inj (hexecuted.symm.trans hexecuted')
      exact ⟨hstep.idle_of_transfer, hstep.reply_of_negotiation⟩
  · have hnothing : added.countP Effect.isOpening = 0 := by
      rw [List.countP_eq_zero]
      intro effect heffect hopening
      exact absurd ((Effect.not_opening_of_isQuiet (hquiet effect heffect)).1.symm.trans hopening) Bool.false_ne_true
    refine ⟨hnothing.symm ▸ Nat.zero_le 1, fun hopened => ?_, fun r hgoes hexecuted => ?_⟩
    · exact Bool.noConfusion (hquiet _ hopened)
    · unfold executedBy? at hexecutedBy
      rw [hgoes, hexecuted] at hexecutedBy
      cases hexecutedBy

/-- A listing uses up the channel that was negotiated two requests before it, and the next listing has none. -/
theorem transfer_after_of_epsv :
    let service : Service := { config := {}, credentials := .anonymous }
    let peer : Endpoint := ⟨.v4 .loopback, 40000⟩
    let here : Endpoint := ⟨.v4 .loopback, 2121⟩
    let turn (line : String) : Turn Memory :=
      ⟨.line line.toUTF8.toList, Tree.empty, {}, {}, { dial := .connected peer.ip {}, bind := fun e => some e.port }⟩
    let turns := [turn "USER ftp", turn "PASS x", turn "EPSV", turn "NOOP"]
    let c := (admitted peer here {} []).after service turns
    (c.addedBy service (turn "LIST")).any Effect.isOpening = true ∧
      (c.take service (turn "LIST")).client.channel = .idle ∧
      codesOf ((c.take service (turn "LIST")).addedBy service (turn "LIST")) = [503] := by
  intro service peer here turn turns c
  have hrun : c.verdict = .goesOn ∧ (turn "LIST").input.executed? service = some ⟨"LIST", none⟩ ∧
      (c.addedBy service (turn "LIST")).any Effect.isOpening = true ∧
      codesOf ((c.take service (turn "LIST")).addedBy service (turn "LIST")) = [503] := by decide +kernel
  obtain ⟨hverdict, hexecuted, hopened, hcodes⟩ := hrun
  have hafter := transfer_after service peer here {} [] turns (turn "LIST")
  exact ⟨hopened, (hafter.2.2 _ hverdict hexecuted).1 (by decide), hcodes⟩

end Conversation

end FtpIntake
