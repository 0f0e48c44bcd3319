import FtpIntake.Pipeline.Memory
import FtpIntake.Proofs.Connection.Conversation
import FtpIntake.Proofs.Connection.Line
import Mathlib.Data.List.Forall2

/-!
# A client stays in step

A client sends lines and reads replies, and has to know which reply belongs to which line. It knows it by counting:
the final reply to a line is the first one that is not a mark, so the next reply belongs to the next line. One reply too
many, or one that the client cuts in two, would put the two sides out of step for good.

* **`Conversation.InStep`** is the invariant. What the client was sent are the replies that were queued, each of them
  framed, and nothing else is on its way. `InStep.take` keeps it over a line, and `InStep.after` over any lines.
* **`Conversation.decode_written`** is what follows for the bytes of a whole conversation.

The connection has to be obliging here, that is, it takes some byte of every offer. If it does not, the server gives
up with part of a reply behind it, and nothing can be said of what the client makes of that. The lines must not have a
line feed inside them, which is what makes them lines.
-/

namespace FtpIntake

open Text

/-- What is heard of some lines: everything up to the first `QUIT` that is executed, and nothing from a line on that is
not in UTF-8. -/
def heard (service : Service) : List Bytes → List String
  | [] => []
  | bytes :: rest =>
    match String.fromUTF8? ⟨bytes.toArray⟩ with
    | none => []
    | some line => line :: if service.QuitsOn line then [] else heard service rest

namespace Conversation

open Exchange

/-- A connection that was let in and greeted. How it takes what it is sent is up to it. -/
def greeted (peer here : Endpoint) (respond : (offers taken : Nat) → WriteResponse) : Conversation :=
  let client : Client := { peer, here, outgoing := { receiver := { respond } } }
  { client := (client.answer Reply.welcome).2
    effects := .replyQueued Reply.welcome :: (Connection.accepted peer here).effects }

/-- What was written to the client. -/
def written (c : Conversation) : Bytes :=
  c.client.outgoing.receiver.taken

/-- Everything that was to be sent has been, and it was these replies. -/
structure InStep (c : Conversation) (replies : List Reply) : Prop where
  record : repliesOf c.effects.reverse = replies
  stream : c.client.outgoing.stream = replies.flatMap Client.wireBytes
  settled : c.client.outgoing.queued = []
  framed : ∀ r ∈ replies, r.IsFramed
  obliging : c.client.outgoing.receiver.Obliging
  plain : c.client.Plain

theorem InStep.written {c : Conversation} {replies : List Reply} (h : InStep c replies) :
    c.written = replies.flatMap Client.wireBytes := by
  rw [← h.stream, Outgoing.stream, h.settled, List.append_nil]
  rfl

theorem inStep_greeted (peer here : Endpoint) {respond : (offers taken : Nat) → WriteResponse}
    (hobliging : (Receiver.mk respond 0 []).Obliging) : InStep (greeted peer here respond) [Reply.welcome] := by
  -- a conversation begins with a single reply to a client that has just come
  let x : Exchange Unit :=
    { client := { peer, here, outgoing := { receiver := { respond } } }, tree := Tree.empty, surroundings := {},
      pipeline := (), circumstances := {} }
  have hsends := sends_answer x Reply.welcome
  have hwelcome : Reply.welcome.IsFramed := .of_oneLine (by decide) (oneLine_literal rfl)
  have hclient : (greeted peer here respond).client = (x.answer Reply.welcome).2.client := rfl
  have hplain : (x.answer Reply.welcome).2.client.Plain := by
    rw [answer_snd]
    exact ⟨nofun, Path.madeOf_root⟩
  refine ⟨rfl, ?_, ?_, List.forall_mem_singleton.2 hwelcome, ?_, ?_⟩ <;> rw [hclient]
  · exact hsends.stream
  · exact hsends.settled (hsends.obliging hobliging)
  · exact hsends.obliging_iff.2 hobliging
  · exact hplain

variable {σ : Type} [Pipeline σ] (service : Service)

theorem after_of_ended {c : Conversation} (h : c.verdict ≠ .goesOn) (turns : List (Turn σ)) :
    c.after service turns = c := by
  induction turns with
  | nil => rfl
  | cons turn turns ih =>
    show (c.take service turn).after service turns = c
    rw [take_of_ended service h, ih]

/-- **A line keeps the client in step.** -/
theorem InStep.take {c : Conversation} {replies : List Reply} (h : InStep c replies) (hverdict : c.verdict = .goesOn)
    {turn : Turn σ} {bytes : Bytes} (hinput : turn.input = .line bytes) (hline : 10 ∉ bytes.dropLast) {line : String}
    (hread : String.fromUTF8? ⟨bytes.toArray⟩ = some line) :
    ∃ added, InStep (c.take service turn) (replies ++ added) ∧ IsReplyTo service line (added.map Reply.code) ∧
      (c.take service turn).verdict = service.verdictOn line := by
  have htext := feed_notMem_of_fromUTF8? hread hline
  have huser := user_take (x := c.enter turn) service hread htext h.plain.user
  obtain ⟨added, hhandled⟩ := handled_take (x := c.enter turn) service hread htext h.plain h.obliging h.settled
  -- a conversation that goes on and hears a line takes the turn as an exchange does
  have htake : c.take service turn =
      { client := ((c.enter turn).take service (.line bytes)).2.client
        effects := ((c.enter turn).take service (.line bytes)).2.effects
        verdict := ((c.enter turn).take service (.line bytes)).1
        executed := c.executed ++ ((Input.line bytes).executed? service).toList } := by
    unfold Conversation.take
    rw [hverdict, hinput]
  rw [htake]
  refine ⟨repliesOf added, ⟨?_, ?_, hhandled.settled, ?_, ?_, huser, hhandled.place⟩, hhandled.answer, hhandled.verdict⟩
  · -- the record: what was queued before, and then what this line has brought
    show repliesOf ((c.enter turn).take service (.line bytes)).2.history = _
    rw [hhandled.history, repliesOf_append, ← h.record]
    rfl
  · -- the bytes: likewise, since nothing was on its way
    show ((c.enter turn).take service (.line bytes)).2.client.outgoing.stream = _
    rw [hhandled.stream, List.flatMap_append, ← h.stream]
    rfl
  · exact List.forall_mem_append.2 ⟨h.framed, hhandled.framed⟩
  · exact hhandled.obliging_iff.2 h.obliging

/-- **Lines keep the client in step**, each by the replies to it. Induction on the lines. -/
theorem InStep.after {c : Conversation} {replies : List Reply} (h : InStep c replies) (hverdict : c.verdict = .goesOn)
    {lines : List Bytes} (hlines : ∀ bytes ∈ lines, 10 ∉ bytes.dropLast) {turns : List (Turn σ)}
    (hinputs : turns.map Turn.input = lines.map .line) :
    ∃ groups : List (List Reply), InStep (c.after service turns) (replies ++ groups.flatten) ∧
      List.Forall₂ (fun line group => IsReplyTo service line (group.map Reply.code)) (heard service lines) groups := by
  induction lines generalizing c replies turns with
  | nil =>
    rw [List.map_nil, List.map_eq_nil_iff] at hinputs
    subst hinputs
    exact ⟨[], by rwa [List.flatten_nil, List.append_nil], .nil⟩
  | cons bytes lines ih =>
    obtain ⟨turn, turns, rfl, hinput, hinputs⟩ := List.map_eq_cons_iff.1 hinputs
    obtain ⟨hline, hlines⟩ := List.forall_mem_cons.1 hlines
    show ∃ groups : List (List Reply),
      InStep ((c.take service turn).after service turns) (replies ++ groups.flatten) ∧ _
    unfold heard
    cases hread : String.fromUTF8? ⟨bytes.toArray⟩ with
    | none =>
      -- a line that is not in UTF-8 ends the connection, and nothing is sent
      have htake : c.take service turn = { c with verdict := .quits } := by
        unfold Conversation.take
        rw [hverdict, hinput]
        simp only [Exchange.take, Input.executed?, hread, Option.toList_none, List.append_nil]
        rfl
      rw [htake, after_of_ended service (show Verdict.quits ≠ .goesOn by decide)]
      refine ⟨[], ?_, .nil⟩
      rw [List.flatten_nil, List.append_nil]
      exact ⟨h.record, h.stream, h.settled, h.framed, h.obliging, h.plain⟩
    | some line =>
      obtain ⟨added, hstep, hreply, hgoes⟩ := h.take service hverdict hinput hline hread
      dsimp only
      unfold Service.verdictOn at hgoes
      by_cases hquits : service.QuitsOn line
      · rw [if_pos hquits] at hgoes
        have hended : (c.take service turn).verdict ≠ .goesOn := by
          rw [hgoes]
          decide
        rw [after_of_ended service hended, if_pos hquits]
        exact ⟨[added], by rwa [List.flatten_singleton], .cons hreply .nil⟩
      · rw [if_neg hquits] at hgoes
        rw [if_neg hquits]
        obtain ⟨groups, hafter, hgroups⟩ := ih hstep hgoes hlines hinputs
        refine ⟨added :: groups, ?_, .cons hreply hgroups⟩
        rwa [List.flatten_cons, ← List.append_assoc]

/--
**The client stays in step.** A connection that is greeted, takes what it is sent, and hears some lines, writes bytes
that a client cuts into just the replies that were queued, with nothing left over: one 220, and behind it for each line
that is heard none if the line has no verb and is not too long, or else one final reply, with one 150 before it at most
if the line is `STOR`, `LIST`, `NLST` or `MLSD`. It does not matter what the lines hold, what becomes of the tree, the
slot and the pipeline between the lines, or what the data connections do.
-/
theorem decode_written (peer here : Endpoint) {respond : (offers taken : Nat) → WriteResponse}
    (hobliging : (Receiver.mk respond 0 []).Obliging) {lines : List Bytes}
    (hlines : ∀ bytes ∈ lines, 10 ∉ bytes.dropLast) {turns : List (Turn σ)}
    (hinputs : turns.map Turn.input = lines.map .line) :
    let c := (greeted peer here respond).after service turns
    ∃ groups : List (List Reply),
      repliesOf c.effects.reverse = Reply.welcome :: groups.flatten ∧
      Reply.decode c.written = (⟨220, Client.wireBytes Reply.welcome⟩ ::
        groups.flatten.map fun r => ⟨r.code, Client.wireBytes r⟩, []) ∧
      List.Forall₂ (fun line group => IsReplyTo service line (group.map Reply.code)) (heard service lines) groups := by
  intro c
  obtain ⟨groups, hinStep, hgroups⟩ := (inStep_greeted peer here hobliging).after service rfl hlines hinputs
  refine ⟨groups, hinStep.record, ?_, hgroups⟩
  rw [hinStep.written, Reply.decode_flatMap hinStep.framed]
  rfl

/-- Three lines, one of them blank and the last without a line end, on a connection that takes two bytes at a time. -/
theorem decode_written_of_three_lines :
    let service : Service := { config := {}, credentials := .anonymous }
    let peer : Endpoint := ⟨.v4 .loopback, 40000⟩
    let here : Endpoint := ⟨.v4 .loopback, 2121⟩
    let respond : (offers taken : Nat) → WriteResponse := fun _ _ => .take 2
    let lines : List Bytes := [[83, 84, 65, 84, 13, 10], [13, 10], [81, 85, 73, 84]]
    let turns : List (Turn Memory) := lines.map fun bytes => ⟨.line bytes, Tree.empty, {}, {}, {}⟩
    (Receiver.mk respond 0 []).Obliging ∧ (∀ bytes ∈ lines, 10 ∉ bytes.dropLast) ∧
      turns.map Turn.input = lines.map .line ∧ heard service lines = ["STAT\r\n", "\r\n", "QUIT"] ∧
      ∃ groups : List (List Reply),
        Reply.decode ((greeted peer here respond).after service turns).written =
          (⟨220, Client.wireBytes Reply.welcome⟩ :: groups.flatten.map fun r => ⟨r.code, Client.wireBytes r⟩, []) ∧
        List.Forall₂ (fun line group => IsReplyTo service line (group.map Reply.code))
          ["STAT\r\n", "\r\n", "QUIT"] groups := by
  intro service peer here respond lines turns
  have hobliging : (Receiver.mk respond 0 []).Obliging := fun _ _ => ⟨nofun, nofun⟩
  have hlines : ∀ bytes ∈ lines, 10 ∉ bytes.dropLast := by decide
  have hinputs : turns.map Turn.input = lines.map .line := rfl
  have hheard : heard service lines = ["STAT\r\n", "\r\n", "QUIT"] := by decide +kernel
  obtain ⟨groups, -, hdecode, hgroups⟩ := decode_written service peer here hobliging hlines hinputs
  rw [hheard] at hgroups
  exact ⟨hobliging, hlines, hinputs, hheard, groups, hdecode, hgroups⟩

end Conversation

end FtpIntake
