import FtpIntake.Proofs.Exchange.Basic
import FtpIntake.Proofs.Outgoing

/-!
# The record of an exchange and the bytes on the wire

Every reply that an exchange queues is in its record, and every byte that it has for the client is a byte of such a
reply. So what the client will read can be told from the record.

* **`Exchange.Writes`** says that an exchange has added some effects to its record and the bytes of their replies to
  what goes out. It is kept by everything an exchange does, also when a flush fails or is broken off.
* **`Exchange.Sends`** says in addition how an exchange ended: if it succeeded, nothing is left in the queue, and with
  an obliging connection it does succeed.
* **`Exchange.Steady`** says that the tree and the client's place in it have stayed the same.

Neither structure says that the client has got anything. A reply on record may still be queued, and it stays queued
when the connection fails.
-/

namespace FtpIntake

/-! ## Replies in a record

The record has more in it than replies. These are picked out, in the order in which they were queued. -/

/-- The reply that was queued. -/
def Effect.reply? : Effect → Option Reply
  | .replyQueued r => some r
  | _ => none

/-- The replies that were queued, in order. -/
def repliesOf (effects : List Effect) : List Reply :=
  effects.filterMap Effect.reply?

/-- The codes of these replies. -/
def codesOf (effects : List Effect) : List Nat :=
  (repliesOf effects).map Reply.code

@[simp] theorem repliesOf_append (a b : List Effect) : repliesOf (a ++ b) = repliesOf a ++ repliesOf b :=
  List.filterMap_append

/-- Calls of the pipeline are no replies. -/
@[simp] theorem repliesOf_called (calls : List CallRecord) : repliesOf (calls.map .called) = [] := by
  unfold repliesOf
  rw [List.filterMap_eq_nil_iff]
  intro effect heffect
  obtain ⟨record, -, rfl⟩ := List.mem_map.1 heffect
  rfl

/-- What was added to a record that is kept with the last thing first, in order. -/
def addedTo (before after : List Effect) : List Effect :=
  after.reverse.drop before.length

/-- What was added to a record is what is behind the record of before. -/
theorem addedTo_eq {before after added : List Effect} (h : after.reverse = before.reverse ++ added) :
    addedTo before after = added := by
  rw [addedTo, h]
  exact List.drop_left' List.length_reverse

namespace Exchange

variable {σ : Type}

/-! ## What goes out

Replies and outgoing bytes are kept apart by the program, and this is where they are brought together again: the bytes
that were queued are those of the replies on record, in the same order. -/

/-- The second exchange has come from the first and has added these effects, with the bytes of their replies. -/
structure Writes (x x' : Exchange σ) (added : List Effect) : Prop where
  history : x'.history = x.history ++ added
  stream : x'.client.outgoing.stream = x.client.outgoing.stream ++ (repliesOf added).flatMap Client.wireBytes
  respond : x'.client.outgoing.receiver.respond = x.client.outgoing.receiver.respond

namespace Writes

variable {x x' x'' : Exchange σ} {a b : List Effect}

/-- Nothing was added. -/
theorem refl (x : Exchange σ) : Writes x x [] :=
  ⟨(List.append_nil _).symm, (List.append_nil _).symm, rfl⟩

/-- What was added in two goes is added one behind the other. -/
theorem trans (h : Writes x x' a) (h' : Writes x' x'' b) : Writes x x'' (a ++ b) := by
  refine ⟨?_, ?_, h'.respond.trans h.respond⟩
  · rw [h'.history, h.history, List.append_assoc]
  · rw [h'.stream, h.stream, repliesOf_append, List.flatMap_append, List.append_assoc]

/-- A change of anything but the outgoing bytes and the record goes unnoticed. -/
theorem of_eq (h : Writes x x' a) (houtgoing : x''.client.outgoing = x'.client.outgoing)
    (heffects : x''.effects = x'.effects) : Writes x x'' a := by
  refine ⟨?_, ?_, ?_⟩
  · rw [← h.history, Exchange.history, heffects]
    rfl
  · rw [houtgoing, h.stream]
  · rw [houtgoing, h.respond]

/-- An effect that is no reply leaves the outgoing bytes alone. -/
theorem note (h : Writes x x' a) {effect : Effect} (hreply : effect.reply? = none)
    (houtgoing : x''.client.outgoing = x'.client.outgoing) (heffects : x''.effects = effect :: x'.effects) :
    Writes x x'' (a ++ [effect]) := by
  have hnothing : repliesOf [effect] = [] := List.filterMap_cons_none hreply
  refine ⟨?_, ?_, ?_⟩
  · rw [← List.append_assoc, ← h.history, Exchange.history, heffects, List.reverse_cons]
    rfl
  · rw [houtgoing, h.stream, repliesOf_append, hnothing, List.append_nil]
  · rw [houtgoing, h.respond]

/-- How the client takes what it is sent does not change. -/
theorem obliging_iff (h : Writes x x' a) :
    x'.client.outgoing.receiver.Obliging ↔ x.client.outgoing.receiver.Obliging := by
  rw [Receiver.Obliging, Receiver.Obliging, h.respond]

end Writes

theorem writes_reset (x : Exchange σ) : Writes x x.reset [.stateReset] :=
  (Writes.refl x).note rfl rfl rfl

theorem writes_closeChannel (x : Exchange σ) : Writes x x.closeChannel [.channelClosed] :=
  (Writes.refl x).note rfl rfl rfl

/-- A queued reply is on record and on its way, however far the flush after it comes. -/
theorem writes_flush (x : Exchange σ) (r : Reply) (patience : Option Nat) :
    Writes x { x.queue r with client := ((x.queue r).client.flush patience).2 } [.replyQueued r] := by
  obtain ⟨hstream, hrespond⟩ := (x.queue r).client.outgoing.stream_flush patience
  refine ⟨?_, ?_, hrespond⟩
  · show (Effect.replyQueued r :: x.effects).reverse = _
    rw [List.reverse_cons]
    rfl
  · show ((x.queue r).client.outgoing.flush patience).2.stream = _
    rw [hstream]
    show (x.client.outgoing.push (Client.wireBytes r)).stream = _
    rw [Outgoing.stream_push]
    simp [repliesOf, Effect.reply?]

/-- The record of a command that decides what becomes of the client and then answers. -/
theorem history_reset_answer (x : Exchange σ) (client : Client) (r : Reply) :
    (({ x with client } : Exchange σ).reset.answer r).2.history = x.history ++ [.stateReset, .replyQueued r] := by
  have hreset : ({ x with client } : Exchange σ).reset.history = x.history ++ [.stateReset] := List.reverse_cons
  rw [history_answer, hreset, List.append_assoc]
  rfl

/-! ## How it ends

A command that succeeds has sent everything, and it can fail only if the client does not take what it is sent. -/

/-- An exchange that has added these effects. If it has succeeded nothing is left to be sent, and with an obliging
connection it has. -/
structure Sends (x : Exchange σ) (result : Sent × Exchange σ) (added : List Effect) : Prop extends
    Writes x result.2 added where
  settled : result.1 = .ok () → result.2.client.outgoing.queued = []
  obliging : x.client.outgoing.receiver.Obliging → result.1 = .ok ()

namespace Sends

variable {x x' : Exchange σ} {result : Sent × Exchange σ} {a b : List Effect}

/-- What was done before is part of the record. -/
theorem after (h : Sends x' result b) (hbefore : Writes x x' a) : Sends x result (a ++ b) where
  toWrites := hbefore.trans h.toWrites
  settled := h.settled
  obliging hobliging := h.obliging (hbefore.obliging_iff.2 hobliging)

/-- Things that are done at the end, whatever has become of the replies. -/
theorem followedBy (h : Sends x result a) (hwrites : Writes result.2 x' b)
    (houtgoing : x'.client.outgoing = result.2.client.outgoing) : Sends x (result.1, x') (a ++ b) where
  toWrites := h.toWrites.trans hwrites
  settled hok := by
    show x'.client.outgoing.queued = []
    rw [houtgoing]
    exact h.settled hok
  obliging := h.obliging

end Sends

/-- **One reply.** It is on record and on its way, and an obliging connection has taken it and everything before it. -/
theorem sends_answer (x : Exchange σ) (r : Reply) : Sends x (x.answer r) [.replyQueued r] := by
  have hwrites := x.writes_flush r none
  have hsnd : (x.answer r).2 = { x.queue r with client := ((x.queue r).client.flush none).2 } := by
    rw [answer_snd]
    rfl
  rw [← hsnd] at hwrites
  have hrespond : (x.queue r).client.outgoing.receiver = x.client.outgoing.receiver := rfl
  have hfst : (x.answer r).1 = (x.queue r).client.flushAll.1 := rfl
  -- the flush is done and nothing is queued, or it has failed because the client would not take something
  rcases (x.queue r).client.outgoing.flush_none_cases with ⟨hdone, hempty⟩ | ⟨⟨kind, hfailed⟩, hrefused⟩
  · have hflush : (x.queue r).client.flush = (.done, ((x.queue r).client.flush none).2) :=
      Prod.ext hdone rfl
    refine ⟨hwrites, fun _ => ?_, fun _ => ?_⟩
    · rw [hsnd]
      exact hempty
    · rw [hfst, Client.flushAll, hflush]
  · have hflush : (x.queue r).client.flush = (.failed kind, ((x.queue r).client.flush none).2) :=
      Prod.ext hfailed rfl
    refine ⟨hwrites, fun hok => ?_, fun hobliging => absurd hobliging (hrespond ▸ hrefused)⟩
    rw [hfst, Client.flushAll, hflush] at hok
    cases hok

/-! ## What stays the same

Sending a reply has nothing to do with directories. -/

/-- The tree and the client's place in it have stayed the same. -/
structure Steady (x x' : Exchange σ) : Prop where
  tree : x'.tree = x.tree
  cursor : x'.client.cursor = x.client.cursor

/-- A reply changes neither. -/
theorem Steady.answer {x x' : Exchange σ} (h : Steady x x') (r : Reply) : Steady x (x'.answer r).2 := by
  rw [answer_snd]
  exact ⟨h.tree, h.cursor⟩

end Exchange

end FtpIntake
