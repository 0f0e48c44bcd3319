import FtpIntake.Client
import FtpIntake.Proofs.Outgoing

/-!
# No byte of a reply is lost

Replies are queued and flushed in any order, the connection takes what it likes, and a flush may be broken off between
any two offers, with half a reply behind it. Whatever happens, the client has been sent the replies in the order in
which they were queued, up to some byte, and the rest of them is what is queued.

* **`Client.stream_perform`** says so of one call, and `stream_performAll` of any calls.
* **`Client.delivered_after`** adds how a flush ends, from any state that the calls lead to.
-/

namespace FtpIntake

/-- A call that has to do with the replies to a client. A limit to a flush is a connection that leaves the offer after
so many others pending until the time is up. A reply that is sent with such a limit is queued and then flushed. -/
inductive ReplyCall where
  | queue (reply : Reply)
  | flush (patience : Option Nat)
  | write (reply : Reply)

/-- The reply that a call queues. -/
def ReplyCall.reply? : ReplyCall → Option Reply
  | .queue reply | .write reply => some reply
  | .flush _ => none

namespace Client

/-- The client after a call. -/
def perform (c : Client) : ReplyCall → Client
  | .queue reply => c.queue reply
  | .flush patience => (c.flush patience).2
  | .write reply => (c.answer reply).2

/-- The client after some calls. -/
def performAll (c : Client) (calls : List ReplyCall) : Client :=
  calls.foldl perform c

/-! ## What was queued

The calls are made in any order, and a flush may be broken off in any of them. -/

theorem outgoing_answer (c : Client) (r : Reply) :
    (c.answer r).2.outgoing = ((c.outgoing.push (wireBytes r)).flush none).2 := by
  unfold answer flushAll
  split
  · next heq => exact (congrArg (fun result => result.2.outgoing) heq).symm
  · next heq => exact (congrArg (fun result => result.2.outgoing) heq).symm

/-- **A call adds what it queues**, and nothing that it sends gets lost on the way. -/
theorem stream_perform (c : Client) (call : ReplyCall) :
    (c.perform call).outgoing.stream = c.outgoing.stream ++ call.reply?.toList.flatMap wireBytes := by
  cases call with
  | queue reply =>
    show (c.outgoing.push (wireBytes reply)).stream = _
    rw [Outgoing.stream_push]
    simp [ReplyCall.reply?]
  -- nothing is queued, and what was queued has moved but not changed
  | flush patience =>
    show (c.outgoing.flush patience).2.stream = _
    rw [(c.outgoing.stream_flush patience).1]
    exact (List.append_nil _).symm
  | write reply =>
    show (c.answer reply).2.outgoing.stream = _
    rw [outgoing_answer, (Outgoing.stream_flush _ none).1, Outgoing.stream_push]
    simp [ReplyCall.reply?]

/-- **So do any calls.** Induction on the calls. -/
theorem stream_performAll (c : Client) (calls : List ReplyCall) :
    (c.performAll calls).outgoing.stream =
      c.outgoing.stream ++ (calls.filterMap ReplyCall.reply?).flatMap wireBytes := by
  induction calls generalizing c with
  | nil => exact (List.append_nil _).symm
  | cons call calls ih =>
    have hreplies : (call :: calls).filterMap ReplyCall.reply? =
        call.reply?.toList ++ calls.filterMap ReplyCall.reply? := by
      cases hreply : call.reply? with
      | none => exact List.filterMap_cons_none hreply
      | some reply => exact List.filterMap_cons_some hreply
    show ((c.perform call).performAll calls).outgoing.stream = _
    rw [ih, stream_perform, hreplies, List.flatMap_append, List.append_assoc]

/-! ## How a flush ends

A flush that is done has left nothing; one that was broken off can be taken up again where it stood. -/

/-- A reply that was sent has not stayed in the queue, and neither has anything before it. -/
theorem queued_of_answer_ok (c : Client) {r : Reply} (h : (c.answer r).1 = .ok ()) :
    (c.answer r).2.outgoing.queued = [] := by
  have hresult : (c.answer r).1 = (c.queue r).flushAll.1 := rfl
  rcases (c.queue r).outgoing.flush_none_cases with ⟨-, hempty⟩ | ⟨⟨kind, hfailed⟩, -⟩
  · rw [outgoing_answer]
    exact hempty
  · have hflush : (c.queue r).flush = (.failed kind, ((c.queue r).flush none).2) := Prod.ext hfailed rfl
    rw [hresult, flushAll, hflush] at h
    cases h

/--
**Every byte of a reply is sent once, and in order.** Some replies have been queued for a client and some flushes have
been made, of which any may have failed or been broken off after any number of offers. Then what the connection has
taken and what is in the queue are, one behind the other, the bytes of all replies that were queued, in the order in
which they were. This holds between any two offers of the next flush, too.

If that flush is done, or a reply is sent, nothing is left in the queue. If the connection fails an offer, or takes
nothing of it, the flush ends with this failure and leaves the queue as it stood. And if it takes something of every
offer, the flush is done after as many offers as there are bytes in the queue, or before.
-/
theorem delivered_after (peer here : Endpoint) (respond : (offers taken : Nat) → WriteResponse)
    (calls : List ReplyCall) :
    let c : Client := performAll { peer, here, outgoing := { receiver := { respond } } } calls
    let bytes := (calls.filterMap ReplyCall.reply?).flatMap wireBytes
    c.outgoing.receiver.taken ++ c.outgoing.queued = bytes ∧
    (∀ patience, (c.flush patience).1 = .done → (c.flush patience).2.outgoing.queued = []) ∧
    (∀ reply, (c.answer reply).1 = .ok () → (c.answer reply).2.outgoing.queued = []) ∧
    (∀ n c', c.flush (some n) = (.brokenOff, c') →
      c'.outgoing.receiver.taken ++ c'.outgoing.queued = bytes ∧
      ∀ kind, c'.outgoing.receiver.Refuses kind → ∀ patience, (∀ limit ∈ patience, n < limit) →
        (c.flush patience).1 = .failed kind ∧ (c.flush patience).2.outgoing.queued = c'.outgoing.queued) ∧
    (c.outgoing.receiver.Obliging →
      ∀ patience, (∀ limit ∈ patience, c.outgoing.queued.length ≤ limit) → (c.flush patience).1 = .done) := by
  intro c bytes
  have hstream : c.outgoing.stream = bytes := stream_performAll _ calls
  refine ⟨hstream, fun patience => c.outgoing.queued_of_flush_done, fun reply => c.queued_of_answer_ok,
    fun n c' hbroken => ?_, fun hobliging patience henough => ?_⟩
  · -- a flush of the client is one of its queue
    have hflush : c.outgoing.flush (some n) = (.brokenOff, c'.outgoing) :=
      congrArg (fun result => (result.1, result.2.outgoing)) hbroken
    have hstream' := (c.outgoing.stream_flush (some n)).1
    rw [hflush, hstream] at hstream'
    exact ⟨hstream', fun kind hrefuses patience hlonger => Outgoing.failed_of_brokenOff hflush hrefuses hlonger⟩
  · exact c.outgoing.done_of_obliging hobliging henough

end Client

end FtpIntake
