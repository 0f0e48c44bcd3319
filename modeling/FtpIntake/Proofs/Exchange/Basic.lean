import FtpIntake.Exchange.List

/-!
# What the building blocks of an exchange leave alone

Every command sends its replies through the same few operations. Each of them changes the queue of outgoing bytes and
the record of effects, or one field of the client, and nothing else. The equations below say so for all fields at once:
after rewriting with one, every field that is not named can be read off.
-/

namespace FtpIntake

namespace Client

/-- What is queued for a client once the queued bytes have been sent as far as the connection takes them. -/
def sentOff (c : Client) : Outgoing :=
  (c.outgoing.flush none).2

theorem flushAll_snd (c : Client) : c.flushAll.2 = { c with outgoing := c.sentOff } := by
  unfold flushAll
  split
  · next kind c' heq =>
    rw [show c' = c.flush.2 by rw [heq]]
    rfl
  · next c' _ heq =>
    rw [show c' = c.flush.2 by rw [heq]]
    rfl

end Client

namespace Exchange

variable {σ : Type}

theorem flushAll_snd (x : Exchange σ) :
    x.flushAll.2 = { x with client := { x.client with outgoing := x.client.sentOff } } := by
  rw [← Client.flushAll_snd]
  rfl

/-- **A reply changes nothing but what is on its way to the client**, and leaves its mark in the record. -/
theorem answer_snd (x : Exchange σ) (r : Reply) :
    (x.answer r).2 =
      { x with
        client := { x.client with outgoing := (x.client.queue r).sentOff }
        effects := .replyQueued r :: x.effects } := by
  rw [show x.answer r = (x.queue r).flushAll from rfl, flushAll_snd]
  rfl

theorem history_answer (x : Exchange σ) (r : Reply) : (x.answer r).2.history = x.history ++ [.replyQueued r] := by
  rw [history, answer_snd]
  exact List.reverse_cons

/-! ## Listings

Between the clearing of the client's state and the end of the data channel, a listing only answers and takes notes. -/

section Listing

variable {α : Type} (f : Exchange σ → α) (hanswer : ∀ x r, f (x.answer r).2 = f x)
  (hnote : ∀ x effect, f (x.note effect) = f x)

include hanswer hnote

theorem sendAnnounced_keeps (x : Exchange σ) (bytes : Bytes) : f (x.sendAnnounced bytes).2 = f x := by
  have hopen : f x.openChannel.2 = f x := hnote x .channelOpened
  -- opening, sending and the last reply each keep what is looked at; follow it from one to the next
  unfold sendAnnounced
  cases hopened : x.openChannel with
  | mk opened x' =>
    rw [hopened] at hopen
    cases opened with
    | error fault => exact (hanswer x' _).trans hopen
    | ok stream =>
      have hsend : f (x'.sendData stream bytes).2 = f x' := hnote x' _
      dsimp only
      cases hsent : x'.sendData stream bytes with
      | mk sent x'' =>
        rw [hsent] at hsend
        cases sent <;> exact (hanswer x'' _).trans (hsend.trans hopen)

/-- **A listing keeps whatever answers and notes keep.** -/
theorem sendListing_keeps (x : Exchange σ) (form : ListingForm) (directory : Path) :
    f (x.sendListing form directory).2 = f x := by
  unfold sendListing
  split
  · exact hanswer _ _
  split
  · exact hanswer _ _
  have hmark := hanswer x ⟨ReplyCode.fileStatusOkay, "Here comes the directory listing."⟩
  cases hanswered : x.answer ⟨ReplyCode.fileStatusOkay, "Here comes the directory listing."⟩ with
  | mk sent x' =>
    rw [hanswered] at hmark
    cases sent with
    | error kind => exact hmark
    | ok => exact (sendAnnounced_keeps f hanswer hnote x' _).trans hmark

end Listing

end Exchange

end FtpIntake
