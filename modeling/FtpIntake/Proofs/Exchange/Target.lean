import FtpIntake.Proofs.Exchange.Channel
import FtpIntake.Proofs.Exchange.Record
import FtpIntake.Proofs.Net.Target

/-!
# What a target does to an exchange

`PORT` and `EPRT` write a target differently, and what comes after the reading is the same for both: a target that the
server may connect to becomes the data channel of the client, and any other is answered with 501 and changes nothing.

* **`Exchange.settled_control_of_reads`** follows one target through an exchange, whichever command has brought it.
* **`Exchange.extendedTarget_laws`** says what `EPRT` reads, that every endpoint can be written for it, and that it ends
  as `PORT` does.
-/

namespace FtpIntake

/-! ## The code and the channel

Two commands give a target, each in its own notation. What comes of a target does not depend on the notation, so the
rule is stated for both at once. -/

/-- The code that answers a client that has given a target, and the data channel that it has then. -/
def Client.directedTo (client : Client) (target : Endpoint) : Nat × DataChannel :=
  if DataChannel.Admissible target client.peer then (200, .active target) else (501, client.channel)

namespace Decision

/-- The verb is in the text of the reply only. -/
theorem activate_ok (client : Client) (verb : String) (target : Endpoint) :
    ((activate client verb (.ok target)).reply.code, (activate client verb (.ok target)).client.channel) =
      client.directedTo target := by
  unfold Client.directedTo
  rcases activate_cases client verb (.ok target) with ⟨endpoint, hgiven, hown, hmade⟩ | ⟨fault, hrefused, hmade⟩
  · obtain rfl : target = endpoint := by simpa using hgiven
    rw [hmade, if_pos hown]
    rfl
  · obtain ⟨hforeign, hcode⟩ := hrefused target rfl
    rw [hmade, if_neg hforeign]
    exact Prod.ext hcode rfl

end Decision

namespace Exchange

open DataChannel

variable {σ : Type}

/-- The exchange has ended with one reply, and these are the code of the reply and the data channel of the client. -/
def Settled (x x' : Exchange σ) (outcome : Nat × DataChannel) : Prop :=
  (∃ text, x'.history = x.history ++ [.stateReset, .replyQueued ⟨outcome.1, text⟩]) ∧
    x'.client.channel = outcome.2

theorem settled_control (x : Exchange σ) (settings : ControlSettings) (command : ControlCommand)
    (argument : Option String) :
    let decision := Decision.make settings x.circumstances.bind x.client command argument
    x.Settled (x.control settings command argument).2 (decision.reply.code, decision.client.channel) := by
  intro decision
  refine ⟨⟨decision.reply.message, ?_⟩, (x.login_control settings command argument).2⟩
  rw [control_snd]
  exact x.history_reset_answer _ _

/-- The commands that give a target, each with the reading of its argument. -/
inductive Reads : ControlCommand → (String → Except TransferFault Endpoint) → Prop where
  | port : Reads .port portTarget
  | eprt : Reads .eprt extendedTarget

/-- **A target that was read settles the exchange,** and the command that gave it does not matter. -/
theorem settled_control_of_reads (x : Exchange σ) (settings : ControlSettings) {command : ControlCommand}
    {read : String → Except TransferFault Endpoint} (hreads : Reads command read) {argument : String}
    {target : Endpoint} (h : read argument = .ok target) :
    x.Settled (x.control settings command (some argument)).2 (x.client.directedTo target) := by
  have hmake : ∃ verb, Decision.make settings x.circumstances.bind x.client command (some argument) =
      Decision.activate x.client verb (read argument) := by
    cases hreads with
    | port => exact ⟨"PORT", rfl⟩
    | eprt => exact ⟨"EPRT", rfl⟩
  obtain ⟨verb, hverb⟩ := hmake
  have hsettled := x.settled_control settings command (some argument)
  simp only [hverb, h, Decision.activate_ok] at hsettled
  exact hsettled

open DataAddress Text in
/--
**What `EPRT` takes for an address.** An argument is accepted just if, trimmed, it has three fields between copies of
its first character, which is in none of them: the version of the address, the address, and the port. Every other
argument is refused, and quoted as it came.

So every endpoint can be written for `EPRT`, with any delimiter that is no white space and not in what is written. And
where `PORT` and `EPRT` give the same endpoint, both are answered with the same code and leave the client with the same
data channel.
-/
theorem extendedTarget_laws (argument : String) :
    (∀ e, extendedTarget argument = .ok e ↔ SpellsEndpoint argument.toList e) ∧
      ((¬∃ e, SpellsEndpoint argument.toList e) → extendedTarget argument = .error (.badArgument argument)) ∧
      (∀ e delimiter, isBlank delimiter = false → delimiter ∉ version e.ip :: (e.ip.chars ++ numeral e.port.toNat) →
        extendedTarget (String.ofList (extendedChars delimiter e)) = .ok e) ∧
      ∀ {σ : Type} (x : Exchange σ) (settings : ControlSettings) (six : String) (e : Endpoint),
        extendedTarget argument = .ok e → portTarget six = .ok e →
          x.Settled (x.control settings .eprt (some argument)).2 (x.client.directedTo e) ∧
            x.Settled (x.control settings .port (some six)).2 (x.client.directedTo e) := by
  refine ⟨fun e => extendedTarget_eq_ok_iff, fun hnot => extendedTarget_eq_error fun e he => hnot ?_,
    fun e delimiter hblank hnot => ?_, fun {σ} x settings six e hextended hport => ⟨?_, ?_⟩⟩
  · exact ⟨e, extendedTarget_eq_ok_iff.1 he⟩
  · rw [extendedTarget_eq_ok_iff, String.toList_ofList, ← readExtended_eq_some_iff]
    exact readExtended_extendedChars hblank hnot
  · exact x.settled_control_of_reads settings .eprt hextended
  · exact x.settled_control_of_reads settings .port hport

/-- A digit as the delimiter, where the port and the address have no such digit. -/
theorem extendedTarget_laws_of_digit :
    let e : Endpoint := ⟨.v4 ⟨9, 9, 9, 9⟩, 2000⟩
    let x : Exchange Unit :=
      { client := { peer := ⟨e.ip, 40000⟩, here := ⟨.v4 .loopback, 2121⟩ }, tree := Tree.empty, surroundings := {},
        pipeline := (), circumstances := {} }
    let settings : ControlSettings := ⟨.anonymous, []⟩
    Text.isBlank '5' = false ∧
      '5' ∉ DataAddress.version e.ip :: (e.ip.chars ++ Text.numeral e.port.toNat) ∧
      extendedTarget "5159.9.9.9520005" = .ok e ∧ portTarget "9,9,9,9,7,208" = .ok e ∧
      x.Settled (x.control settings .eprt (some "5159.9.9.9520005")).2 (200, .active e) ∧
      x.Settled (x.control settings .port (some "9,9,9,9,7,208")).2 (200, .active e) ∧
      extendedTarget "|1|::1|50000|" = .error (.badArgument "|1|::1|50000|") := by
  intro e x settings
  have hblank : Text.isBlank '5' = false := by decide
  have hnot : '5' ∉ DataAddress.version e.ip :: (e.ip.chars ++ Text.numeral e.port.toNat) := by decide
  have hwritten : DataAddress.extendedChars '5' e = "5159.9.9.9520005".toList := by decide
  -- a digit as delimiter: read by the law, not by evaluation
  have hextended : extendedTarget "5159.9.9.9520005" = .ok e := by
    have h := (extendedTarget_laws "").2.2.1 e '5' hblank hnot
    rwa [hwritten, String.ofList_toList] at h
  have hport : portTarget "9,9,9,9,7,208" = .ok e := by decide
  have hrefused : ¬∃ e, DataAddress.SpellsEndpoint "|1|::1|50000|".toList e := by
    rintro ⟨e, he⟩
    rw [← DataAddress.readExtended_eq_some_iff, show DataAddress.readExtended _ = none by decide] at he
    cases he
  obtain ⟨hfirst, hsecond⟩ := (extendedTarget_laws _).2.2.2 x settings _ e hextended hport
  exact ⟨hblank, hnot, hextended, hport, hfirst, hsecond, (extendedTarget_laws _).2.1 hrefused⟩

end Exchange

end FtpIntake
