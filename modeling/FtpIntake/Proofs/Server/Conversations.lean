import FtpIntake.Proofs.Connection.Dialogue
import FtpIntake.Proofs.Server.Steps

/-!
# The connections of a server as conversations

A conversation is told from one connection's side, with turns that bring whatever has become of the rest. What it says
holds of the connections of a server, because a server does just that to them: greeting a connection begins a
conversation, and executing what was read is a turn of it, with the tree, the slot and the pipeline of the server.
-/

namespace FtpIntake.Conversation

variable {σ : Type} [Pipeline σ]

/-- A connection that goes on, as the conversation that it has had so far. -/
def ofConnection (c : Connection) (executed : List Request) : Conversation :=
  { client := c.client, effects := c.effects, executed }

theorem ofConnection_welcomed (s : Server σ) (activation : Activation) (peer here : Endpoint) {place : Nat}
    (hroom : ¬s.service.config.maxClients < place) :
    ∃ c activation' s',
      s.stepConnection activation { Connection.accepted peer here with phase := .counted place } .greet =
        some (c, activation', s') ∧
      c.phase = .checking ∧ ofConnection c [] = greeted peer here fun _ _ => .takeAll := by
  let x := s.exchange activation { Connection.accepted peer here with phase := .counted place } {}
  -- a new connection has an empty queue and nobody in the way, so its welcome goes out
  have hok : (x.answer Reply.welcome).1 = .ok () :=
    (Exchange.sends_answer x Reply.welcome).obliging fun _ _ => ⟨nofun, nofun⟩
  have hsaid : (x.say Reply.welcome).1 = .goesOn := by
    show Verdict.ofSent (x.answer Reply.welcome).1 = .goesOn
    rw [hok]
    rfl
  have heffects : (x.say Reply.welcome).2.effects = .replyQueued Reply.welcome :: x.effects := by
    show (x.answer Reply.welcome).2.effects = _
    rw [Exchange.answer_snd]
  have hstep : s.stepConnection activation { Connection.accepted peer here with phase := .counted place } .greet =
      some (s.settle activation (x.say Reply.welcome).1 (x.say Reply.welcome).2) := by
    unfold Server.stepConnection
    simp only [if_neg hroom]
    rfl
  rw [hstep, hsaid]
  refine ⟨_, _, _, rfl, rfl, ?_⟩
  show Conversation.mk (x.say Reply.welcome).2.client (x.say Reply.welcome).2.effects .goesOn [] = _
  rw [heffects]
  rfl

/-- **Executing what was read is a turn.** A connection that ends gives up its data channel, and has written no more. -/
theorem ofConnection_executed {s s' : Server σ} {activation activation' : Activation} {c c' : Connection}
    {circumstances : Circumstances} (executed : List Request)
    (h : Server.Advance s activation c (.execute circumstances) (c', activation', s')) :
    ∃ input, c.phase = .executing input ∧
      let turn : Turn σ := ⟨input, s.tree, ⟨s.slot, activation.signal⟩, s.pipeline, circumstances⟩
      let after := (ofConnection c executed).take s.service turn
      c'.written = after.written ∧ c'.phase = Phase.after after.verdict ∧
        (after.verdict = .goesOn → ofConnection c' after.executed = after) := by
  cases h with
  | @executed input circumstances hphase =>
    refine ⟨input, hphase, ?_⟩
    intro turn after
    -- the conversation enters the turn as the exchange that the server makes of the connection
    have hafter : after =
        { client := ((s.exchange activation c circumstances).take s.service input).2.client
          effects := ((s.exchange activation c circumstances).take s.service input).2.effects
          verdict := ((s.exchange activation c circumstances).take s.service input).1
          executed := executed ++ (input.executed? s.service).toList } := rfl
    rw [hafter]
    generalize (s.exchange activation c circumstances).take s.service input = result
    obtain ⟨verdict, x⟩ := result
    cases verdict with
    | goesOn => exact ⟨rfl, rfl, fun _ => rfl⟩
    | quits => exact ⟨rfl, rfl, nofun⟩
    | breaks kind => exact ⟨rfl, rfl, nofun⟩

end FtpIntake.Conversation
