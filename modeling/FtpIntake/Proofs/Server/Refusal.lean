import FtpIntake.Pipeline.Memory
import FtpIntake.Proofs.Server.Admission

/-!
# Which connections are turned away

Whether a connection is let in is settled when it counts itself: it is turned away if its place lies behind the number of
clients that the server admits. Everybody who counts at that time is before it, and these need not be clients that are
in. A connection that was turned away counts until it is over and has said so, and so does one that has ended.

* **`Server.turned_away_iff`** says when a connection is turned away, and when this means that the server is full.
* **`Server.turned_away_with_nobody_in`** is an order of steps in which it is turned away although nobody is in.
-/

namespace FtpIntake.Server

variable {σ : Type} [Pipeline σ] {s s' : Server σ} {i k : Nat}

/-- **A connection that has counted itself can be answered.** It is welcomed or turned away for the place that it got. -/
theorem step_greet {c : Connection} {place : Nat} (hconnection : s.connection? i k = some c)
    (hphase : c.phase = .counted place) :
    ∃ s' c', s.step (.connection i k .greet) = some s' ∧ s'.connection? i k = some c' ∧
      codesOf (addedTo c.effects c'.effects) = if s.service.config.maxClients < place then [421] else [220] := by
  obtain ⟨activation, hactivation, hget⟩ := Option.bind_eq_some_iff.1 hconnection
  let x := s.exchange activation c {}
  -- either way it is one reply, and the end of the connection is none
  have hcodes (verdict : Verdict) (r : Reply) :
      codesOf (addedTo c.effects (s.settle activation verdict (x.say r).2).1.effects) = [r.code] := by
    obtain ⟨-, -, -, -, -, hsettle⟩ := s.settle_frame activation verdict (x.say r).2
    exact hsettle c.effects [.replyQueued r] (Exchange.history_answer x r)
  by_cases hfull : s.service.config.maxClients < place
  · have hadvance : s.stepConnection activation c .greet =
        some (s.settle activation .quits (x.say Reply.tooManyConnections).2) := by
      unfold stepConnection
      rw [hphase]
      simp only [if_pos hfull]
      rfl
    obtain ⟨s', hstep, hplace, -⟩ := step_of_stepConnection hactivation hget hadvance
    rw [if_pos hfull]
    exact ⟨s', _, hstep, hplace, hcodes _ _⟩
  · have hadvance : s.stepConnection activation c .greet =
        some (s.settle activation (x.say Reply.welcome).1 (x.say Reply.welcome).2) := by
      unfold stepConnection
      rw [hphase]
      simp only [if_neg hfull]
      rfl
    obtain ⟨s', hstep, hplace, -⟩ := step_of_stepConnection hactivation hget hadvance
    rw [if_neg hfull]
    exact ⟨s', _, hstep, hplace, hcodes _ _⟩

/--
**When a connection is turned away.** In an activation that has begun in a run, or in which no connection had done
anything, a connection has arrived. It can count itself, and gets the place behind all that count. Whatever happens until
it is greeted, it is then turned away just if those were as many as the server admits, or more.

If all of them are in or will be let in when they are greeted, they are exactly as many as the server admits. So only
a connection that was turned away itself, or that is over, and that still counts, can bring about that somebody is
turned away although there is room.
-/
theorem turned_away_iff {occurrences : List Occurrence} (hrun : s.occurAll occurrences = some s')
    (hfresh : ∀ activation, s.activations[i]? = some activation → activation.IsFresh) {activation : Activation}
    (hactivation : s'.activations[i]? = some activation) {c : Connection} (hc : activation.connections[k]? = some c)
    (harrived : c.phase = .arrived) :
    let maxClients := s.service.config.maxClients
    let counting := activation.connections.countP (·.phase.isCounted)
    ∃ t, s'.step (.connection i k .count) = some t ∧
      t.connection? i k = some { c with phase := .counted (counting + 1) } ∧
      (∀ (later : List Occurrence) (u : Server σ) (d : Connection), t.occurAll later = some u →
        u.connection? i k = some d → d.phase = .counted (counting + 1) →
        ∃ v d', u.step (.connection i k .greet) = some v ∧ v.connection? i k = some d' ∧
          codesOf (addedTo d.effects d'.effects) = if maxClients ≤ counting then [421] else [220]) ∧
      ((∀ other ∈ activation.connections, other.phase.isCounted = true → other.phase.isWithin maxClients = true) →
        maxClients ≤ counting → counting = maxClients) := by
  intro maxClients counting
  have hs : s.Counts maxClients i := ⟨rfl, fun activation hactivation => (hfresh activation hactivation).counts⟩
  have h : s'.Counts maxClients i := hs.occurAll hrun
  obtain ⟨hactive, hwithin⟩ := h.activation activation hactivation
  -- its place is one more than those that count at this moment
  have hadvance : s'.stepConnection activation c .count =
      some ({ c with phase := .counted (counting + 1) }, { activation with active := counting + 1 }, s') := by
    unfold stepConnection
    rw [harrived]
    simp only [hactive]
    rfl
  obtain ⟨t, hstep, hplace, -⟩ := step_of_stepConnection hactivation hc hadvance
  have ht : t.Counts maxClients i := h.moves (moves_of_step hstep)
  refine ⟨t, hstep, hplace, fun later u d hlater hd hphase => ?_, fun hall hfull => ?_⟩
  · -- the place is kept until it is answered, however many others come and go in between
    obtain ⟨v, d', hgreet, hd', hcodes⟩ := step_greet hd hphase
    rw [(ht.occurAll hlater).config] at hcodes
    exact ⟨v, d', hgreet, hd', hcodes.trans (by simp only [Nat.lt_succ_iff])⟩
  · -- those that count are within the bound by hypothesis, and the invariant bounds those
    have hle : counting ≤ activation.connections.countP (·.phase.isWithin maxClients) :=
      List.countP_mono_left hall
    omega

/-! ### Room, but not for everybody

Those that have left or were turned away still count for a while. -/

/-- Three clients come to a server that admits one. The first is let in, the second is turned away and has not stopped
counting when the first leaves and the third counts itself. -/
def departure : List Occurrence :=
  let here : Endpoint := ⟨.v4 .loopback, 2121⟩
  let arrives (k : Nat) : Occurrence := .step (.accept 0 ⟨.v4 .loopback, .ofNat (40000 + k)⟩ here)
  let takes (k : Nat) (step : ConnectionStep) : Occurrence := .step (.connection 0 k step)
  [.step (.start here), arrives 0, arrives 1, arrives 2, takes 0 .count, takes 0 .greet, takes 1 .count, takes 1 .greet,
    takes 0 .look, takes 0 (.hear .finished), takes 0 (.execute {}), takes 0 .release]

/-- The third client is turned away, with nobody in. -/
theorem turned_away_with_nobody_in :
    ∃ (s t : Server Memory) (activation : Activation) (c : Connection),
      ({ service := ⟨{ maxClients := 1 }, .anonymous⟩, pipeline := {} } : Server Memory).occurAll departure = some s ∧
      s.activations[0]? = some activation ∧ activation.connections.map (·.phase) = [.released, .ended, .arrived] ∧
      s.runSteps [.connection 0 2 .count, .connection 0 2 .greet] = some t ∧ t.connection? 0 2 = some c ∧
      codesOf c.effects.reverse = [421] := by
  have hrun : (({ service := ⟨{ maxClients := 1 }, .anonymous⟩, pipeline := {} } : Server Memory).occurAll departure).any
      (fun s => (s.activations[0]?).any (fun activation =>
          decide (activation.connections.map (·.phase) = [.released, .ended, .arrived])) &&
        (s.runSteps [.connection 0 2 .count, .connection 0 2 .greet]).any fun t =>
          (t.connection? 0 2).any fun c => decide (codesOf c.effects.reverse = [421])) = true := by decide +kernel
  obtain ⟨s, hs, hboth⟩ := (Option.any_eq_true _ _).1 hrun
  obtain ⟨hbefore, hafter⟩ := Bool.and_eq_true _ _ |>.mp hboth
  obtain ⟨activation, hactivation, hphases⟩ := (Option.any_eq_true _ _).1 hbefore
  obtain ⟨t, ht, hgreeted⟩ := (Option.any_eq_true _ _).1 hafter
  obtain ⟨c, hc, hcodes⟩ := (Option.any_eq_true _ _).1 hgreeted
  exact ⟨s, t, activation, c, hs, hactivation, of_decide_eq_true hphases, ht, hc, of_decide_eq_true hcodes⟩

end FtpIntake.Server
