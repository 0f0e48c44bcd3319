import FtpIntake.Proofs.Connection.Ending
import FtpIntake.Proofs.Server.Origin
import FtpIntake.Proofs.Server.Stranger

/-!
# Shutdown

Once the shutdown signal has been sent, every connection comes to its end. It looks at the signal between any two lines,
and it may be waiting for a line when the signal comes, so it can still take one line: the one that it was about to take,
or one that it reads before it notices the signal.

How much a connection may still do is bounded by its phase, in two ways: `Phase.linesLeft` are the lines that it may yet
read, and `Phase.stepsLeft` the steps that it may yet take. The signal that is on keeps both bounds, since a connection
that looks at it does not listen any more, so the connection is over after finitely many of its own steps, whatever the
others do in between.

* **`Server.ownSteps`** is what one connection does in a run. `Moves.own_or_other` says that nobody else does anything
  to it.
* **`Moves.stopping`** keeps the signal on, as long as nobody takes it back.
* **`Server.Closing`** is the invariant. It says how much a connection has taken since the signal, and for one that is
  over why it is. `Closing.advance` is one step of the connection, and `Closing.runSteps` a whole run.
* **`Server.closed_after_signal`** is what follows for every order of steps.

The signal of this server is never taken back. A run in which it is would have a step that `ServerStep.revokes`, and
the statement asks that there be none: such a step can only come with a line, as something that happens around an
upload.
-/

namespace FtpIntake

/-! ## Steps of a connection that is to end

What is left for a connection to do is measured by its phase: at most so many steps, at most so many lines. The
greatest number of lines is one, that of a connection that has read a line or may be about to. -/

/-- How many steps a connection takes at most until it is released, when the server is stopping. -/
def Phase.stepsLeft : Phase → Nat
  | .arrived | .listening => 4
  | .counted _ | .executing _ => 3
  | .checking => 2
  | .ended => 1
  | .released => 0

/-- How many lines a connection takes at most, when the server is stopping: one that it is about to take, or one that
it reads. -/
def Phase.linesLeft : Phase → Nat
  | .listening | .executing _ => 1
  | _ => 0

/-- Whether a connection takes what it has read. -/
def ConnectionStep.isExecution : ConnectionStep → Bool
  | .execute _ => true
  | _ => false

/-- Whether the shutdown signal is taken back in a step. Its sender does not do that. -/
def ServerStep.revokes : ServerStep → Bool
  | .connection _ _ (.execute circumstances) => circumstances.revokes
  | _ => false

/-- The last reply that was queued for the client says that the server is stopping, and it is the last that the
client was sent. -/
structure Connection.Dismissed (c : Connection) : Prop where
  last : (repliesOf c.effects.reverse).getLast? = some Reply.shuttingDown
  written : "421 Service shutting down, closing control connection.\r\n".toUTF8.toList <:+ c.written

/-- Why a connection that has read the inputs is over: the client has ended it, a reply could not be sent, or it was
told that the server is stopping. -/
def Connection.OverFor (service : Service) (inputs : List Input) (c : Connection) : Prop :=
  (∃ input ∈ inputs, input.Closes service) ∨ c.client.outgoing.queued ≠ [] ∨ c.Dismissed

namespace Server

variable {σ : Type}

/-- The shutdown signal of an activation is on. -/
def isStopping (s : Server σ) (i : Nat) : Bool :=
  s.activations[i]?.any fun activation => activation.signal.stopping

/-! ## One connection among others

A run of the server is a run of the one connection with steps of others in between. These do not touch the connection,
and the signal stays on through them. -/

/-- What the connection in a place does in a step of the server. -/
def ownIn (i k : Nat) : ServerStep → Option ConnectionStep
  | .connection j l own => if (j, l) = (i, k) then some own else none
  | _ => none

/-- What a connection does in some steps, in order. -/
def ownSteps (i k : Nat) (steps : List ServerStep) : List ConnectionStep :=
  steps.filterMap (ownIn i k)

theorem eq_connection_of_ownIn {i k : Nat} {step : ServerStep} {own : ConnectionStep}
    (h : ownIn i k step = some own) : step = .connection i k own := by
  cases step with
  | connection j l found =>
    obtain ⟨hplace, hfound⟩ := Option.ite_none_right_eq_some.1 h
    obtain ⟨rfl, rfl⟩ := Prod.mk.inj hplace
    obtain rfl := Option.some.inj hfound
    rfl
  | _ => cases h

theorem heardBy_cons (i k : Nat) (step : ServerStep) (steps : List ServerStep) :
    heardBy i k (step :: steps) = (heardIn i k step).toList ++ heardBy i k steps := by
  cases hheard : heardIn i k step with
  | none => exact List.filterMap_cons_none hheard
  | some input => exact List.filterMap_cons_some hheard

theorem isExecution_cons (own : ConnectionStep) (rest : List ConnectionStep) :
    (own :: rest).countP ConnectionStep.isExecution =
      own.isExecution.toNat + rest.countP ConnectionStep.isExecution := by
  rw [List.countP_cons, Nat.add_comm]
  cases own <;> rfl

variable [Pipeline σ]

/-- **A step is the connection's own, or it leaves the connection alone.** -/
theorem Moves.own_or_other {s s' : Server σ} {step : ServerStep} (h : Moves s step s') {i k : Nat} {c : Connection}
    (hc : s.connection? i k = some c) :
    (∃ own activation result, step = .connection i k own ∧ s.activations[i]? = some activation ∧
        Advance s activation c own result ∧ s'.connection? i k = some result.1) ∨
      (ownIn i k step = none ∧ heardIn i k step = none ∧ s'.connection? i k = some c) := by
  cases hown : ownIn i k step with
  | none =>
    rcases h.connection? hc with ⟨own, activation, result, rfl, hrest⟩ | ⟨hheard, hsame⟩
    · exact .inl ⟨own, activation, result, rfl, hrest⟩
    · exact .inr ⟨rfl, hheard, hsame⟩
  | some own =>
    obtain rfl := eq_connection_of_ownIn hown
    -- only a step of this connection is left
    cases h with
    | @advanced _ _ activation activation' d c' _ t hactivation hconnection hadvance =>
      obtain ⟨hconnections, hactivations, -⟩ := hadvance.others
      have hplaces := connection?_set hactivation hconnection hactivations hconnections c'
      rw [Server.connection?, hactivation] at hc
      obtain rfl := Option.some.inj (hconnection.symm.trans hc)
      exact .inl ⟨own, activation, _, rfl, hactivation, hadvance, hplaces.1⟩

/-! ## The signal stays on

The signal is sent once and not taken back. A connection can see it off again only if the value is changed, which no
sender of this server does. -/

omit [Pipeline σ] in
theorem isStopping_iff {s : Server σ} {i : Nat} :
    s.isStopping i = true ↔ ∃ activation, s.activations[i]? = some activation ∧ activation.signal.stopping = true :=
  Option.any_eq_true _ _

/-- A connection leaves the signal of its activation on. -/
theorem Advance.stopping {s : Server σ} {activation : Activation} {c : Connection} {own : ConnectionStep}
    {result : Connection × Activation × Server σ} (h : Advance s activation c own result)
    (hstopping : activation.signal.stopping = true)
    (hkept : ∀ circumstances, own = .execute circumstances → circumstances.revokes = false) :
    result.2.1.signal.stopping = true := by
  -- the surroundings of an exchange go back to the server as they are
  have hsettle (verdict : Verdict) (x : Exchange σ) :
      (s.settle activation verdict x).2.1.signal = x.surroundings.signal := by
    unfold settle
    dsimp only
    split <;> rfl
  have hsaid (verdict : Verdict) (r : Reply) :
      (s.settle activation verdict ((s.exchange activation c {}).say r).2).2.1.signal.stopping = true := by
    rw [hsettle]
    show ((s.exchange activation c {}).answer r).2.surroundings.signal.stopping = true
    rw [Exchange.answer_snd]
    exact hstopping
  cases h with
  | counted | waiting | woken | heard | released => exact hstopping
  | turnedAway | welcomed | dismissed => exact hsaid _ _
  | deserted =>
    rw [hsettle]
    exact hstopping
  | @executed input circumstances =>
    -- only an execution lets anything happen, and that does not take the signal back
    have hexchange : (s.exchange activation c circumstances).Stopping := ⟨hstopping, hkept circumstances rfl⟩
    rw [hsettle]
    exact hexchange.take s.service input

/-- **The signal stays on** in every step that does not take it back. -/
theorem Moves.stopping {s s' : Server σ} {step : ServerStep} (h : Moves s step s') {i : Nat}
    (hstopping : s.isStopping i = true) (hkept : step.revokes = false) : s'.isStopping i = true := by
  obtain ⟨activation, hactivation, hsignal⟩ := isStopping_iff.1 hstopping
  -- a step that changes one activation, be it this one or another
  have hset (t : Server σ) (j : Nat) (changed : Activation) (ht : t.activations = s.activations)
      (hchanged : i = j → changed.signal.stopping = true) :
      isStopping ({ t with activations := t.activations.set j changed } : Server σ) i = true := by
    refine isStopping_iff.2 ?_
    show ∃ activation, (t.activations.set j changed)[i]? = _ ∧ _
    rw [ht]
    by_cases hj : j = i
    · subst hj
      exact ⟨changed, List.getElem?_set_self (List.getElem?_eq_some_iff.1 hactivation).1, hchanged rfl⟩
    · exact ⟨activation, (List.getElem?_set_ne hj).trans hactivation, hsignal⟩
  cases h with
  | skipped | drained | cleared | filled => exact hstopping
  | started address =>
    have hplace : i < s.activations.length := (List.getElem?_eq_some_iff.1 hactivation).1
    exact isStopping_iff.2 ⟨activation, (List.getElem?_append_left hplace).trans hactivation, hsignal⟩
  | signalled =>
    refine isStopping_iff.2 ?_
    rw [sendSignal, List.getElem?_modify, hactivation]
    refine ⟨_, rfl, ?_⟩
    split
    · rfl
    · exact hsignal
  | @accepted j found peer here hfound =>
    refine hset s j _ rfl fun hj => ?_
    subst hj
    obtain rfl := Option.some.inj (hactivation.symm.trans hfound)
    exact hsignal
  | @closed j found hfound haccepting hfoundStopping => exact hset s j _ rfl fun _ => hfoundStopping
  | @advanced j l found changed d d' own t hfound hconnection hadvance =>
    refine hset t j _ hadvance.others.2.1 fun hj => ?_
    subst hj
    obtain rfl := Option.some.inj (hactivation.symm.trans hfound)
    refine hadvance.stopping hsignal ?_
    rintro circumstances rfl
    exact hkept

/-! ## The invariant

What was pending when the signal came has been taken or is still pending, and of what was heard since then nothing
more than a line has been taken. `Closing` says so for each phase, and with it what the last reply was. -/

/-- Where a connection stands that has read the inputs since the signal, or was about to take them then, and has taken
so many of them. There are no more of them than the bound. -/
def Closing (service : Service) (bound : Nat) (inputs : List Input) (taken : Nat) (c : Connection) : Prop :=
  match c.phase with
  | .arrived | .counted _ => False
  | .listening => inputs = [] ∧ taken = 0 ∧ 1 ≤ bound
  | .executing input => inputs = [input] ∧ taken = 0 ∧ 1 ≤ bound
  | .checking => taken = inputs.length ∧ inputs.length ≤ bound
  | .ended | .released => taken = inputs.length ∧ inputs.length ≤ bound ∧ c.OverFor service inputs

omit [Pipeline σ] in
/-- When the signal is sent a connection that was let in has what it is about to take, and may take one line at most.
-/
theorem closing_of_isAdmitted {c : Connection} (h : c.phase.isAdmitted = true) (service : Service) :
    Closing service c.phase.linesLeft c.phase.pending 0 c := by
  unfold Closing
  cases hphase : c.phase with
  | checking => exact ⟨rfl, Nat.le_refl 0⟩
  | listening | executing => exact ⟨rfl, rfl, Nat.le_refl 1⟩
  | _ =>
    rw [hphase] at h
    cases h

omit [Pipeline σ] in
/-- It has taken no more than it may, and what is pending is counted. -/
theorem Closing.inputs_le {service : Service} {bound : Nat} {inputs : List Input} {taken : Nat} {c : Connection}
    (h : Closing service bound inputs taken c) :
    inputs.length ≤ bound ∧ taken + c.phase.pending.length = inputs.length := by
  unfold Closing at h
  cases hphase : c.phase with
  | arrived | counted =>
    rw [hphase] at h
    exact h.elim
  | listening | executing =>
    rw [hphase] at h
    obtain ⟨rfl, rfl, hbound⟩ := h
    exact ⟨by simp [hbound], rfl⟩
  | checking =>
    rw [hphase] at h
    exact ⟨h.2, h.1⟩
  | ended | released =>
    rw [hphase] at h
    exact ⟨h.2.1, h.1⟩

omit [Pipeline σ] in
/-- Once it is over, there is a reason for it. -/
theorem Closing.overFor {service : Service} {bound : Nat} {inputs : List Input} {taken : Nat} {c : Connection}
    (h : Closing service bound inputs taken c) (hover : c.phase.isAdmitted = false) : c.OverFor service inputs := by
  unfold Closing at h
  cases hphase : c.phase with
  | arrived | counted =>
    rw [hphase] at h
    exact h.elim
  | checking | listening | executing =>
    rw [hphase] at hover
    cases hover
  | ended | released =>
    rw [hphase] at h
    exact h.2.2

omit [Pipeline σ] in
/-- A connection that is told that the server is stopping is told nothing after that, unless it cannot be told. -/
theorem overFor_dismissed (s : Server σ) (activation : Activation) (x : Exchange σ) (service : Service)
    (inputs : List Input) :
    (s.settle activation .quits (x.say Reply.shuttingDown).2).1.OverFor service inputs := by
  have hsends := x.sends_answer Reply.shuttingDown
  have hfound : (s.settle activation .quits (x.say Reply.shuttingDown).2).1.client.outgoing =
      (x.answer Reply.shuttingDown).2.client.outgoing := rfl
  -- either all of the last reply has gone out, or some of it could not be sent
  by_cases hqueued : (x.answer Reply.shuttingDown).2.client.outgoing.queued = []
  · refine .inr (.inr ⟨?_, ?_⟩)
    · show (repliesOf (Effect.channelClosed :: (x.answer Reply.shuttingDown).2.effects).reverse).getLast? = _
      rw [Exchange.answer_snd]
      rw [List.reverse_cons, List.reverse_cons, repliesOf_append, repliesOf_append]
      show (repliesOf x.effects.reverse ++ [Reply.shuttingDown] ++ []).getLast? = _
      rw [List.append_nil, List.getLast?_concat]
    · have hstream := hsends.stream
      rw [Outgoing.stream, hqueued, List.append_nil] at hstream
      have hwire : (repliesOf [.replyQueued Reply.shuttingDown]).flatMap Client.wireBytes =
          "421 Service shutting down, closing control connection.\r\n".toUTF8.toList := by decide +kernel
      rw [hwire] at hstream
      exact ⟨_, hstream.symm⟩
  · exact .inr (.inl hqueued)

/-- **What a connection does while the server is stopping brings it closer to its end.** One case for each thing that
it can do. -/
theorem Closing.advance {bound : Nat} {inputs : List Input} {taken : Nat} {s : Server σ} {activation : Activation}
    {c : Connection} {own : ConnectionStep} {result : Connection × Activation × Server σ}
    (h : Closing s.service bound inputs taken c) (hadvance : Advance s activation c own result)
    (hstopping : activation.signal.stopping = true) :
    Closing s.service bound (inputs ++ own.input?.toList) (taken + own.isExecution.toNat) result.1 ∧
      result.1.phase.stepsLeft < c.phase.stepsLeft := by
  have hon : activation.signal.stopping ≠ false := fun hoff => Bool.noConfusion (hoff.symm.trans hstopping)
  have hnothing : inputs ++ (none : Option Input).toList = inputs := List.append_nil inputs
  unfold Closing at h
  cases hadvance with
  | counted hphase | turnedAway hphase | welcomed hphase =>
    rw [hphase] at h
    exact h.elim
  | waiting hphase hoff | deserted hphase hoff => exact absurd hoff hon
  | dismissed hphase =>
    rw [hphase] at h ⊢
    rw [show ConnectionStep.look.input? = none from rfl, hnothing]
    exact ⟨⟨h.1, h.2, overFor_dismissed s activation _ s.service inputs⟩, Nat.lt_succ_self 1⟩
  | woken hphase =>
    rw [hphase] at h ⊢
    obtain ⟨rfl, rfl, hbound⟩ := h
    exact ⟨⟨rfl, Nat.zero_le _⟩, show 2 < 4 by decide⟩
  | heard input hphase =>
    rw [hphase] at h ⊢
    obtain ⟨rfl, rfl, hbound⟩ := h
    exact ⟨⟨rfl, rfl, hbound⟩, Nat.lt_succ_self 3⟩
  | @executed input circumstances hphase =>
    rw [hphase] at h ⊢
    obtain ⟨rfl, rfl, hbound⟩ := h
    rw [show (ConnectionStep.execute circumstances).input? = none from rfl, hnothing]
    -- the one line has been taken now, and its verdict says whether it was the last thing
    have hquits : ((s.exchange activation c circumstances).take s.service input).1 = .quits → input.Closes s.service :=
      Exchange.closes_of_quits
    have hbreaks (kind : IoKind) : ((s.exchange activation c circumstances).take s.service input).1 = .breaks kind →
        ((s.exchange activation c circumstances).take s.service input).2.client.outgoing.queued ≠ [] :=
      Exchange.queued_of_breaks
    generalize (s.exchange activation c circumstances).take s.service input = result at hquits hbreaks
    obtain ⟨verdict, x⟩ := result
    cases verdict with
    | goesOn => exact ⟨⟨rfl, hbound⟩, Nat.lt_succ_self 2⟩
    | quits =>
      refine ⟨⟨rfl, hbound, .inl ⟨input, List.mem_singleton_self input, hquits rfl⟩⟩, ?_⟩
      exact show 1 < 3 by decide
    | breaks kind =>
      refine ⟨⟨rfl, hbound, .inr (.inl (hbreaks kind rfl))⟩, ?_⟩
      exact show 1 < 3 by decide
  | released hphase =>
    rw [hphase] at h ⊢
    rw [show ConnectionStep.release.input? = none from rfl, hnothing]
    exact ⟨⟨h.1, h.2.1, h.2.2.imp_right (Or.imp_right fun hend => ⟨hend.last, hend.written⟩)⟩, Nat.lt_succ_self 0⟩

/-- **So it does over a whole run.** Induction on the steps, of which those of others leave the connection alone. -/
theorem Closing.runSteps {bound : Nat} {inputs : List Input} {taken : Nat} {s s' : Server σ} {i k : Nat}
    {c : Connection} {steps : List ServerStep} (hc : s.connection? i k = some c)
    (h : Closing s.service bound inputs taken c) (hstopping : s.isStopping i = true)
    (hrun : s.runSteps steps = some s') (hkept : ∀ step ∈ steps, step.revokes = false) :
    s'.isStopping i = true ∧ ∃ c', s'.connection? i k = some c' ∧
      Closing s.service bound (inputs ++ heardBy i k steps)
        (taken + (ownSteps i k steps).countP ConnectionStep.isExecution) c' ∧
      (ownSteps i k steps).length + c'.phase.stepsLeft ≤ c.phase.stepsLeft := by
  induction steps generalizing s c inputs taken with
  | nil =>
    obtain rfl := Option.some.inj hrun
    refine ⟨hstopping, c, hc, ?_, Nat.le_of_eq (Nat.zero_add _)⟩
    rw [heardBy, List.filterMap_nil, List.append_nil]
    exact h
  | cons step steps ih =>
    obtain ⟨t, hstep, hrest⟩ := Option.bind_eq_some_iff.1 (List.foldlM_cons.symm.trans hrun)
    obtain ⟨hnow, hlater⟩ := List.forall_mem_cons.1 hkept
    have hmoves := moves_of_step hstep
    have ht : t.isStopping i = true := hmoves.stopping hstopping hnow
    rw [← service_of_step hstep, heardBy_cons, ← List.append_assoc]
    -- its own step lowers what is left; a step of somebody else leaves the connection as it is
    rcases hmoves.own_or_other hc with
      ⟨own, activation, result, rfl, hactivation, hadvance, hafter⟩ | ⟨hother, hnothing, hafter⟩
    · have hsignal : activation.signal.stopping = true := by
        rwa [isStopping, hactivation] at hstopping
      obtain ⟨hclosing, hless⟩ := h.advance hadvance hsignal
      rw [← service_of_step hstep] at hclosing
      obtain ⟨hlast, c', hc', hclosed, hsteps⟩ := ih hafter hclosing ht hrest hlater
      have hown : ownSteps i k (.connection i k own :: steps) = own :: ownSteps i k steps :=
        List.filterMap_cons_some (if_pos rfl)
      have hread : heardIn i k (.connection i k own) = own.input? := if_pos rfl
      refine ⟨hlast, c', hc', ?_, ?_⟩
      · rw [hown, hread, isExecution_cons, ← Nat.add_assoc]
        exact hclosed
      · rw [hown, List.length_cons]
        omega
    · have hown : ownSteps i k (step :: steps) = ownSteps i k steps := List.filterMap_cons_none hother
      rw [hown, hnothing, Option.toList_none, List.append_nil]
      refine ih hafter ?_ ht hrest hlater
      rw [service_of_step hstep]
      exact h

/-- A connection of a server that is stopping can always take a step of its own, for which it does not need its client,
until it is released. -/
theorem exists_step_of_stopping {s : Server σ} {i k : Nat} {c : Connection} (hc : s.connection? i k = some c)
    (hstopping : s.isStopping i = true) (hphase : c.phase ≠ .released) :
    ∃ own : ConnectionStep, own.input? = none ∧ (s.step (.connection i k own)).isSome = true := by
  obtain ⟨activation, hactivation, hsignal⟩ := isStopping_iff.1 hstopping
  rw [connection?, hactivation] at hc
  have hstep {own : ConnectionStep} (h : (s.stepConnection activation c own).isSome = true) :
      (s.step (.connection i k own)).isSome = true := by
    obtain ⟨result, hresult⟩ := Option.isSome_iff_exists.1 h
    have hget : activation.connections[k]? = some c := hc
    simp [step, hactivation, hget, hresult]
  -- with the signal on there is a step in every phase that needs nothing from the client
  cases hfound : c.phase with
  | arrived => exact ⟨.count, rfl, hstep (by simp [stepConnection, hfound])⟩
  | counted place => exact ⟨.greet, rfl, hstep (by simp [stepConnection, hfound])⟩
  | checking => exact ⟨.look, rfl, hstep (by simp [stepConnection, hfound, hsignal])⟩
  | listening => exact ⟨.wake, rfl, hstep (by simp [stepConnection, hfound, hsignal])⟩
  | executing input => exact ⟨.execute {}, rfl, hstep (by simp [stepConnection, hfound])⟩
  | ended => exact ⟨.release, rfl, hstep (by simp [stepConnection, hfound])⟩
  | released => exact absurd hfound hphase

/-! ## The end of a connection

There is always a step of its own that the connection can take, and each of them takes one off the number that is
left. So it is released after a few of its own steps, whatever the others do. -/

/--
**A connection takes at most one more line when the server is stopping.** The signal of its activation is on, it has been
let in, and from then on anything happens in any order, except that somebody takes the signal back. Of what the
connection was about to take and of what it reads from then on, there is at most one input, and none if the connection
stood between two lines. It takes no other.

Every step of its own brings it closer to its release. Until then there is always one that it can take without its client,
since a line that waits for a factory when the signal comes stops waiting. When the connection is over, its client has
ended it with that one input, or a reply could not be sent, or the last that it was sent is that the service shuts down.
-/
theorem closed_after_signal {s s' : Server σ} {i k : Nat} {c : Connection} {steps : List ServerStep}
    (hstopping : s.isStopping i = true) (hc : s.connection? i k = some c) (hadmitted : c.phase.isAdmitted = true)
    (hrun : s.runSteps steps = some s') (hkept : ∀ step ∈ steps, step.revokes = false) :
    let own := ownSteps i k steps
    let inputs := c.phase.pending ++ heardBy i k steps
    ∃ c', s'.connection? i k = some c' ∧
      inputs.length ≤ c.phase.linesLeft ∧ c.phase.linesLeft ≤ 1 ∧
      own.countP ConnectionStep.isExecution + c'.phase.pending.length = inputs.length ∧
      own.length + c'.phase.stepsLeft ≤ c.phase.stepsLeft ∧
      (c'.phase ≠ .released →
        ∃ next : ConnectionStep, next.input? = none ∧ (s'.step (.connection i k next)).isSome = true) ∧
      (∀ (around : Surroundings FactoryId) (happenings : List (Happening FactoryId)), .signal true ∈ happenings →
        (around.acquire happenings).1 ≠ .waiting) ∧
      (c'.phase.isAdmitted = false →
        (∃ input ∈ inputs, input.Closes s.service) ∨ c'.client.outgoing.queued ≠ [] ∨ c'.Dismissed) := by
  intro own inputs
  have hstart := closing_of_isAdmitted hadmitted s.service
  obtain ⟨hlast, c', hc', hclosing, hsteps⟩ := hstart.runSteps hc hstopping hrun hkept
  rw [Nat.zero_add] at hclosing
  obtain ⟨hbound, htaken⟩ := hclosing.inputs_le
  -- a connection reads at most one line before it looks at the signal again
  have hone : c.phase.linesLeft ≤ 1 := by
    cases c.phase <;> simp [Phase.linesLeft]
  exact ⟨c', hc', hbound, hone, htaken, hsteps, exists_step_of_stopping hc' hlast,
    fun _ _ hsent => Surroundings.acquire_of_signal hsent, hclosing.overFor⟩

/-- A client whose line has been read when the signal comes. -/
def lateLine : List ServerStep :=
  visit [] ++ [.connection 0 0 .look, .connection 0 0 (.hear (.line "NOOP\r\n".toUTF8.toList)), .signal]

/-- The line is executed, and then the client is told that the service shuts down. -/
theorem closed_after_signal_of_late_line :
    ∃ (s s' : Server Memory) (c' : Connection),
      ({ service := ⟨{}, .anonymous⟩, pipeline := {} } : Server Memory).runSteps lateLine = some s ∧
      s.runSteps [.connection 0 0 (.execute {}), .connection 0 0 .look, .connection 0 0 .release] = some s' ∧
      s'.connection? 0 0 = some c' ∧ c'.phase = .released ∧ c'.Dismissed := by
  let noop : Input := .line "NOOP\r\n".toUTF8.toList
  let rest : List ServerStep := [.connection 0 0 (.execute {}), .connection 0 0 .look, .connection 0 0 .release]
  have hrun : (({ service := ⟨{}, .anonymous⟩, pipeline := {} } : Server Memory).runSteps lateLine).any (fun s =>
      decide (s.isStopping 0 = true ∧ s.service = ⟨{}, .anonymous⟩) &&
        (s.connection? 0 0).any (fun c => decide (c.phase = .executing noop)) &&
        (s.runSteps rest).any fun s' => (s'.connection? 0 0).any fun c' =>
          decide (c'.phase = .released ∧ c'.client.outgoing.queued = [])) = true := by decide +kernel
  obtain ⟨s, hs, hany⟩ := (Option.any_eq_true _ _).1 hrun
  simp only [Bool.and_eq_true, decide_eq_true_eq] at hany
  obtain ⟨⟨⟨hstopping, hservice⟩, hfirst⟩, hlast⟩ := hany
  obtain ⟨c, hc, hphase⟩ := (Option.any_eq_true _ _).1 hfirst
  have hphase := of_decide_eq_true hphase
  obtain ⟨s', hs', hfound⟩ := (Option.any_eq_true _ _).1 hlast
  obtain ⟨d, hd, hover⟩ := (Option.any_eq_true _ _).1 hfound
  obtain ⟨hreleased, hqueued⟩ := of_decide_eq_true hover
  obtain ⟨c', hc', -, -, -, -, -, -, hend⟩ :=
    closed_after_signal hstopping hc (by rw [hphase]; rfl) hs' (by decide)
  obtain rfl := Option.some.inj (hd.symm.trans hc')
  refine ⟨s, s', d, hs, hs', hd, hreleased, ?_⟩
  rcases hend (by rw [hreleased]; rfl) with ⟨input, hinput, hcloses⟩ | hstuck | hdismissed
  · -- the line was no `QUIT`
    rw [hphase] at hinput
    obtain rfl := List.mem_singleton.1 hinput
    have hread : String.fromUTF8? ⟨"NOOP\r\n".toUTF8.toList.toArray⟩ = some "NOOP\r\n" := by decide +kernel
    have hquits := hcloses _ hread
    rw [hservice] at hquits
    exact absurd hquits.2 (by decide +kernel)
  · exact absurd hqueued hstuck
  · exact hdismissed

end Server

end FtpIntake
