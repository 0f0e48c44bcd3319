import FtpIntake.Server

/-!
# The steps of a server

What one step of a server can do, said once for all statements about its runs.

* **`Server.Advance`** has one rule for each thing that a connection can do in one go, and **`Server.Moves`** one for
  each step of the owner, of the accepting side of an activation and of a connection. The premises of a rule are what
  has to hold for the step to be taken.
* **`advance_of_stepConnection`** and **`moves_of_step`** say that nothing else can happen.
* **`runSteps_invariant`** carries what every step keeps over a whole run.

A change of `Server.stepConnection` or `Server.step` shows here first: the rule that it concerns is changed, and the
statements about runs follow the rules.
-/

namespace FtpIntake.Server

variable {σ : Type} [Pipeline σ]

/-! ## One step of a connection

Ten rules, one for each line of `stepConnection` that gives something. What cannot be done has no rule. -/

/-- What a connection does in one go, and what it leaves behind. -/
inductive Advance (s : Server σ) (activation : Activation) (c : Connection) :
    ConnectionStep → Connection × Activation × Server σ → Prop where
  | counted (hphase : c.phase = .arrived) :
      Advance s activation c .count
        ({ c with phase := .counted (activation.active + 1) },
          { activation with active := activation.active + 1 }, s)
  | turnedAway {place : Nat} (hphase : c.phase = .counted place) (hfull : s.service.config.maxClients < place) :
      Advance s activation c .greet
        (s.settle activation .quits ((s.exchange activation c {}).say Reply.tooManyConnections).2)
  | welcomed {place : Nat} (hphase : c.phase = .counted place) (hroom : ¬s.service.config.maxClients < place) :
      Advance s activation c .greet
        (s.settle activation ((s.exchange activation c {}).say Reply.welcome).1
          ((s.exchange activation c {}).say Reply.welcome).2)
  | dismissed (hphase : c.phase = .checking) (hstopping : activation.signal.stopping = true) :
      Advance s activation c .look
        (s.settle activation .quits ((s.exchange activation c {}).say Reply.shuttingDown).2)
  | waiting (hphase : c.phase = .checking) (hstopping : activation.signal.stopping = false) :
      Advance s activation c .look ({ c with phase := .listening }, activation, s)
  | woken (hphase : c.phase = .listening) (hstopping : activation.signal.stopping = true) :
      Advance s activation c .wake ({ c with phase := .checking }, activation, s)
  | deserted (hphase : c.phase = .listening) (hstopping : activation.signal.stopping = false)
      (hgone : activation.signal.senderGone = true) :
      Advance s activation c .wake (s.settle activation .quits (s.exchange activation c {}))
  | heard (input : Input) (hphase : c.phase = .listening) :
      Advance s activation c (.hear input) ({ c with phase := .executing input }, activation, s)
  | executed {input : Input} (circumstances : Circumstances) (hphase : c.phase = .executing input) :
      Advance s activation c (.execute circumstances)
        (s.settle activation ((s.exchange activation c circumstances).take s.service input).1
          ((s.exchange activation c circumstances).take s.service input).2)
  | released (hphase : c.phase = .ended) :
      Advance s activation c .release
        ({ c with phase := .released }, { activation with active := activation.active - 1 }, s)

/-- **A connection does nothing else.** -/
theorem advance_of_stepConnection {s : Server σ} {activation : Activation} {c : Connection} {step : ConnectionStep}
    {result : Connection × Activation × Server σ} (h : s.stepConnection activation c step = some result) :
    Advance s activation c step result := by
  unfold stepConnection at h
  split at h
  · next hphase =>
    cases h
    exact .counted hphase
  · next place hphase =>
    -- a connection that has been counted is answered by its place
    by_cases hfull : s.service.config.maxClients < place
    · simp only [if_pos hfull] at h
      cases h
      exact .turnedAway hphase hfull
    · simp only [if_neg hfull] at h
      cases h
      exact .welcomed hphase hfull
  · next hphase =>
    -- the signal is looked at before the next line is waited for
    cases hstopping : activation.signal.stopping with
    | true =>
      rw [hstopping, if_pos rfl] at h
      cases h
      exact .dismissed hphase hstopping
    | false =>
      rw [hstopping, if_neg Bool.false_ne_true] at h
      cases h
      exact .waiting hphase hstopping
  · next hphase =>
    cases hstopping : activation.signal.stopping with
    | true =>
      rw [hstopping, if_pos rfl] at h
      cases h
      exact .woken hphase hstopping
    | false =>
      rw [hstopping, if_neg Bool.false_ne_true] at h
      split at h
      · next hgone =>
        cases h
        exact .deserted hphase hstopping hgone
      · cases h
  · next input hphase =>
    cases h
    exact .heard input hphase
  · next input circumstances hphase =>
    cases h
    exact .executed circumstances hphase
  · next hphase =>
    cases h
    exact .released hphase
  · cases h

/-! ## One step of a server

Nine rules: the steps of the owner, of the accepting side, and of a connection. -/

/-- What a server does in one step, and what it is afterwards. -/
inductive Moves (s : Server σ) : ServerStep → Server σ → Prop where
  | started (address : Endpoint) (hstage : s.stage = .stopped) : Moves s (.start address) (s.begin address)
  | signalled (hstage : s.stage = .running) : Moves s .signal s.sendSignal
  | skipped (hstage : s.stage = .stopped) : Moves s .signal { s with stage := .drained }
  | drained (hstage : s.stage = .signalled)
      (hclosed : s.current?.all (fun activation => !activation.accepting) = true) :
      Moves s .drain { s with stage := .drained }
  | cleared (hstage : s.stage = .drained) : Moves s .clear s.clearTree
  | filled (factory : FactoryId) : Moves s (.fill factory) (s.fill factory).2
  | accepted {i : Nat} {activation : Activation} (peer here : Endpoint)
      (hactivation : s.activations[i]? = some activation) (haccepting : activation.accepting = true) :
      Moves s (.accept i peer here)
        { s with
          activations := s.activations.set i
            { activation with connections := activation.connections ++ [Connection.accepted peer here] } }
  | closed {i : Nat} {activation : Activation} (hactivation : s.activations[i]? = some activation)
      (haccepting : activation.accepting = true) (hstopping : activation.signal.stopping = true) :
      Moves s (.closeListener i)
        { s with activations := s.activations.set i { activation with accepting := false } }
  | advanced {i k : Nat} {activation activation' : Activation} {c c' : Connection} {step : ConnectionStep}
      {s' : Server σ} (hactivation : s.activations[i]? = some activation)
      (hconnection : activation.connections[k]? = some c)
      (hadvance : Advance s activation c step (c', activation', s')) :
      Moves s (.connection i k step)
        { s' with
          activations := s'.activations.set i
            { activation' with connections := activation'.connections.set k c' } }

omit [Pipeline σ] in
theorem changeActivation_eq_some {s s' : Server σ} {i : Nat} {change : Activation → Option Activation}
    (h : s.changeActivation i change = some s') :
    ∃ activation changed, s.activations[i]? = some activation ∧ change activation = some changed ∧
      s' = { s with activations := s.activations.set i changed } := by
  obtain ⟨activation, hactivation, h⟩ := Option.bind_eq_some_iff.1 h
  obtain ⟨changed, hchanged, h⟩ := Option.bind_eq_some_iff.1 h
  exact ⟨activation, changed, hactivation, hchanged, (Option.some.inj h).symm⟩

/-- **A server does nothing else.** -/
theorem moves_of_step {s s' : Server σ} {step : ServerStep} (h : s.step step = some s') : Moves s step s' := by
  cases step with
  | start address =>
    obtain ⟨hstage, h⟩ := Option.ite_none_right_eq_some.1 h
    cases h
    exact .started address hstage
  | signal =>
    -- a stop sends the signal in the stage running only, and does nothing when it has been done
    unfold Server.step at h
    dsimp only at h
    split at h
    · next hstage =>
      cases h
      exact .signalled hstage
    · next hstage =>
      cases h
      exact .skipped hstage
    · cases h
  | drain =>
    obtain ⟨⟨hstage, hclosed⟩, h⟩ := Option.ite_none_right_eq_some.1 h
    cases h
    exact .drained hstage hclosed
  | clear =>
    obtain ⟨hstage, h⟩ := Option.ite_none_right_eq_some.1 h
    cases h
    exact .cleared hstage
  | fill factory =>
    cases h
    exact .filled factory
  -- accepting and closing change one activation, and only while it accepts
  | accept i peer here =>
    obtain ⟨activation, changed, hactivation, hchanged, rfl⟩ := changeActivation_eq_some h
    obtain ⟨haccepting, hchanged⟩ := Option.ite_none_right_eq_some.1 hchanged
    cases hchanged
    exact .accepted peer here hactivation haccepting
  | closeListener i =>
    obtain ⟨activation, changed, hactivation, hchanged, rfl⟩ := changeActivation_eq_some h
    obtain ⟨hboth, hchanged⟩ := Option.ite_none_right_eq_some.1 hchanged
    obtain ⟨haccepting, hstopping⟩ := Bool.and_eq_true_iff.1 hboth
    cases hchanged
    exact .closed hactivation haccepting hstopping
  | connection i k step =>
    obtain ⟨activation, hactivation, h⟩ := Option.bind_eq_some_iff.1 h
    obtain ⟨c, hconnection, h⟩ := Option.bind_eq_some_iff.1 h
    obtain ⟨⟨c', activation', s'⟩, hstep, h⟩ := Option.bind_eq_some_iff.1 h
    cases h
    exact .advanced hactivation hconnection (advance_of_stepConnection hstep)

/-! ## Runs

A property that every step keeps is all that most statements need of a run. The steps may be restricted, for instance
to those that do not take the shutdown signal back. -/

/-- **What every step of a run keeps holds at its end.** Induction on the steps. -/
theorem runSteps_invariant {Holds : Server σ → Prop} {steps : List ServerStep} {s s' : Server σ}
    (h : s.runSteps steps = some s') (hs : Holds s)
    (hkept : ∀ step ∈ steps, ∀ t t', Moves t step t' → Holds t → Holds t') : Holds s' := by
  induction steps generalizing s with
  | nil =>
    obtain rfl := Option.some.inj h
    exact hs
  | cons step steps ih =>
    obtain ⟨t, hstep, hrest⟩ := Option.bind_eq_some_iff.1 (List.foldlM_cons.symm.trans h)
    have ht : Holds t := hkept step List.mem_cons_self s t (moves_of_step hstep) hs
    exact ih hrest ht fun step' hstep' => hkept step' (List.mem_cons_of_mem _ hstep')

end FtpIntake.Server
