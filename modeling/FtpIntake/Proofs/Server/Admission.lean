import FtpIntake.Proofs.Server.Directories

/-!
# Admission

An activation counts its connections. A connection counts itself, is then let in or turned away for the place that it
got, and stops counting when it is over. Each of these is a step of its own, and between any two of them the other
connections take theirs. A connection can also be lost at any time, before it is answered or while it is.

* **`Phase.Passage`** is what a connection can do to the count: it joins it, stays in it, or leaves it.
* **`Activation.Counts`** is the invariant. The count is the number of connections that count, and those that are let in
  are no more than the server admits.
* **`Server.admitted_after`** is what follows for every order of events, up to the end of all connections.
-/

namespace FtpIntake

/-! ## Changing one of many

The connections of an activation are a list, and a step changes one element of it. -/

/-- An element that is changed moves a count by what it counted for itself. -/
theorem countP_set_add {α : Type} {l : List α} {k : Nat} {a : α} (p : α → Bool) (h : l[k]? = some a) (b : α) :
    (l.set k b).countP p + (p a).toNat = l.countP p + (p b).toNat := by
  obtain ⟨hk, rfl⟩ := List.getElem?_eq_some_iff.1 h
  rw [List.countP_set hk]
  cases hp : p l[k] with
  | false => cases p b <;> simp
  | true =>
    have hpos : 0 < l.countP p := List.countP_pos_iff.2 ⟨l[k], List.getElem_mem hk, hp⟩
    cases p b <;> simp <;> omega

/-! ## How phases change

Of a step only two things matter here: what it makes of the connection's phase, and what it makes of the count. There
are three ways in which the two can change together, and the inequality for the bound is proved for these three. -/

namespace Phase

/-- Whether a connection has been let in or will be when it is greeted, and is not over. -/
def isWithin (maxClients : Nat) : Phase → Bool
  | .counted place => place ≤ maxClients
  | phase => phase.isAdmitted

/-- Whether a connection counts and is not over. -/
def isUnderWay : Phase → Bool
  | .counted _ => true
  | phase => phase.isAdmitted

variable {maxClients : Nat} {phase : Phase}

theorem isWithin_of_isAdmitted (h : phase.isAdmitted = true) : phase.isWithin maxClients = true := by
  cases phase with
  | counted => cases h
  | _ => exact h

theorem isCounted_of_isUnderWay (h : phase.isUnderWay = true) : phase.isCounted = true := by
  cases phase with
  | arrived | ended | released => cases h
  | _ => rfl

/-- What counts and is not under way is over. -/
theorem eq_ended (hcounted : phase.isCounted = true) (hover : phase.isUnderWay = false) : phase = .ended := by
  cases phase with
  | ended => rfl
  | arrived | released => cases hcounted
  | _ => cases hover

theorem isCounted_of_isWithin (h : phase.isWithin maxClients = true) : phase.isCounted = true := by
  cases phase with
  | arrived | ended | released => cases h
  | _ => rfl

/-- What becomes of a phase and of the count of connections. -/
inductive Passage (maxClients : Nat) : Phase → Nat → Phase → Nat → Prop where
  | joined (active : Nat) : Passage maxClients .arrived active (.counted (active + 1)) (active + 1)
  /-- Nobody gets in later who was not in from the start. -/
  | stayed {before after : Phase} (active : Nat) (hbefore : before.isCounted = true) (hafter : after.isCounted = true)
      (hwithin : after.isWithin maxClients = true → before.isWithin maxClients = true) :
      Passage maxClients before active after active
  | left (active : Nat) : Passage maxClients .ended active .released (active - 1)

variable {before after : Phase} {active active' : Nat}

/-- The count changes by what the connection counts for itself. -/
theorem Passage.balance (h : Passage maxClients before active after active')
    (hpos : before.isCounted = true → 0 < active) :
    active' + before.isCounted.toNat = active + after.isCounted.toNat := by
  cases h with
  | joined => rfl
  | stayed _ hbefore hafter => rw [hbefore, hafter]
  | left => exact Nat.sub_add_cancel (hpos rfl)

/-- One more connection is let in only if there was room for it among all that count. -/
theorem Passage.within_le (h : Passage maxClients before active after active') :
    (after.isWithin maxClients).toNat ≤ (before.isWithin maxClients).toNat ∨ active < maxClients := by
  cases h with
  | joined =>
    -- its place is the next one, so it is within the bound just when there was room
    by_cases hroom : active < maxClients
    · exact .inr hroom
    · have hfull : ¬active + 1 ≤ maxClients := hroom
      refine .inl (Nat.le_of_eq ?_)
      show (decide (active + 1 ≤ maxClients)).toNat = 0
      rw [decide_eq_false hfull]
      rfl
  | stayed _ _ _ hwithin =>
    refine .inl ?_
    cases hin : after.isWithin maxClients with
    | false => exact Nat.zero_le _
    | true => exact Nat.le_of_eq (congrArg Bool.toNat (hwithin hin).symm)
  | left => exact .inl (Nat.le_refl _)

/-- A connection that has been let in stays, whatever the verdict on it is. -/
theorem passage_after (h : phase.isWithin maxClients = true) (verdict : Verdict) (active : Nat) :
    Passage maxClients phase active (Phase.after verdict) active :=
  .stayed active (isCounted_of_isWithin h) (by cases verdict <;> rfl) fun _ => h

end Phase

/-! ## The invariant of an activation

The count is kept by the connections themselves, each of which adds one and takes one away at moments of its own. It
is right in between because a phase tells on which side of these moments the connection is. -/

namespace Activation

/-- The count is right, and no more connections are let in than may be. -/
structure Counts (maxClients : Nat) (activation : Activation) : Prop where
  active : activation.active = activation.connections.countP (·.phase.isCounted)
  within : activation.connections.countP (·.phase.isWithin maxClients) ≤ maxClients

/-- Connections may have been accepted, but none of them has done anything. -/
structure IsFresh (activation : Activation) : Prop where
  active : activation.active = 0
  arrived : ∀ c ∈ activation.connections, c.phase = .arrived

variable {maxClients : Nat} {activation activation' : Activation}

theorem isFresh_new : ({} : Activation).IsFresh := ⟨rfl, fun _ hc => absurd hc List.not_mem_nil⟩

theorem IsFresh.counts (h : activation.IsFresh) : activation.Counts maxClients := by
  have hnone (p : Phase → Bool) (hp : p .arrived = false) : activation.connections.countP (fun c => p c.phase) = 0 :=
    List.countP_eq_zero.2 fun c hc => by
      rw [h.arrived c hc, hp]
      exact Bool.false_ne_true
  refine ⟨h.active.trans (hnone Phase.isCounted rfl).symm, ?_⟩
  rw [hnone (Phase.isWithin maxClients) rfl]
  exact Nat.zero_le _

/-- The connections that are let in are among those that count. -/
theorem Counts.within_le (h : activation.Counts maxClients) :
    activation.connections.countP (·.phase.isWithin maxClients) ≤ activation.active := by
  rw [h.active]
  exact List.countP_mono_left fun c _ => Phase.isCounted_of_isWithin

/-- A connection that was just accepted does not count. -/
theorem Counts.accept (h : activation.Counts maxClients) (peer here : Endpoint) :
    Counts maxClients { activation with connections := activation.connections ++ [Connection.accepted peer here] } := by
  have hcount (p : Phase → Bool) (hp : p .arrived = false) :
      (activation.connections ++ [Connection.accepted peer here]).countP (fun c => p c.phase) =
        activation.connections.countP fun c => p c.phase := by
    have harrived : p (Connection.accepted peer here).phase = false := hp
    rw [List.countP_append, List.countP_singleton, harrived]
    rfl
  refine ⟨h.active.trans (hcount Phase.isCounted rfl).symm, ?_⟩
  exact Nat.le_trans (Nat.le_of_eq (hcount (Phase.isWithin maxClients) rfl)) h.within

/-- **A connection that passes from one phase to another keeps the count right.** -/
theorem Counts.pass (h : activation.Counts maxClients) {k : Nat} {c c' : Connection}
    (hc : activation.connections[k]? = some c)
    (hpassage : Phase.Passage maxClients c.phase activation.active c'.phase activation'.active)
    (hconnections : activation'.connections = activation.connections.set k c') : activation'.Counts maxClients := by
  have hpos (hcounted : c.phase.isCounted = true) : 0 < activation.active := by
    rw [h.active]
    exact List.countP_pos_iff.2 ⟨c, List.mem_of_getElem? hc, hcounted⟩
  have hcounted := countP_set_add (fun c => c.phase.isCounted) hc c'
  have hwithin := countP_set_add (fun c => c.phase.isWithin maxClients) hc c'
  refine ⟨?_, ?_⟩
  · have hbalance := hpassage.balance hpos
    rw [← h.active] at hcounted
    rw [hconnections]
    omega
  · rw [hconnections]
    rcases hpassage.within_le with hsame | hroom
    · have hle := h.within
      omega
    · -- there was room even if all that count had been let in
      have hle := h.within_le
      have hone := Bool.toNat_le (c'.phase.isWithin maxClients)
      omega

end Activation

/-! ## Events

A run of a server as the owner and its clients take it, and the losses. A connection can be lost at any time until it
has ended: while it is counted and not greeted, while it waits, and in the middle of a line. It is then over and has
yet to stop counting, since that is the last thing that is done for it in any case. -/

namespace Server

variable {σ : Type} [Pipeline σ]

/-- What can happen to the connections of a server. -/
inductive Occurrence where
  /-- Somebody takes a step. -/
  | step (step : ServerStep)
  /-- A connection is lost, wherever it stands: its socket no longer tells where it is, or its task fails. -/
  | lost (activation connection : Nat)

omit [Pipeline σ] in
/-- A connection that is lost is over. It still counts, as it does after any other end. -/
def lose (s : Server σ) (i k : Nat) : Option (Server σ) :=
  s.changeActivation i fun activation => do
    let c ← activation.connections[k]?
    if c.phase.isUnderWay then
      some { activation with connections := activation.connections.set k { c with phase := .ended } }
    else none

/-- What a server is after an occurrence, if that is possible. -/
def occur (s : Server σ) : Occurrence → Option (Server σ)
  | .step step => s.step step
  | .lost i k => s.lose i k

/-- What it is after some occurrences, one after the other, if all of them are possible. -/
def occurAll (s : Server σ) (occurrences : List Occurrence) : Option (Server σ) :=
  occurrences.foldlM occur s

/-! ## One step

Each rule of `Server.Advance` is one of the three passages, so the invariant of one activation is kept, and those of
the others are not touched. -/

/-- **What a connection does is one of the passages.** -/
theorem Advance.passage {s : Server σ} {activation : Activation} {c : Connection} {step : ConnectionStep}
    {result : Connection × Activation × Server σ} (h : Advance s activation c step result) :
    Phase.Passage s.service.config.maxClients c.phase activation.active result.1.phase result.2.1.active := by
  -- whatever becomes of a turn, a connection that is in stays in or ends, and counts in both cases
  have hsettle (verdict : Verdict) (x : Exchange σ) (hin : c.phase.isWithin s.service.config.maxClients = true) :
      Phase.Passage s.service.config.maxClients c.phase activation.active
        (s.settle activation verdict x).1.phase (s.settle activation verdict x).2.1.active :=
    Phase.passage_after hin verdict activation.active
  cases h with
  | counted hphase =>
    rw [hphase]
    exact .joined _
  -- it counts until it has gone, but it never was within the bound
  | turnedAway hphase =>
    rw [hphase]
    exact .stayed _ rfl rfl nofun
  | welcomed hphase hroom =>
    refine hsettle _ _ ?_
    rw [hphase]
    exact decide_eq_true (Nat.le_of_not_lt hroom)
  | dismissed hphase | deserted hphase | executed _ hphase =>
    refine hsettle _ _ ?_
    rw [hphase]
    rfl
  | waiting hphase | woken hphase | heard _ hphase =>
    rw [hphase]
    exact .stayed _ rfl rfl fun _ => rfl
  | released hphase =>
    rw [hphase]
    exact .left _

/-- The server admits that many connections, and the activation in the given place counts its own. -/
structure Counts (maxClients i : Nat) (s : Server σ) : Prop where
  config : s.service.config.maxClients = maxClients
  activation : ∀ activation, s.activations[i]? = some activation → activation.Counts maxClients

variable {maxClients i : Nat} {s s' : Server σ}

omit [Pipeline σ] in
/-- An activation may be changed as long as it still counts, and any other one as one likes. -/
theorem Counts.set (h : s.Counts maxClients i) {j : Nat} {changed : Activation}
    (hchanged : i = j → changed.Counts maxClients) :
    Counts maxClients i { s with activations := s.activations.set j changed } := by
  refine ⟨h.config, fun activation hactivation => ?_⟩
  by_cases hj : j = i
  · subst hj
    obtain ⟨hlt, heq⟩ := List.getElem?_eq_some_iff.1 hactivation
    rw [List.getElem_set_self] at heq
    exact heq ▸ hchanged rfl
  · rw [List.getElem?_set_ne hj] at hactivation
    exact h.activation activation hactivation

/-- **One step keeps the count right.** -/
theorem Counts.moves (h : s.Counts maxClients i) {step : ServerStep} (hmoves : Moves s step s') :
    s'.Counts maxClients i := by
  cases hmoves with
  | started address =>
    refine ⟨h.config, fun activation hactivation => ?_⟩
    rw [begin, List.getElem?_append] at hactivation
    split at hactivation
    · exact h.activation activation hactivation
    · -- the new one is the last
      obtain rfl := List.mem_singleton.1 (List.mem_of_getElem? hactivation)
      exact Activation.isFresh_new.counts
  | signalled =>
    refine ⟨h.config, fun activation hactivation => ?_⟩
    -- the signal is set on the activations, which keep their connections and their counts
    rw [sendSignal, List.getElem?_modify] at hactivation
    obtain ⟨before, hbefore, rfl⟩ := Option.map_eq_some_iff.1 hactivation
    obtain ⟨hactive, hwithin⟩ := h.activation before hbefore
    split
    · exact ⟨hactive, hwithin⟩
    · exact ⟨hactive, hwithin⟩
  | skipped | drained | cleared | filled => exact ⟨h.config, h.activation⟩
  | @accepted j activation peer here hactivation =>
    refine h.set fun hj => ?_
    subst hj
    exact (h.activation activation hactivation).accept peer here
  | @closed j activation hactivation =>
    refine h.set fun hj => ?_
    subst hj
    obtain ⟨hactive, hwithin⟩ := h.activation activation hactivation
    exact ⟨hactive, hwithin⟩
  | @advanced j k activation activation' c c' step t hactivation hconnection hadvance =>
    obtain ⟨hconnections, hactivations, hservice⟩ := hadvance.others
    -- what the connection leaves of the server first, then its activation, which is put back
    have ht : t.Counts maxClients i :=
      ⟨(congrArg (fun service => service.config.maxClients) hservice).trans h.config, hactivations ▸ h.activation⟩
    refine ht.set fun hj => ?_
    subst hj
    have hpassage := hadvance.passage
    rw [h.config] at hpassage
    exact (h.activation activation hactivation).pass hconnection hpassage (congrArg (List.set · k c') hconnections)

omit [Pipeline σ] in
/-- The loss of a connection keeps it right too. -/
theorem Counts.lose (h : s.Counts maxClients i) {j k : Nat} (hlost : s.lose j k = some s') :
    s'.Counts maxClients i := by
  obtain ⟨activation, changed, hactivation, hchanged, rfl⟩ := changeActivation_eq_some hlost
  obtain ⟨c, hconnection, hchanged⟩ := Option.bind_eq_some_iff.1 hchanged
  obtain ⟨hunder, hchanged⟩ := Option.ite_none_right_eq_some.1 hchanged
  cases hchanged
  refine h.set fun hj => ?_
  subst hj
  -- a connection that is over has not been let in, so it does not matter where it stood
  have hpassage : Phase.Passage maxClients c.phase activation.active .ended activation.active :=
    .stayed _ (Phase.isCounted_of_isUnderWay hunder) rfl nofun
  exact (h.activation activation hactivation).pass hconnection hpassage rfl

/-- **What has happened so far has kept the count right.** Induction on what has happened. -/
theorem Counts.occurAll {occurrences : List Occurrence} (h : s.Counts maxClients i)
    (hrun : s.occurAll occurrences = some s') : s'.Counts maxClients i := by
  induction occurrences generalizing s with
  | nil =>
    obtain rfl := Option.some.inj hrun
    exact h
  | cons occurrence rest ih =>
    obtain ⟨t, hfirst, hrest⟩ := Option.bind_eq_some_iff.1 (List.foldlM_cons.symm.trans hrun)
    refine ih ?_ hrest
    cases occurrence with
    | step step => exact h.moves (moves_of_step hfirst)
    | lost j k => exact h.lose hfirst

/-! ## The end of all connections

The count comes back to zero: as long as it is not zero there is a connection that is over and has not stopped
counting, and it can do so at once. -/

/-- A connection that is over can stop counting. -/
theorem step_release {activation : Activation} {k : Nat} {c : Connection}
    (hactivation : s.activations[i]? = some activation) (hconnection : activation.connections[k]? = some c)
    (hended : c.phase = .ended) :
    ∃ s', s.step (.connection i k .release) = some s' ∧ s'.activations[i]? = some { activation with
      active := activation.active - 1, connections := activation.connections.set k { c with phase := .released } } := by
  refine ⟨{ s with activations := s.activations.set i { activation with
      active := activation.active - 1, connections := activation.connections.set k { c with phase := .released } } },
    ?_, List.getElem?_set_self (List.getElem?_eq_some_iff.1 hactivation).1⟩
  simp [step, stepConnection, hactivation, hconnection, hended]

/-- A release takes one off the count, which was not zero. -/
theorem Counts.release {activation : Activation} {k : Nat} {c : Connection} (h : s.Counts maxClients i)
    (hactivation : s.activations[i]? = some activation) (hconnection : activation.connections[k]? = some c)
    (hended : c.phase = .ended) :
    ∃ s' activation', s.step (.connection i k .release) = some s' ∧ s'.activations[i]? = some activation' ∧
      activation'.connections = activation.connections.set k { c with phase := .released } ∧
      activation'.active + 1 = activation.active := by
  have hpos : 0 < activation.active := by
    rw [(h.activation activation hactivation).active]
    exact List.countP_pos_iff.2 ⟨c, List.mem_of_getElem? hconnection, by rw [hended]; rfl⟩
  obtain ⟨s', hstep, hs'⟩ := step_release hactivation hconnection hended
  exact ⟨s', _, hstep, hs', rfl, Nat.sub_add_cancel hpos⟩

/-- Connections that all are over can stop counting one after the other until nothing is left of the count. Induction
on the count. -/
theorem Counts.release_all {active : Nat} {activation : Activation} (h : s.Counts maxClients i)
    (hactivation : s.activations[i]? = some activation) (hactive : activation.active = active)
    (hover : ∀ c ∈ activation.connections, c.phase.isUnderWay = false) :
    ∃ (places : List Nat) (s' : Server σ) (activation' : Activation),
      s.runSteps (places.map fun k => .connection i k .release) = some s' ∧ s'.activations[i]? = some activation' ∧
      activation'.active = 0 := by
  induction active generalizing s activation with
  | zero => exact ⟨[], s, activation, rfl, hactivation, hactive⟩
  | succ active ih =>
    -- somebody counts, and can only be over
    have hpos : 0 < activation.connections.countP (·.phase.isCounted) := by
      rw [← (h.activation activation hactivation).active, hactive]
      exact Nat.succ_pos active
    obtain ⟨c, hc, hcounted⟩ := List.countP_pos_iff.1 hpos
    have hended : c.phase = .ended := Phase.eq_ended hcounted (hover c hc)
    obtain ⟨k, hconnection⟩ := List.mem_iff_getElem?.1 hc
    obtain ⟨t, changed, hstep, hchanged, hconnections, hless⟩ := h.release hactivation hconnection hended
    have hoverAfter : ∀ d ∈ changed.connections, d.phase.isUnderWay = false := fun d hd => by
      rw [hconnections] at hd
      rcases List.mem_or_eq_of_mem_set hd with hd | rfl
      · exact hover d hd
      · rfl
    -- with that one released one less counts, and still nobody is under way
    obtain ⟨places, s', activation', hrun, hs', hzero⟩ :=
      ih (h.moves (moves_of_step hstep)) hchanged (by omega) hoverAfter
    refine ⟨k :: places, s', activation', ?_, hs', hzero⟩
    rw [List.map_cons, runSteps, List.foldlM_cons, hstep]
    exact hrun

/-! ## What holds at any time

The statement is about any moment of any run, so also about one in which some connections have counted themselves and
have not been greeted. These have a place already, which is why they are counted in with those that are let in. -/

/--
**No more clients are in than may be, and the count is right.** Whatever the owner, the accepting side and the
connections of a server do, in whatever order, and whichever connections are lost meanwhile: in an activation that has
begun since then, or in which no connection had done anything, the connections that have been let in and are not over
are no more than the server admits, and so they are together with those that will be let in when they are greeted.

The count is the number of connections that have counted themselves and have not stopped doing so. One that is over can
stop, which takes exactly one off the count. Once all are over, they can all stop, and the count is zero again.
-/
theorem admitted_after {occurrences : List Occurrence} (hrun : s.occurAll occurrences = some s')
    (hfresh : ∀ activation, s.activations[i]? = some activation → activation.IsFresh) {activation : Activation}
    (hactivation : s'.activations[i]? = some activation) :
    let maxClients := s.service.config.maxClients
    activation.connections.countP (·.phase.isAdmitted) ≤ activation.connections.countP (·.phase.isWithin maxClients) ∧
    activation.connections.countP (·.phase.isWithin maxClients) ≤ maxClients ∧
    activation.active = activation.connections.countP (·.phase.isCounted) ∧
    (∀ k c, activation.connections[k]? = some c → c.phase = .ended →
      ∃ t activation', s'.step (.connection i k .release) = some t ∧ t.activations[i]? = some activation' ∧
        activation'.active + 1 = activation.active) ∧
    ((∀ c ∈ activation.connections, c.phase.isUnderWay = false) →
      ∃ (places : List Nat) (t : Server σ) (activation' : Activation),
        s'.runSteps (places.map fun k => .connection i k .release) = some t ∧ t.activations[i]? = some activation' ∧
        activation'.active = 0) := by
  intro maxClients
  have hs : s.Counts maxClients i := ⟨rfl, fun activation hactivation => (hfresh activation hactivation).counts⟩
  have h : s'.Counts maxClients i := hs.occurAll hrun
  obtain ⟨hactive, hwithin⟩ := h.activation activation hactivation
  refine ⟨List.countP_mono_left fun c _ => Phase.isWithin_of_isAdmitted, hwithin, hactive, fun k c hc hended => ?_,
    h.release_all hactivation rfl⟩
  obtain ⟨t, activation', hstep, ht, -, hless⟩ := h.release hactivation hc hended
  exact ⟨t, activation', hstep, ht, hless⟩

/-- Three clients come to a server that admits one. The second is turned away, and the third is lost unanswered. -/
def crowd : List Occurrence :=
  let here : Endpoint := ⟨.v4 .loopback, 2121⟩
  let arrives (k : Nat) : Occurrence := .step (.accept 0 ⟨.v4 .loopback, .ofNat (40000 + k)⟩ here)
  let takes (k : Nat) (step : ConnectionStep) : Occurrence := .step (.connection 0 k step)
  [.step (.start here), arrives 0, arrives 1, arrives 2, takes 0 .count, takes 1 .count, takes 1 .greet, takes 0 .greet,
    takes 2 .count, .lost 0 2]

/-- All three count until the second and the third stop doing so. -/
theorem admitted_after_of_crowd :
    ∃ (s : Server Memory) (activation : Activation),
      ({ service := ⟨{ maxClients := 1 }, .anonymous⟩, pipeline := {} } : Server Memory).occurAll crowd = some s ∧
      s.activations[0]? = some activation ∧
      activation.connections.map (·.phase) = [.checking, .ended, .ended] ∧ activation.active = 3 ∧
      activation.connections.countP (·.phase.isWithin 1) ≤ 1 ∧
      ∃ t activation', s.step (.connection 0 1 .release) = some t ∧ t.activations[0]? = some activation' ∧
        activation'.active = 2 := by
  have hrun : (({ service := ⟨{ maxClients := 1 }, .anonymous⟩, pipeline := {} } : Server Memory).occurAll crowd).any
      (fun s => (s.activations[0]?).any fun activation =>
        decide (activation.connections.map (·.phase) = [.checking, .ended, .ended])) = true := by decide +kernel
  obtain ⟨s, hs, hany⟩ := (Option.any_eq_true _ _).1 hrun
  obtain ⟨activation, hactivation, hphases⟩ := (Option.any_eq_true _ _).1 hany
  have hphases := of_decide_eq_true hphases
  obtain ⟨-, hwithin, hactive, hrelease, -⟩ := admitted_after hs (fun _ hnone => by cases hnone) hactivation
  -- the count is not read off the run; it follows from the phases
  have hthree : activation.active = 3 := by
    rw [hactive, ← Function.comp_def, ← List.countP_map, hphases]
    rfl
  obtain ⟨c, hc, hended⟩ : ∃ c, activation.connections[1]? = some c ∧ c.phase = .ended := by
    have hsecond : (activation.connections.map (·.phase))[1]? = some .ended := by rw [hphases]; rfl
    rw [List.getElem?_map] at hsecond
    exact Option.map_eq_some_iff.1 hsecond
  obtain ⟨t, activation', hstep, ht, hless⟩ := hrelease 1 c hc hended
  refine ⟨s, activation, hs, hactivation, hphases, hthree, hwithin, t, activation', hstep, ht, by omega⟩

end Server

end FtpIntake
