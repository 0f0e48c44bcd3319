import FtpIntake.Proofs.Server.Shutdown

/-!
# What a stop leaves behind

Stopping a server clears the tree when nothing is accepted any more, but it does not wait for the connections. One that
has got past its look at the signal can still execute a line, and if that is an `MKD`, there is a directory in the tree
that was cleared.

* **`Server.OneRuns`** is an invariant of all runs. An activation whose signal is off is the last one, and the server
  runs.
* **`Server.Aftermath`** is the invariant since the clearing. A connection that can still take a line has been able to
  since then and has done nothing else, and what is in the tree was made by such a line.
* **`Server.tree_after_clear`** is what follows for every order of steps, and `directory_outlives_stop` shows that the
  exception is real.

The steps since the clearing may be any but a start, since a server that is started again has clients of its own. The
lines that were late are counted too: one for each connection at most.
-/

namespace FtpIntake

theorem Phase.isAdmitted_of_linesLeft {phase : Phase} (h : phase.linesLeft = 1) : phase.isAdmitted = true := by
  cases phase with
  | listening | executing => rfl
  | _ => cases h

namespace Server

variable {σ : Type}

/-! ## Who can be without the signal

A stop ends with the clearing of the tree, and by then the signal is on in all activations. This holds because a
server is started only when it is stopped, so that only the activation started last can still be without the signal. -/

/-- Only the last activation can do without the shutdown signal, and only while the server runs. -/
def OneRuns (s : Server σ) : Prop :=
  ∀ i activation, s.activations[i]? = some activation →
    activation.signal.stopping = true ∨ (s.stage = .running ∧ i + 1 = s.activations.length)

theorem oneRuns_new (service : Service) (pipeline : σ) : OneRuns ({ service, pipeline } : Server σ) :=
  fun _ _ hactivation => by cases hactivation

/-- Whoever has stopped the server has sent the signal to everybody. -/
theorem OneRuns.stopping {s : Server σ} (h : s.OneRuns) (hstage : s.stage ≠ .running) {i : Nat}
    {activation : Activation} (hactivation : s.activations[i]? = some activation) :
    activation.signal.stopping = true :=
  (h i activation hactivation).resolve_right fun hruns => hstage hruns.1

variable [Pipeline σ]

theorem Advance.stage {s : Server σ} {activation : Activation} {c : Connection} {own : ConnectionStep}
    {result : Connection × Activation × Server σ} (h : Advance s activation c own result) :
    result.2.2.stage = s.stage := by
  have hsettle (verdict : Verdict) (x : Exchange σ) : (s.settle activation verdict x).2.2.stage = s.stage := by
    unfold settle
    rfl
  cases h with
  | counted | waiting | woken | heard | released => rfl
  | turnedAway | welcomed | dismissed | deserted | executed => exact hsettle _ _

/-- The owner alone changes the stage of a server and begins activations. -/
theorem Moves.owned {s s' : Server σ} {step : ServerStep} (h : Moves s step s') (hstart : ∀ address, step ≠ .start address)
    (hsignal : step ≠ .signal) (hdrain : step ≠ .drain) (hclear : step ≠ .clear) :
    s'.stage = s.stage ∧ s'.activations.length = s.activations.length := by
  cases h with
  | started address => exact absurd rfl (hstart address)
  | signalled | skipped => exact absurd rfl hsignal
  | drained => exact absurd rfl hdrain
  | cleared => exact absurd rfl hclear
  | filled => exact ⟨rfl, rfl⟩
  | accepted | closed => exact ⟨rfl, List.length_set⟩
  | advanced hactivation hconnection hadvance =>
    refine ⟨hadvance.stage, List.length_set.trans ?_⟩
    rw [hadvance.others.2.1]

/-- **Every step keeps to that**, if it does not take the signal back. -/
theorem OneRuns.moves {s s' : Server σ} {step : ServerStep} (h : s.OneRuns) (hmoves : Moves s step s')
    (hkept : step.revokes = false) : s'.OneRuns := by
  have hothers (howned : s'.stage = s.stage ∧ s'.activations.length = s.activations.length) : s'.OneRuns := by
    intro i activation' hactivation'
    have hi : i < s.activations.length := howned.2 ▸ (List.getElem?_eq_some_iff.1 hactivation').1
    rcases h i s.activations[i] (List.getElem?_eq_getElem hi) with hstopping | ⟨hstage, hlast⟩
    · have hbefore : s.isStopping i = true := isStopping_iff.2 ⟨_, List.getElem?_eq_getElem hi, hstopping⟩
      obtain ⟨found, hfound, hsignal⟩ := isStopping_iff.1 (hmoves.stopping hbefore hkept)
      obtain rfl := Option.some.inj (hactivation'.symm.trans hfound)
      exact .inl hsignal
    · exact .inr ⟨howned.1.trans hstage, hlast.trans howned.2.symm⟩
  -- in every other stage than that of a running server, the signal is on everywhere
  have hall {stage : OwnerStage} (hstage : s.stage = stage) (hnot : stage ≠ .running) (i : Nat) (activation : Activation)
      (hactivation : s.activations[i]? = some activation) : activation.signal.stopping = true :=
    h.stopping (hstage ▸ hnot) hactivation
  cases step with
  | fill | accept | closeListener | connection => exact hothers (hmoves.owned (by simp) (by simp) (by simp) (by simp))
  | start address =>
    cases hmoves with
    | started _ hstage =>
      intro i activation hactivation
      rw [begin, List.getElem?_append] at hactivation
      split at hactivation
      · exact .inl (hall hstage (by decide) i activation hactivation)
      · -- the new one is the last
        next hi =>
        have hlast : i - s.activations.length < 1 := (List.getElem?_eq_some_iff.1 hactivation).1
        refine .inr ⟨rfl, ?_⟩
        rw [begin, List.length_append, List.length_singleton]
        omega
  | signal =>
    cases hmoves with
    | skipped hstage => exact fun i activation hactivation => .inl (hall hstage (by decide) i activation hactivation)
    | signalled hstage =>
      intro i activation hactivation
      rw [sendSignal, List.getElem?_modify] at hactivation
      obtain ⟨before, hbefore, rfl⟩ := Option.map_eq_some_iff.1 hactivation
      left
      split
      · rfl
      · next hi =>
        refine (h i before hbefore).resolve_right fun hruns => hi ?_
        omega
  | drain =>
    cases hmoves with
    | drained hstage => exact fun i activation hactivation => .inl (hall hstage (by decide) i activation hactivation)
  | clear =>
    cases hmoves with
    | cleared hstage => exact fun i activation hactivation => .inl (hall hstage (by decide) i activation hactivation)

/-! ## Since the clearing

After the clearing nobody can begin to take lines: a connection that is let in looks at the signal first. So whoever
executes a line now could do so at the time of the clearing, and that line was read or about to be. -/

/-- The connection in a place could still take a line when the tree was cleared. Then it was about to take one of the
inputs, or read it afterwards, and this input is an `MKD` whose argument leads to the path from where its client was. -/
def MadeLate (cleared : Server σ) (steps : List ServerStep) (p : Path) : Prop :=
  ∃ i k c, cleared.connection? i k = some c ∧ c.phase.linesLeft = 1 ∧ c.client.loggedIn = true ∧
    ∃ input ∈ c.phase.pending ++ heardBy i k steps, ∃ r ∈ input.executed? cleared.service,
      Command.ofVerb? r.verb = some .makeDirectory ∧ ∃ text ∈ r.argument, c.client.cursor.current.resolve text = p

omit [Pipeline σ] in
theorem MadeLate.append {cleared : Server σ} {steps : List ServerStep} {p : Path} (h : MadeLate cleared steps p)
    (step : ServerStep) : MadeLate cleared (steps ++ [step]) p := by
  obtain ⟨i, k, c, hc, hleft, hin, input, hinput, hmakes⟩ := h
  refine ⟨i, k, c, hc, hleft, hin, input, ?_, hmakes⟩
  rw [heardBy, List.filterMap_append, ← List.append_assoc]
  exact List.mem_append_left _ hinput

/-- How a server stands that was cleared and has taken some steps since. -/
structure Aftermath (cleared : Server σ) (steps : List ServerStep) (s : Server σ) : Prop where
  serves : s.service = cleared.service
  oneRuns : s.OneRuns
  stage : s.stage ≠ .running
  unchanged : ∀ i k d, s.connection? i k = some d → d.phase.linesLeft = 1 →
    ∃ c, cleared.connection? i k = some c ∧ c.phase.linesLeft = 1 ∧ d.client = c.client ∧
      d.phase.pending = c.phase.pending ++ heardBy i k steps
  tree : ∀ p ∈ s.tree, p = Path.root ∨ MadeLate cleared steps p

omit [Pipeline σ] in
theorem aftermath_clearTree {s : Server σ} (h : s.OneRuns) (hstage : s.stage ≠ .running) :
    Aftermath s.clearTree [] s.clearTree := by
  refine ⟨rfl, fun i activation hactivation => .inl (h.stopping hstage hactivation), nofun, fun i k c hc hleft => ?_,
    fun p hp => .inl (Tree.mem_empty.1 hp)⟩
  exact ⟨c, hc, hleft, rfl, (List.append_nil _).symm⟩

/-- A connection that can still take a line when the server is stopping could do so before, and has at most read it. -/
theorem Advance.linesLeft {s : Server σ} {activation : Activation} {c : Connection} {own : ConnectionStep}
    {result : Connection × Activation × Server σ} (h : Advance s activation c own result)
    (hstopping : activation.signal.stopping = true) (hleft : result.1.phase.linesLeft = 1) :
    c.phase.linesLeft = 1 ∧ result.1.client = c.client ∧
      result.1.phase.pending = c.phase.pending ++ own.input?.toList := by
  have hsettle (verdict : Verdict) (x : Exchange σ) : (s.settle activation verdict x).1.phase.linesLeft = 0 := by
    cases verdict <;> rfl
  cases h with
  | counted | woken | released => cases hleft
  | waiting hphase hoff => cases hoff.symm.trans hstopping
  | turnedAway | welcomed | dismissed | deserted | executed => cases (hsettle _ _).symm.trans hleft
  | heard input hphase =>
    rw [hphase]
    exact ⟨rfl, rfl, rfl⟩

/-- A connection that is there after a step was there before, or has just been accepted. -/
theorem Moves.connection_before {s s' : Server σ} {step : ServerStep} (h : Moves s step s') {i k : Nat} {d : Connection}
    (hd : s'.connection? i k = some d) :
    (∃ c, s.connection? i k = some c) ∨ ∃ peer here, d = Connection.accepted peer here := by
  obtain ⟨activation', hactivation', hget⟩ := Option.bind_eq_some_iff.1 hd
  cases h with
  | skipped | drained | cleared | filled => exact .inl ⟨d, hd⟩
  | started address =>
    rw [begin, List.getElem?_append] at hactivation'
    split at hactivation'
    · exact .inl ⟨d, Option.bind_eq_some_iff.2 ⟨activation', hactivation', hget⟩⟩
    · -- a new activation has no connections
      obtain rfl := List.mem_singleton.1 (List.mem_of_getElem? hactivation')
      cases hget
  | signalled =>
    rw [sendSignal, List.getElem?_modify] at hactivation'
    obtain ⟨activation, hactivation, rfl⟩ := Option.map_eq_some_iff.1 hactivation'
    refine .inl ⟨d, Option.bind_eq_some_iff.2 ⟨activation, hactivation, ?_⟩⟩
    split at hget <;> exact hget
  | @accepted j activation peer here hactivation =>
    by_cases hj : j = i
    · subst hj
      rw [List.getElem?_set_self (List.getElem?_eq_some_iff.1 hactivation).1] at hactivation'
      obtain rfl := Option.some.inj hactivation'
      rw [List.getElem?_append] at hget
      split at hget
      · exact .inl ⟨d, Option.bind_eq_some_iff.2 ⟨activation, hactivation, hget⟩⟩
      · obtain rfl := List.mem_singleton.1 (List.mem_of_getElem? hget)
        exact .inr ⟨peer, here, rfl⟩
    · rw [List.getElem?_set_ne hj] at hactivation'
      exact .inl ⟨d, Option.bind_eq_some_iff.2 ⟨activation', hactivation', hget⟩⟩
  | @closed j activation hactivation =>
    by_cases hj : j = i
    · subst hj
      rw [List.getElem?_set_self (List.getElem?_eq_some_iff.1 hactivation).1] at hactivation'
      obtain rfl := Option.some.inj hactivation'
      exact .inl ⟨d, Option.bind_eq_some_iff.2 ⟨activation, hactivation, hget⟩⟩
    · rw [List.getElem?_set_ne hj] at hactivation'
      exact .inl ⟨d, Option.bind_eq_some_iff.2 ⟨activation', hactivation', hget⟩⟩
  | @advanced j l activation changed c c' own t hactivation hconnection hadvance =>
    obtain ⟨hconnections, hactivations, -⟩ := hadvance.others
    have hplaces := connection?_set hactivation hconnection hactivations hconnections c'
    by_cases hself : (i, k) = (j, l)
    · obtain ⟨rfl, rfl⟩ := Prod.mk.inj hself
      exact .inl ⟨c, Option.bind_eq_some_iff.2 ⟨activation, hactivation, hconnection⟩⟩
    · exact .inl ⟨d, (hplaces.2 i k hself).symm.trans hd⟩

omit [Pipeline σ] in
/-- What is told of a request is told of a connection that had read it. -/
theorem executing_of_deed {s s' : Server σ} {step : ServerStep} {directory : Path} {r : Request} {codes : List Nat}
    (h : s.deed? step s' = some (.executed directory r codes)) :
    ∃ i k c input, s.connection? i k = some c ∧ c.phase = .executing input ∧ c.client.loggedIn = true ∧
      input.executed? s.service = some r ∧ c.client.cursor.current = directory := by
  unfold deed? at h
  split at h
  · -- three lookups have to succeed for a step to leave a deed: the connection, its line, and the request
    cases h
  · next i k circumstances =>
    obtain ⟨c, hc, h⟩ := Option.bind_eq_some_iff.1 h
    obtain ⟨c', -, h⟩ := Option.bind_eq_some_iff.1 h
    unfold executedDeed? at h
    split at h
    · next input hphase =>
      obtain ⟨hin, h⟩ := Option.ite_none_right_eq_some.1 h
      obtain ⟨found, hexecuted, h⟩ := Option.map_eq_some_iff.1 h
      cases h
      exact ⟨i, k, c, input, hc, hphase, hin, hexecuted, rfl⟩
    · cases h
  · cases h

/-- **What happens after the clearing keeps to that**, until the server is started again. -/
theorem Aftermath.step {cleared s s' : Server σ} {steps : List ServerStep} {step : ServerStep}
    (h : Aftermath cleared steps s) (hstep : s.step step = some s') (hkept : step.revokes = false)
    (hstart : ∀ address, step ≠ .start address) : Aftermath cleared (steps ++ [step]) s' := by
  have hmoves := moves_of_step hstep
  have hheard (i k : Nat) : heardBy i k (steps ++ [step]) = heardBy i k steps ++ (heardIn i k step).toList := by
    rw [heardBy, List.filterMap_append]
    exact congrArg (heardBy i k steps ++ ·) ((heardBy_cons i k step []).trans (List.append_nil _))
  refine ⟨(service_of_step hstep).trans h.serves, h.oneRuns.moves hmoves hkept, ?_, fun i k d hd hleft => ?_,
    fun p hp => ?_⟩
  · cases hmoves with
    | started address => exact absurd rfl (hstart address)
    | signalled | skipped | drained | cleared =>
      intro hruns
      cases hruns
    | filled | accepted | closed => exact h.stage
    | advanced hactivation hconnection hadvance =>
      intro hruns
      exact h.stage (hadvance.stage.symm.trans hruns)
  · rcases hmoves.connection_before hd with ⟨before, hbefore⟩ | ⟨peer, here, rfl⟩
    · rw [hheard]
      rcases hmoves.connection? hbefore with
        ⟨own, activation, result, rfl, hactivation, hadvance, hafter⟩ | ⟨hother, hafter⟩
      · obtain rfl := Option.some.inj (hafter.symm.trans hd)
        obtain ⟨hbeforeLeft, hclient, hpending⟩ :=
          hadvance.linesLeft (h.oneRuns.stopping h.stage hactivation) hleft
        obtain ⟨c, hc, hcLeft, hsame, hread⟩ := h.unchanged i k before hbefore hbeforeLeft
        have hown : heardIn i k (.connection i k own) = own.input? := if_pos rfl
        refine ⟨c, hc, hcLeft, hclient.trans hsame, ?_⟩
        rw [hpending, hread, hown, List.append_assoc]
      · obtain rfl := Option.some.inj (hafter.symm.trans hd)
        rw [hother, Option.toList_none, List.append_nil]
        exact h.unchanged i k before hbefore hleft
    · cases hleft
  · by_cases hroot : p = Path.root
    · exact .inl hroot
    right
    -- a path that is there was there before, or is told of in the deed of this step
    have hmem := mem_tree_of_step hstep hroot
    have hearlier (hp : p ∈ s.tree) : MadeLate cleared (steps ++ [step]) p :=
      ((h.tree p hp).resolve_left hroot).append step
    cases hdeed : s.deed? step s' with
    | none =>
      rw [hdeed] at hmem
      exact hearlier (hmem.1 hp)
    | some deed =>
      rw [hdeed] at hmem
      rcases hmem.1 hp with hmakes | ⟨hp, -⟩
      · -- it was made just now, by a connection that has executed what it had read
        cases deed with
        | cleared => exact hmakes.elim
        | executed directory r codes =>
          obtain ⟨hverb, text, htext, hpath⟩ := hmakes
          obtain ⟨i, k, d, input, hd, hphase, hin, hexecuted, rfl⟩ := executing_of_deed hdeed
          obtain ⟨c, hc, hleft, hsame, hread⟩ := h.unchanged i k d hd (by rw [hphase]; rfl)
          have hinput : input ∈ c.phase.pending ++ heardBy i k steps := by
            rw [← hread, hphase]
            exact List.mem_singleton_self input
          rw [hsame] at hin hpath
          rw [h.serves] at hexecuted
          have hmade : MadeLate cleared steps p :=
            ⟨i, k, c, hc, hleft, hin, input, hinput, r, hexecuted, hverb, text, htext, hpath⟩
          exact hmade.append step
      · exact hearlier hp

/-- **So does a whole run.** Induction on the steps. -/
theorem Aftermath.runSteps {cleared s s' : Server σ} {earlier steps : List ServerStep}
    (h : Aftermath cleared earlier s) (hrun : s.runSteps steps = some s')
    (hkept : ∀ step ∈ steps, step.revokes = false) (hstart : ∀ address, .start address ∉ steps) :
    Aftermath cleared (earlier ++ steps) s' := by
  induction steps generalizing s earlier with
  | nil =>
    obtain rfl := Option.some.inj hrun
    rw [List.append_nil]
    exact h
  | cons step steps ih =>
    obtain ⟨t, hstep, hrest⟩ := Option.bind_eq_some_iff.1 (List.foldlM_cons.symm.trans hrun)
    obtain ⟨hnow, hlater⟩ := List.forall_mem_cons.1 hkept
    -- the server is not started again, neither now nor later in the run
    have hfirst : ∀ address, step ≠ .start address := fun address heq =>
      hstart address (heq ▸ List.mem_cons_self)
    rw [List.append_cons]
    exact ih (h.step hstep hnow hfirst) hrest hlater fun address hmem =>
      hstart address (List.mem_cons_of_mem _ hmem)

/-- A stop ends with a clearing, at which the signal is on everywhere. -/
theorem aftermath_of_runSteps {service : Service} {pipeline : σ} {steps : List ServerStep} {s : Server σ}
    (hrun : ({ service, pipeline } : Server σ).runSteps (steps ++ [.clear]) = some s)
    (hkept : ∀ step ∈ steps, step.revokes = false) :
    s.service = service ∧ s.tree = Tree.empty ∧ Aftermath s [] s := by
  have hserves : s.service = service := ((chronicled_new service pipeline).runSteps hrun).serves
  rw [Server.runSteps, List.foldlM_append] at hrun
  obtain ⟨t, hsteps, hclear⟩ := Option.bind_eq_some_iff.1 hrun
  obtain ⟨u, hstep, hlast⟩ := Option.bind_eq_some_iff.1 (List.foldlM_cons.symm.trans hclear)
  obtain rfl := Option.some.inj hlast
  -- the steps before the clearing may start and stop the server as often as they like
  have honeRuns : t.OneRuns := runSteps_invariant hsteps (oneRuns_new service pipeline)
    fun step hmem t t' hmoves ht => ht.moves hmoves (hkept step hmem)
  cases moves_of_step hstep with
  | cleared hstage =>
    refine ⟨hserves, rfl, aftermath_clearTree honeRuns ?_⟩
    rw [hstage]
    exact nofun

/-! ## What is in the tree

The paths that exist are the root and those that such a line has made. -/

/--
**What is in the tree after a stop was made by a connection that was late.** A server has been stopped by a clearing of
its tree, which then holds the root alone, and has not been started again. Whatever happens from then on, every other
path in the tree was made by a client that was logged in, whose connection was waiting for a line or was about to take
one at the clearing. That connection takes at most one line, and it was this line that made the path, with an `MKD`.

So the tree holds the root alone until the next start, if at the clearing every connection stood between two lines or was
over.
-/
theorem tree_after_clear {service : Service} {pipeline : σ} {earlier later : List ServerStep} {s s' : Server σ}
    (hcleared : ({ service, pipeline } : Server σ).runSteps (earlier ++ [.clear]) = some s)
    (hrun : s.runSteps later = some s') (hkept : ∀ step ∈ earlier ++ later, step.revokes = false)
    (hstart : ∀ address, .start address ∉ later) :
    (∀ p, p ∈ s.tree ↔ p = Path.root) ∧
    (∀ p ∈ s'.tree, p = Path.root ∨
      ∃ i k c, s.connection? i k = some c ∧ c.phase.linesLeft = 1 ∧ c.client.loggedIn = true ∧
        (c.phase.pending ++ heardBy i k later).length ≤ 1 ∧
        ∃ input ∈ c.phase.pending ++ heardBy i k later, ∃ r ∈ input.executed? service,
          Command.ofVerb? r.verb = some .makeDirectory ∧
          ∃ text ∈ r.argument, c.client.cursor.current.resolve text = p) ∧
    ((∀ i k c, s.connection? i k = some c → c.phase.linesLeft = 0) → ∀ p, p ∈ s'.tree ↔ p = Path.root) := by
  obtain ⟨hserves, hempty, haftermath⟩ :=
    aftermath_of_runSteps hcleared fun step hmem => hkept step (List.mem_append_left _ hmem)
  have hlater (step : ServerStep) (hmem : step ∈ later) : step.revokes = false :=
    hkept step (List.mem_append_right _ hmem)
  have hend : Aftermath s later s' := haftermath.runSteps hrun hlater hstart
  have hlate (p : Path) (hp : p ∈ s'.tree) : p = Path.root ∨ MadeLate s later p := hend.tree p hp
  refine ⟨fun p => ?_, fun p hp => (hlate p hp).imp_right ?_, fun hnone p => ⟨fun hp => ?_, ?_⟩⟩
  · rw [hempty]
    exact Tree.mem_empty
  · rintro ⟨i, k, c, hc, hleft, hin, hmakes⟩
    -- the signal is on, so the connection is on its way to its end
    obtain ⟨activation, hactivation, -⟩ := Option.bind_eq_some_iff.1 hc
    have hstopping : s.isStopping i = true :=
      isStopping_iff.2 ⟨activation, hactivation, haftermath.oneRuns.stopping haftermath.stage hactivation⟩
    have hadmitted := Phase.isAdmitted_of_linesLeft hleft
    obtain ⟨-, c', -, hclosing, -⟩ :=
      (closing_of_isAdmitted hadmitted s.service).runSteps hc hstopping hrun hlater
    rw [hserves] at hmakes
    exact ⟨i, k, c, hc, hleft, hin, hleft ▸ hclosing.inputs_le.1, hmakes⟩
  · refine (hlate p hp).resolve_right ?_
    rintro ⟨i, k, c, hc, hleft, -⟩
    exact Nat.zero_ne_one ((hnone i k c hc).symm.trans hleft)
  · rintro rfl
    exact Tree.root_mem' s'.tree

/-! ### A directory that outlives the stop

One client is enough, whose `MKD` has been read when the signal is sent. -/

/-- The server is stopped while the line of a client has been read and has not been executed yet. -/
def stopDuringLine : List ServerStep :=
  visit ["USER ftp", "PASS x"] ++ [.connection 0 0 .look, .connection 0 0 (.hear (.line "MKD late".toUTF8.toList)),
    .signal, .closeListener 0, .drain]

/-- The line is executed when the server has been stopped, and the directory is still there when it is started again. -/
theorem directory_outlives_stop :
    ∃ s t u : Server Memory,
      ({ service := ⟨{}, .anonymous⟩, pipeline := {} } : Server Memory).runSteps (stopDuringLine ++ [.clear]) = some s ∧
      s.stage = .stopped ∧ s.tree.directories = [Path.root] ∧
      s.step (.connection 0 0 (.execute {})) = some t ∧ t.stage = .stopped ∧
      t.tree.directories.map toString = ["/late", "/"] ∧
      t.step (.start ⟨.v4 .loopback, 2121⟩) = some u ∧ u.stage = .running ∧
      u.tree.directories.map toString = ["/late", "/"] := by
  -- one evaluation for the three states: cleared, with the late directory, and started again
  have hrun : (({ service := ⟨{}, .anonymous⟩, pipeline := {} } : Server Memory).runSteps
      (stopDuringLine ++ [.clear])).any (fun s =>
        decide (s.stage = .stopped ∧ s.tree.directories = [Path.root]) &&
          (s.step (.connection 0 0 (.execute {}))).any fun t =>
            decide (t.stage = .stopped ∧ t.tree.directories.map toString = ["/late", "/"]) &&
              (t.step (.start ⟨.v4 .loopback, 2121⟩)).any fun u =>
                decide (u.stage = .running ∧ u.tree.directories.map toString = ["/late", "/"])) = true := by
    decide +kernel
  obtain ⟨s, hs, hany⟩ := (Option.any_eq_true _ _).1 hrun
  obtain ⟨hstopped, hany⟩ := Bool.and_eq_true_iff.1 hany
  obtain ⟨t, ht, hany⟩ := (Option.any_eq_true _ _).1 hany
  obtain ⟨hlate, hany⟩ := Bool.and_eq_true_iff.1 hany
  obtain ⟨u, hu, hagain⟩ := (Option.any_eq_true _ _).1 hany
  obtain ⟨hstage, hempty⟩ := of_decide_eq_true hstopped
  obtain ⟨hstage', htree⟩ := of_decide_eq_true hlate
  obtain ⟨hruns, hkept⟩ := of_decide_eq_true hagain
  exact ⟨s, t, u, hs, hstage, hempty, ht, hstage', htree, hu, hruns, hkept⟩

/-- It was made by the one connection that was late. -/
theorem tree_after_clear_of_stop_during_line :
    ∃ s t : Server Memory,
      ({ service := ⟨{}, .anonymous⟩, pipeline := {} } : Server Memory).runSteps (stopDuringLine ++ [.clear]) = some s ∧
      s.runSteps [.connection 0 0 (.execute {})] = some t ∧
      ∃ p ∈ t.tree, p ≠ Path.root ∧
        ∃ i k c, s.connection? i k = some c ∧ c.phase.linesLeft = 1 ∧ c.client.loggedIn = true ∧
          (c.phase.pending ++ heardBy i k [.connection 0 0 (.execute {})]).length ≤ 1 ∧
          ∃ input ∈ c.phase.pending ++ heardBy i k [.connection 0 0 (.execute {})],
            ∃ r ∈ input.executed? ⟨{}, .anonymous⟩, Command.ofVerb? r.verb = some .makeDirectory ∧
              ∃ text ∈ r.argument, c.client.cursor.current.resolve text = p := by
  have hrun : (({ service := ⟨{}, .anonymous⟩, pipeline := {} } : Server Memory).runSteps
      (stopDuringLine ++ [.clear])).any (fun s => (s.runSteps [.connection 0 0 (.execute {})]).any fun t =>
        t.tree.directories.any fun p => decide (p ≠ Path.root)) = true := by decide +kernel
  obtain ⟨s, hs, hany⟩ := (Option.any_eq_true _ _).1 hrun
  obtain ⟨t, ht, hany⟩ := (Option.any_eq_true _ _).1 hany
  obtain ⟨p, hp, hroot⟩ := List.any_eq_true.1 hany
  have hroot : p ≠ Path.root := of_decide_eq_true hroot
  have hmade := (tree_after_clear hs ht (by decide) (by simp)).2.1 p hp
  exact ⟨s, t, hs, ht, p, hp, hroot, hmade.resolve_left hroot⟩

end Server

end FtpIntake
