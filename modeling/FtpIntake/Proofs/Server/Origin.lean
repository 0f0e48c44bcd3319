import FtpIntake.Pipeline.Memory
import FtpIntake.Proofs.Connection.Origin
import FtpIntake.Proofs.Server.Steps

/-!
# What reaches the pipeline's labels

All connections of a server share one tree, so a directory that one client has made can be where another client's
uploads go. What the labels of committed units are made of is therefore a question about all requests that were heard,
in whatever order the connections take their turns.

* **`Server.Spelled`** is the invariant: the tree, the place of every client and the record of every connection consist
  of characters with a property. `Spelled.moves` keeps it over every step.
* **`Server.control_of_committed`** is what follows for control characters. There is only one way in for them, the
  argument of `MKD`, and `control_in_label` shows that they do get in there.

A property of characters is a parameter up to the last section, and so is the set of requests. Only there does it
become a statement on control characters.
-/

namespace FtpIntake

open Text Upload

variable {σ : Type} {P : Char → Prop} {service : Service}

/-! ## What was heard

A server hears a request when one of its connections reads a line that will be executed. -/

/-- The request that a step brings to a server. -/
def ServerStep.request? (service : Service) : ServerStep → Option Request
  | .connection _ _ (.hear input) => input.executed? service
  | _ => none

/-- The requests that a server hears, in order, whoever sends them. -/
def Server.requests (service : Service) (steps : List ServerStep) : List Request :=
  steps.filterMap (ServerStep.request? service)

/-! ## The invariant

Names get into the tree from requests, into the place of a client from the tree, and into the labels from the place of
a client and the argument of its `STOR`. So all three are looked at together, and with them the requests that were
read and are still to be executed. -/

/-- A client's place, the labels in its record and the request that it waits for consist of such characters. -/
structure Connection.Spelled (service : Service) (P : Char → Prop) (c : Connection) : Prop where
  place : c.client.cursor.current.MadeOf P
  labelled : Labelled P c.effects.reverse
  heard : ∀ input, c.phase = .executing input → ∀ r ∈ input.executed? service, r.Spells P

/-- The same for all clients, and for the tree. -/
structure Server.Spelled (service : Service) (P : Char → Prop) (s : Server σ) : Prop where
  serves : s.service = service
  tree : ∀ p ∈ s.tree, p.MadeOf P
  connections : ∀ activation ∈ s.activations, ∀ c ∈ activation.connections, c.Spelled service P

theorem Connection.Spelled.phase {c : Connection} (h : c.Spelled service P) {phase : Phase}
    (hphase : ∀ input, phase ≠ .executing input) : Connection.Spelled service P { c with phase } :=
  ⟨h.place, h.labelled, fun input hinput => absurd hinput (hphase input)⟩

theorem Connection.spelled_accepted (service : Service) (P : Char → Prop) (peer here : Endpoint) :
    (accepted peer here).Spelled service P :=
  ⟨Path.madeOf_root, labelled_of_notMem (by simp [accepted]), nofun⟩

namespace Server

theorem spelled_new (service : Service) (P : Char → Prop) (pipeline : σ) :
    Spelled service P ({ service, pipeline } : Server σ) := by
  refine ⟨rfl, fun p hp => ?_, nofun⟩
  rw [Tree.mem_empty.1 hp]
  exact Path.madeOf_root

/-! ## One step of a connection

What a line does is known from the exchange that it is. What is left are the steps that execute nothing. -/

/-- What a connection leaves behind, as far as names go. -/
structure Kept (service : Service) (P : Char → Prop) (s : Server σ) (activation : Activation)
    (result : Connection × Activation × Server σ) : Prop where
  connection : result.1.Spelled service P
  others : result.2.1.connections = activation.connections
  tree : ∀ p ∈ result.2.2.tree, p.MadeOf P
  serves : result.2.2.service = s.service
  activations : result.2.2.activations = s.activations

theorem kept_settle {s : Server σ} (activation : Activation) (verdict : Verdict) {x : Exchange σ}
    (h : x.Spelled P) : Kept service P s activation (s.settle activation verdict x) := by
  have hafter (input : Input) : Phase.after verdict ≠ .executing input := by
    cases verdict <;> exact nofun
  unfold settle
  dsimp only
  split
  · exact ⟨⟨h.place, h.closeChannel.labelled, fun input hinput => absurd hinput (hafter input)⟩, rfl, h.tree, rfl, rfl⟩
  · exact ⟨⟨h.place, h.labelled, fun input hinput => absurd hinput (hafter input)⟩, rfl, h.tree, rfl, rfl⟩

theorem kept_phase {s : Server σ} (hs : s.Spelled service P) (activation : Activation) {c : Connection}
    (hc : c.Spelled service P) {phase : Phase} (active : Nat)
    (hheard : ∀ input, phase = .executing input → ∀ r ∈ input.executed? service, r.Spells P) :
    Kept service P s activation ({ c with phase }, { activation with active }, s) :=
  ⟨⟨hc.place, hc.labelled, hheard⟩, rfl, hs.tree, rfl, rfl⟩

variable [Pipeline σ]

/-- **What a connection does keeps to the spelling**, if what it hears does. -/
theorem Advance.kept {s : Server σ} {activation : Activation} {c : Connection} {step : ConnectionStep}
    {result : Connection × Activation × Server σ} (h : Advance s activation c step result)
    (hs : s.Spelled service P) (hc : c.Spelled service P) (hplain : ∀ c, isControl c = false → P c)
    (hheard : ∀ input, step = .hear input → ∀ r ∈ input.executed? service, r.Spells P) :
    Kept service P s activation result := by
  have hexchange (circumstances : Circumstances) : (s.exchange activation c circumstances).Spelled P :=
    ⟨hs.tree, hc.place, hc.labelled⟩
  -- only a connection that executes a line has anything to execute
  have hnothing {phase : Phase} (hphase : ∀ input, phase ≠ .executing input) (input : Input)
      (hinput : phase = .executing input) : ∀ r ∈ input.executed? service, r.Spells P :=
    absurd hinput (hphase input)
  cases h with
  | counted => exact kept_phase hs activation hc _ (hnothing nofun)
  | turnedAway => exact kept_settle activation _ ((hexchange {}).answer _)
  | welcomed => exact kept_settle activation _ ((hexchange {}).answer _)
  | dismissed => exact kept_settle activation _ ((hexchange {}).answer _)
  | waiting => exact kept_phase hs activation hc _ (hnothing nofun)
  | woken => exact kept_phase hs activation hc _ (hnothing nofun)
  | deserted => exact kept_settle activation _ (hexchange {})
  -- what is heard is spelled so by hypothesis; it is used when the line is executed
  | heard input =>
    refine kept_phase hs activation hc _ fun input' hinput => ?_
    cases hinput
    exact hheard input rfl
  -- the one step that adds to the tree, to the place of the client and to the record
  | @executed input circumstances hphase =>
    have hspells := hc.heard input hphase
    rw [← hs.serves] at hspells
    exact kept_settle activation _ ((hexchange circumstances).take hplain s.service hspells)
  | released => exact kept_phase hs activation hc _ (hnothing nofun)

/-! ## One step of a server

The owner and the accepting side bring no names with them. Clearing the tree takes some away. -/

omit [Pipeline σ] in
theorem Spelled.set {s : Server σ} (h : s.Spelled service P) {activation : Activation}
    (hactivation : ∀ c ∈ activation.connections, c.Spelled service P) (i : Nat) :
    Spelled service P { s with activations := s.activations.set i activation } := by
  refine ⟨h.serves, h.tree, fun a ha => ?_⟩
  rcases List.mem_or_eq_of_mem_set ha with ha | rfl
  · exact h.connections a ha
  · exact hactivation

/-- **Every step keeps to the spelling**, if the request that it brings does. -/
theorem Spelled.moves {s s' : Server σ} {step : ServerStep} (h : s.Spelled service P) (hmoves : Moves s step s')
    (hplain : ∀ c, isControl c = false → P c) (hheard : ∀ r ∈ step.request? service, r.Spells P) :
    s'.Spelled service P := by
  cases hmoves with
  | started address =>
    have hfresh : ∀ c ∈ ({} : Activation).connections, c.Spelled service P :=
      fun c hc => absurd hc List.not_mem_nil
    exact ⟨h.serves, h.tree, List.forall_mem_append.2 ⟨h.connections, List.forall_mem_singleton.2 hfresh⟩⟩
  | signalled =>
    refine ⟨h.serves, h.tree, fun activation hactivation => ?_⟩
    -- the signal is set on the activations, whose connections stay what they are
    obtain ⟨j, hj⟩ := List.mem_iff_getElem?.1 hactivation
    rw [sendSignal, List.getElem?_modify] at hj
    obtain ⟨before, hbefore, rfl⟩ := Option.map_eq_some_iff.1 hj
    have hconnections := h.connections before (List.mem_of_getElem? hbefore)
    split <;> exact hconnections
  | skipped => exact ⟨h.serves, h.tree, h.connections⟩
  | drained => exact ⟨h.serves, h.tree, h.connections⟩
  | cleared =>
    refine ⟨h.serves, fun p hp => ?_, h.connections⟩
    rw [Tree.mem_empty.1 hp]
    exact Path.madeOf_root
  | filled => exact ⟨h.serves, h.tree, h.connections⟩
  | @accepted i activation peer here hactivation =>
    refine h.set (List.forall_mem_append.2 ⟨h.connections _ (List.mem_of_getElem? hactivation), ?_⟩) i
    exact List.forall_mem_singleton.2 (Connection.spelled_accepted service P peer here)
  | @closed i activation hactivation =>
    have hconnections := h.connections activation (List.mem_of_getElem? hactivation)
    have hclosed : ∀ c ∈ { activation with accepting := false }.connections, c.Spelled service P := hconnections
    exact h.set hclosed i
  | @advanced i k activation activation' c c' step s' hactivation hconnection hadvance =>
    have hconnections := h.connections activation (List.mem_of_getElem? hactivation)
    have hkept := hadvance.kept h (hconnections c (List.mem_of_getElem? hconnection)) hplain ?_
    -- what the step leaves of the server first, then the connection in its place
    · have hs' : s'.Spelled service P := by
        refine ⟨hkept.serves.trans h.serves, hkept.tree, ?_⟩
        rw [hkept.activations]
        exact h.connections
      refine hs'.set (fun d hd => ?_) i
      rcases List.mem_or_eq_of_mem_set hd with hd | rfl
      · rw [hkept.others] at hd
        exact hconnections d hd
      · exact hkept.connection
    · rintro input rfl
      exact hheard

/-! ## Control characters

The property is now that a character is no control character or stood in the argument of some `MKD`. An argument of
`STOR` with a control character in it is refused, so a label can only have it from a directory. -/

/--
**A control character in a label was in the argument of `MKD`.** In whatever order the connections of a server take
their turns, every upload that is committed has given its unit a filename and a path right before, and a control
character in one of the two was in the argument of an `MKD` that some client has sent. In particular there is none
where no such argument holds one.
-/
theorem control_of_committed {pipeline : σ} {steps : List ServerStep} {s : Server σ}
    (hrun : ({ service, pipeline } : Server σ).runSteps steps = some s) {activation : Activation}
    (hactivation : activation ∈ s.activations) {c : Connection} (hconnection : c ∈ activation.connections)
    {earlier later : List Effect} (hcommit : c.effects.reverse = earlier ++ .called ⟨.commit, true⟩ :: later) :
    ∃ before unit filename path,
      earlier = before ++ (succeeded [.putAttribute unit filenameAttribute filename,
        .putAttribute unit pathAttribute path, .transfer unit successRelationship]).map .called ∧
      ∀ char ∈ filename.toList ++ path.toList, isControl char = true →
        ∃ r ∈ requests service steps, Command.ofVerb? r.verb = some .makeDirectory ∧
          ∃ argument ∈ r.argument, char ∈ argument.toList := by
  -- a character is accounted for if it is no control character or was in such an argument
  let sent : Char → Prop := fun char => isControl char = true →
    ∃ r ∈ requests service steps, Command.ofVerb? r.verb = some .makeDirectory ∧
      ∃ argument ∈ r.argument, char ∈ argument.toList
  have hplain (char : Char) (hchar : isControl char = false) : sent char := by
    intro hcontrol
    exact absurd (hchar.symm.trans hcontrol) Bool.false_ne_true
  have hspelled : s.Spelled service sent := by
    refine runSteps_invariant hrun (spelled_new service sent pipeline) fun step hstep t t' hmoves ht => ?_
    refine ht.moves hmoves hplain fun r hr hverb argument hargument char hchar _ => ?_
    exact ⟨r, List.mem_filterMap.2 ⟨step, hstep, hr⟩, hverb, argument, hargument, hchar⟩
  obtain ⟨before, unit, target, hearlier, htarget⟩ :=
    (hspelled.connections activation hactivation c hconnection).labelled earlier later hcommit
  refine ⟨before, unit, target.fileName, target.containerText, hearlier, fun char hchar => ?_⟩
  have hslash : sent '/' := hplain '/' (by decide)
  rcases List.mem_append.1 hchar with hchar | hchar
  · exact htarget.of_mem_fileName hslash hchar
  · exact htarget.of_mem_containerText hslash hchar

/-! ### A run with a control character

The bell is not refused by `MKD`, and the argument of the `STOR` is clean. -/

/-- A server is started, is given a factory and lets a client in, which then sends some lines. A data connection that is
opened brings one byte. -/
def visit (lines : List String) : List ServerStep :=
  let peer : Endpoint := ⟨.v4 .loopback, 40000⟩
  let here : Endpoint := ⟨.v4 .loopback, 2121⟩
  let circumstances : Circumstances := { dial := .connected peer.ip { arriving := [[1]] } }
  [.start here, .fill 0, .accept 0 peer here, .connection 0 0 .count, .connection 0 0 .greet] ++
    lines.flatMap fun line =>
      [.connection 0 0 .look, .connection 0 0 (.hear (.line line.toUTF8.toList)),
        .connection 0 0 (.execute circumstances)]

/-- A client that makes a directory whose name ends in a bell, goes there and uploads to the place where it is. -/
def bellVisit : List ServerStep :=
  visit ["USER ftp", "PASS x", "MKD a\x07", "CWD a\x07", "PORT 127,0,0,1,4,1", "STOR ."]

/-- The upload is committed, and the bell is in the filename: the argument of this `STOR` is a dot. -/
theorem control_in_label :
    ∃ s : Server Memory,
      ({ service := ⟨{}, .anonymous⟩, pipeline := {} } : Server Memory).runSteps bellVisit = some s ∧
      s.pipeline.committed.map (fun f => (f.attribute? filenameAttribute, f.attribute? pathAttribute)) =
        [(some "a\x07", some "/")] ∧
      isControl '\x07' = true := by
  have hrun : (({ service := ⟨{}, .anonymous⟩, pipeline := {} } : Server Memory).runSteps bellVisit).map
      (fun s => s.pipeline.committed.map fun f => (f.attribute? filenameAttribute, f.attribute? pathAttribute)) =
        some [(some "a\x07", some "/")] := by decide +kernel
  obtain ⟨s, hs, hcommitted⟩ := Option.map_eq_some_iff.1 hrun
  exact ⟨s, hs, hcommitted, by decide⟩

/-- The bell of that run was in the argument of its `MKD`. -/
theorem control_of_committed_of_bell :
    ∃ (s : Server Memory) (activation : Activation) (c : Connection) (earlier later : List Effect),
      ({ service := ⟨{}, .anonymous⟩, pipeline := {} } : Server Memory).runSteps bellVisit = some s ∧
      activation ∈ s.activations ∧ c ∈ activation.connections ∧
      c.effects.reverse = earlier ++ .called ⟨.commit, true⟩ :: later ∧
      ∃ before unit filename path,
        earlier = before ++ (succeeded [.putAttribute unit filenameAttribute filename,
          .putAttribute unit pathAttribute path, .transfer unit successRelationship]).map .called ∧
        ∀ char ∈ filename.toList ++ path.toList, isControl char = true →
          ∃ r ∈ requests ⟨{}, .anonymous⟩ bellVisit, Command.ofVerb? r.verb = some .makeDirectory ∧
            ∃ argument ∈ r.argument, char ∈ argument.toList := by
  -- the run is evaluated once, up to the commit; the theorem does the rest
  let commits : Effect → Bool
    | .called record => record = ⟨.commit, true⟩
    | _ => false
  have hrun : (({ service := ⟨{}, .anonymous⟩, pipeline := {} } : Server Memory).runSteps bellVisit).any
      (fun s => s.activations.any fun a => a.connections.any fun c => c.effects.reverse.any commits) = true := by
    decide +kernel
  obtain ⟨s, hs, hactivations⟩ := (Option.any_eq_true _ _).1 hrun
  obtain ⟨activation, hactivation, hconnections⟩ := List.any_eq_true.1 hactivations
  obtain ⟨c, hconnection, heffects⟩ := List.any_eq_true.1 hconnections
  obtain ⟨effect, heffect, hcommits⟩ := List.any_eq_true.1 heffects
  have hcommit : effect = .called ⟨.commit, true⟩ := by
    cases effect with
    | called record => rw [of_decide_eq_true hcommits]
    | _ => exact Bool.noConfusion hcommits
  obtain ⟨earlier, later, hsplit⟩ := List.append_of_mem (hcommit ▸ heffect)
  exact ⟨s, activation, c, earlier, later, hs, hactivation, hconnection, hsplit,
    control_of_committed hs hactivation hconnection hsplit⟩

end Server

end FtpIntake
