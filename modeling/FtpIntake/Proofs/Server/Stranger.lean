import FtpIntake.Pipeline.Faulty
import FtpIntake.Proofs.Connection.Stranger
import FtpIntake.Proofs.Server.Conversations
import FtpIntake.Proofs.Server.Directories

/-!
# What a server keeps from strangers

Two servers have the same configuration and nothing else in common: their trees, their slots, their pipelines and their
other connections are different, and so is the order in which things happen. A client that is not logged in cannot tell
which of the two it is talking to.

* **`Server.heardBy`** is what a connection has read in the steps of a run.
* **`Server.Mirrors`** is the invariant. A connection stands where a conversation stands that has taken the same inputs
  with nobody else around. `Mirrors.runSteps` keeps it over a run in which the client remains a stranger and no shutdown
  is signalled.
* **`Server.written_eq_of_heard`** is what follows for two servers.

The proof compares each server with a third thing, a conversation that has no server around it, and not the servers
with each other. So the two runs need not have the same length, and nobody has to say which steps belong together.
-/

namespace FtpIntake

/-- A connection that was let in and has been sent the greeting, and nothing else has happened to it. How it takes what
it is sent is up to it. -/
structure Connection.JustGreeted (c : Connection) (respond : (offers taken : Nat) → WriteResponse) : Prop where
  phase : c.phase = .checking
  client : ∃ peer here, c.client = (Conversation.greeted peer here respond).client

/-- Greeted clients are alike, wherever they come from. -/
theorem Connection.JustGreeted.alike {c d : Connection} {respond : (offers taken : Nat) → WriteResponse}
    (hc : c.JustGreeted respond) (hd : d.JustGreeted respond) : c.client.Alike d.client := by
  obtain ⟨peer, here, hclient⟩ := hc.client
  obtain ⟨peer', here', hclient'⟩ := hd.client
  rw [hclient, hclient']
  have hqueued : (({ peer, here, outgoing := { receiver := { respond } } } : Client).queue Reply.welcome).Alike
      (({ peer := peer', here := here', outgoing := { receiver := { respond } } } : Client).queue Reply.welcome) :=
    ⟨rfl, rfl⟩
  exact hqueued.flushAll.2

/-- A connection that a server has just welcomed has just been greeted, and takes everything. -/
theorem Connection.justGreeted_of_welcomed {σ : Type} [Pipeline σ] (s : Server σ) (activation : Activation)
    (peer here : Endpoint) {place : Nat} (hroom : ¬s.service.config.maxClients < place) :
    ∃ c activation' s',
      s.stepConnection activation { Connection.accepted peer here with phase := .counted place } .greet =
        some (c, activation', s') ∧
      c.JustGreeted fun _ _ => .takeAll := by
  obtain ⟨c, activation', s', hstep, hphase, hgreeted⟩ :=
    Conversation.ofConnection_welcomed s activation peer here hroom
  exact ⟨c, activation', s', hstep, hphase, peer, here, congrArg Conversation.client hgreeted⟩

/-- What a connection has read and is about to take. -/
def Phase.pending : Phase → List Input
  | .executing input => [input]
  | _ => []

/-- A turn in which nothing is shared with anybody. -/
def Turn.alone (input : Input) : Turn Memory where
  input
  tree := Tree.empty
  surroundings := {}
  pipeline := {}
  circumstances := {}

/-- What a connection reads in one go. -/
def ConnectionStep.input? : ConnectionStep → Option Input
  | .hear input => some input
  | _ => none

namespace Server

/-! ## What happens to one connection

Everything but its own steps leaves a connection as it is, also what the owner does and what other connections do to
the tree, the slot and the pipeline. -/

/-- What the connection in a place reads in a step of the server. -/
def heardIn (i k : Nat) : ServerStep → Option Input
  | .connection j l own => if (j, l) = (i, k) then own.input? else none
  | _ => none

/-- What a connection reads in some steps, in order. -/
def heardBy (i k : Nat) (steps : List ServerStep) : List Input :=
  steps.filterMap (heardIn i k)

variable {σ : Type}

/-- The client of a connection is not logged in, and no shutdown has been signalled to it. -/
def isStranger (s : Server σ) (i k : Nat) : Bool :=
  (s.connection? i k).all (fun c => !c.client.loggedIn) &&
    s.activations[i]?.all fun activation => decide (activation.signal = {})

variable [Pipeline σ]

/-- The states that a server goes through in some steps, the first and the last among them. -/
def states (s : Server σ) : List ServerStep → List (Server σ)
  | [] => [s]
  | step :: steps =>
    s :: match s.step step with
      | some s' => s'.states steps
      | none => []

omit [Pipeline σ] in
/-- A connection stays where it is when some activation is changed, but keeps the connections that it has. -/
theorem connection?_of_set {s t : Server σ} {i j k : Nat} {activation changed : Activation} {c : Connection}
    (hc : s.connection? i k = some c) (hactivation : s.activations[j]? = some activation)
    (hkeeps : ∀ d, activation.connections[k]? = some d → changed.connections[k]? = some d)
    (hset : t.activations = s.activations.set j changed) : t.connection? i k = some c := by
  obtain ⟨found, hfound, hget⟩ := Option.bind_eq_some_iff.1 hc
  unfold connection?
  rw [hset]
  by_cases hsame : j = i
  · subst hsame
    obtain rfl := Option.some.inj (hactivation.symm.trans hfound)
    rw [List.getElem?_set_self (List.getElem?_eq_some_iff.1 hactivation).1]
    exact hkeeps c hget
  · rw [List.getElem?_set_ne hsame]
    exact hc

/-- **Either it is the connection's own step, or nothing happens to the connection.** -/
theorem Moves.connection? {s s' : Server σ} {step : ServerStep} (h : Moves s step s') {i k : Nat} {c : Connection}
    (hc : s.connection? i k = some c) :
    (∃ own activation result, step = .connection i k own ∧ s.activations[i]? = some activation ∧
        Advance s activation c own result ∧ s'.connection? i k = some result.1) ∨
      (heardIn i k step = none ∧ s'.connection? i k = some c) := by
  obtain ⟨activation, hactivation, hget⟩ := Option.bind_eq_some_iff.1 hc
  cases h with
  -- steps that touch no connection leave this one where it is
  | skipped | drained | cleared | filled => exact .inr ⟨rfl, hc⟩
  | started address =>
    have hplace : i < s.activations.length := (List.getElem?_eq_some_iff.1 hactivation).1
    refine .inr ⟨rfl, Option.bind_eq_some_iff.2 ⟨activation, ?_, hget⟩⟩
    exact (List.getElem?_append_left hplace).trans hactivation
  -- the last activation is changed, but only its signal
  | signalled =>
    have hmodified : s.sendSignal.activations[i]? = s.activations[i]?.map fun activation =>
        if s.activations.length - 1 = i then { activation with signal := { stopping := true, senderGone := true } }
        else activation := List.getElem?_modify ..
    rw [hactivation] at hmodified
    refine .inr ⟨rfl, Option.bind_eq_some_iff.2 ⟨_, hmodified, ?_⟩⟩
    split <;> exact hget
  -- a new connection is put behind those that are there, so the places stay
  | accepted peer here hactivation' =>
    refine .inr ⟨rfl, connection?_of_set hc hactivation' (fun d hd => ?_) rfl⟩
    exact (List.getElem?_append_left (List.getElem?_eq_some_iff.1 hd).1).trans hd
  | closed hactivation' =>
    refine .inr ⟨rfl, connection?_of_set hc hactivation' (fun d hd => ?_) rfl⟩
    exact hd
  | @advanced j l activation' after d d' own t hactivation' hconnection hadvance =>
    obtain ⟨hconnections, hactivations, -⟩ := hadvance.others
    have hplaces := connection?_set hactivation' hconnection hactivations hconnections d'
    -- its own step, or the step of another connection
    by_cases hself : (i, k) = (j, l)
    · obtain ⟨rfl, rfl⟩ := Prod.mk.inj hself
      obtain rfl := Option.some.inj (hactivation.symm.trans hactivation')
      obtain rfl := Option.some.inj (hget.symm.trans hconnection)
      exact .inl ⟨own, activation, _, rfl, hactivation, hadvance, hplaces.1⟩
    · exact .inr ⟨if_neg (Ne.symm hself), (hplaces.2 i k hself).trans hc⟩

/-! ## The mirror

The conversation is one of a client alone with a server that has nothing in it. A client that is not logged in cannot
make the server look at the tree, the slot or the pipeline, so what it is told is the same. -/

/-- What becomes of a conversation in which these inputs are read and nobody else is around. -/
def alone (service : Service) (start : Conversation) (heard : List Input) : Conversation :=
  start.after service (heard.map Turn.alone)

theorem alone_append (service : Service) (start : Conversation) (heard : List Input) (input : Input) :
    alone service start (heard ++ [input]) = (alone service start heard).take service (Turn.alone input) := by
  rw [alone, List.map_append, Conversation.after, List.foldl_append]
  rfl

/-- The connection stands where the conversation stands that has read the same. What it has read and has not taken yet
is not part of the conversation. -/
def Mirrors (service : Service) (start : Conversation) (heard : List Input) (c : Connection) : Prop :=
  match c.phase with
  | .arrived | .counted _ => False
  | .checking | .listening =>
    (alone service start heard).verdict = .goesOn ∧ c.client.Alike (alone service start heard).client
  | .executing input => ∃ before, heard = before ++ [input] ∧
    (alone service start before).verdict = .goesOn ∧ c.client.Alike (alone service start before).client
  | .ended | .released =>
    (alone service start heard).verdict ≠ .goesOn ∧ c.client.Alike (alone service start heard).client

omit [Pipeline σ] in
/-- What an exchange leaves behind mirrors the conversation that has come to the same verdict. -/
theorem mirrors_settle {service : Service} {start : Conversation} {heard : List Input} (s : Server σ)
    (activation : Activation) {verdict : Verdict} {x : Exchange σ}
    (hverdict : (alone service start heard).verdict = verdict)
    (halike : x.client.Alike (alone service start heard).client) :
    Mirrors service start heard (s.settle activation verdict x).1 := by
  cases verdict with
  | goesOn => exact ⟨hverdict, halike⟩
  | quits | breaks =>
    refine ⟨?_, halike.login, halike.outgoing⟩
    rw [hverdict]
    exact nofun

/-- **A connection goes on mirroring the conversation**, as long as its client is a stranger and no shutdown is
signalled. One case for each thing that it can do. -/
theorem Mirrors.advance {start : Conversation} {heard : List Input} {s : Server σ} {activation : Activation}
    {c : Connection} {own : ConnectionStep} {result : Connection × Activation × Server σ}
    (h : Mirrors s.service start heard c) (hadvance : Advance s activation c own result)
    (hout : c.client.loggedIn = false) (hquiet : activation.signal = {}) :
    Mirrors s.service start (heard ++ own.input?.toList) result.1 := by
  have hstopping : activation.signal.stopping ≠ true := by
    rw [hquiet]
    exact Bool.false_ne_true
  have hgone : activation.signal.senderGone ≠ true := by
    rw [hquiet]
    exact Bool.false_ne_true
  have hnothing : heard ++ (none : Option Input).toList = heard := List.append_nil heard
  unfold Mirrors at h
  cases hadvance with
  | counted hphase | turnedAway hphase | welcomed hphase =>
    rw [hphase] at h
    exact h.elim
  | dismissed hphase hsignal | woken hphase hsignal => exact absurd hsignal hstopping
  | deserted hphase hsignal hsender => exact absurd hsender hgone
  | waiting hphase =>
    rw [hphase] at h
    rw [show ConnectionStep.look.input? = none from rfl, hnothing]
    exact h
  | heard input hphase =>
    rw [hphase] at h
    exact ⟨heard, rfl, h⟩
  | @executed input circumstances hphase =>
    rw [hphase] at h
    obtain ⟨before, rfl, hgoes, halike⟩ := h
    -- both take the same input, and the stranger's side of it comes out the same
    let x := s.exchange activation c circumstances
    have hexchange : x.client.Alike (alone s.service start before).client := halike
    obtain ⟨hverdict, halike'⟩ := Conversation.alike_take s.service hgoes hexchange hout (Turn.alone input)
    rw [← alone_append] at hverdict halike'
    rw [show (ConnectionStep.execute circumstances).input? = none from rfl, hnothing]
    exact mirrors_settle s activation hverdict halike'
  | released hphase =>
    rw [hphase] at h
    rw [show ConnectionStep.release.input? = none from rfl, hnothing]
    exact h

/-- **So it does over a whole run.** Induction on the steps, of which those of others leave the connection alone. -/
theorem Mirrors.runSteps {start : Conversation} {heard : List Input} {s s' : Server σ} {i k : Nat} {c : Connection}
    {steps : List ServerStep} (hc : s.connection? i k = some c) (h : Mirrors s.service start heard c)
    (hrun : s.runSteps steps = some s') (hstranger : ∀ t ∈ s.states steps, t.isStranger i k = true) :
    ∃ c', s'.connection? i k = some c' ∧ Mirrors s.service start (heard ++ heardBy i k steps) c' := by
  induction steps generalizing s c heard with
  | nil =>
    obtain rfl := Option.some.inj hrun
    refine ⟨c, hc, ?_⟩
    rw [heardBy, List.filterMap_nil, List.append_nil]
    exact h
  | cons step steps ih =>
    obtain ⟨t, hstep, hrest⟩ := Option.bind_eq_some_iff.1 (List.foldlM_cons.symm.trans hrun)
    have hheard : heardBy i k (step :: steps) = (heardIn i k step).toList ++ heardBy i k steps := by
      rw [heardBy, List.filterMap_eq_flatMap_toList, List.flatMap_cons, ← List.filterMap_eq_flatMap_toList]
      rfl
    have hstates : s.states (step :: steps) = s :: t.states steps := by
      rw [states, hstep]
    obtain ⟨hnow, hlater⟩ := List.forall_mem_cons.1 (hstates ▸ hstranger)
    -- being a stranger and the quiet signal are asked of every state on the way, so also of this one
    obtain ⟨hout, hquiet⟩ := Bool.and_eq_true_iff.1 hnow
    rw [hheard, ← List.append_assoc, ← service_of_step hstep]
    rcases (moves_of_step hstep).connection? hc with
      ⟨own, activation, result, rfl, hactivation, hadvance, hafter⟩ | ⟨hother, hafter⟩
    · rw [hc] at hout
      rw [hactivation] at hquiet
      have hread : heardIn i k (.connection i k own) = own.input? := if_pos rfl
      rw [hread]
      refine ih hafter ?_ hrest hlater
      rw [service_of_step hstep]
      exact h.advance hadvance (by simpa using hout) (by simpa using hquiet)
    · -- somebody else has moved: neither the connection nor what it has heard is changed
      rw [hother, Option.toList_none, List.append_nil]
      refine ih hafter ?_ hrest hlater
      rw [service_of_step hstep]
      exact h

/-! ## Two servers

Both connections mirror one conversation, and so they have written the same bytes. -/

/-- A connection that has just been greeted mirrors any greeted one that has read nothing. -/
theorem mirrors_of_justGreeted {c d : Connection} {respond : (offers taken : Nat) → WriteResponse}
    (service : Service) (hc : c.JustGreeted respond) (hd : d.JustGreeted respond) :
    Mirrors service (Conversation.ofConnection c []) [] d := by
  unfold Mirrors
  rw [hd.phase]
  exact ⟨rfl, hd.alike hc⟩

/-- What mirrors a conversation has taken what the conversation has. -/
theorem Mirrors.taken {service : Service} {start : Conversation} {heard : List Input} {c : Connection}
    (h : Mirrors service start heard c) :
    ∃ taken, heard = taken ++ c.phase.pending ∧
      (c.phase.isAdmitted = true ↔ (alone service start taken).verdict = .goesOn) ∧
      c.client.Alike (alone service start taken).client := by
  unfold Mirrors at h
  cases hphase : c.phase with
  | arrived | counted =>
    rw [hphase] at h
    exact h.elim
  | checking | listening =>
    rw [hphase] at h
    exact ⟨heard, (List.append_nil heard).symm, iff_of_true rfl h.1, h.2⟩
  -- the line that is being executed has been heard but not taken
  | executing input =>
    rw [hphase] at h
    obtain ⟨before, hheard, hgoes, halike⟩ := h
    exact ⟨before, hheard, iff_of_true rfl hgoes, halike⟩
  | ended | released =>
    rw [hphase] at h
    exact ⟨heard, (List.append_nil heard).symm, iff_of_false Bool.false_ne_true h.1, h.2⟩

/--
**A stranger is told nothing about the server.** Two servers have the same configuration. Each has a connection that has
just been greeted, and goes on from there in steps of its own, in which its connection remains a stranger. Then the two
connections are still there, and if they have taken the same inputs, they have written the same bytes, and one of them
has ended just if the other has.

The trees, the slots, the pipelines, the other connections and the addresses of the two clients are whatever they are,
and so is what the others do and when. What a connection has taken is what it has read, less what it is about to take.
-/
theorem written_eq_of_heard {σ τ : Type} [Pipeline σ] [Pipeline τ] {s s' : Server σ} {t t' : Server τ}
    (hservice : t.service = s.service) {i k j l : Nat} {c d : Connection} (hc : s.connection? i k = some c)
    (hd : t.connection? j l = some d) {respond : (offers taken : Nat) → WriteResponse}
    (hgreeted : c.JustGreeted respond) (hgreeted' : d.JustGreeted respond) {steps steps' : List ServerStep}
    (hrun : s.runSteps steps = some s') (hrun' : t.runSteps steps' = some t')
    (hstranger : ∀ u ∈ s.states steps, u.isStranger i k = true)
    (hstranger' : ∀ u ∈ t.states steps', u.isStranger j l = true) :
    ∃ c' d', s'.connection? i k = some c' ∧ t'.connection? j l = some d' ∧
      ∀ taken, heardBy i k steps = taken ++ c'.phase.pending → heardBy j l steps' = taken ++ d'.phase.pending →
        c'.written = d'.written ∧ c'.phase.isAdmitted = d'.phase.isAdmitted := by
  obtain ⟨c', hc', hmirrors⟩ := (mirrors_of_justGreeted s.service hgreeted hgreeted).runSteps hc hrun hstranger
  have hstart : Mirrors t.service (Conversation.ofConnection c []) [] d :=
    mirrors_of_justGreeted t.service hgreeted hgreeted'
  obtain ⟨d', hd', hmirrors'⟩ := hstart.runSteps hd hrun' hstranger'
  refine ⟨c', d', hc', hd', fun taken hheard hheard' => ?_⟩
  rw [List.nil_append, hheard] at hmirrors
  rw [List.nil_append, hheard', hservice] at hmirrors'
  obtain ⟨taken₁, hsame₁, hadmitted₁, halike₁⟩ := hmirrors.taken
  obtain ⟨taken₂, hsame₂, hadmitted₂, halike₂⟩ := hmirrors'.taken
  -- both mirror one conversation, namely that with the inputs that both have taken
  obtain rfl := List.append_cancel_right hsame₁
  obtain rfl := List.append_cancel_right hsame₂
  constructor
  · have houtgoing : c'.client.outgoing = d'.client.outgoing := halike₁.outgoing.symm.trans halike₂.outgoing
    exact congrArg (fun outgoing => outgoing.receiver.taken) houtgoing
  · exact Bool.eq_iff_iff.2 (hadmitted₁.trans hadmitted₂.symm)

/-! ### A guess at the password

The two servers of this run differ in everything but their configuration. -/

/-- The connection in a place reads a line and executes it. -/
def sends (i k : Nat) (line : String) : List ServerStep :=
  [.connection i k .look, .connection i k (.hear (.line line.toUTF8.toList)), .connection i k (.execute {})]

/-- Somebody guesses at the password and looks for a directory. One server has nobody else, and the other one has its
user, who makes that directory meanwhile. -/
theorem written_eq_of_guess :
    let service : Service := ⟨{}, .user "alice" "secret"⟩
    let takesAll : (offers taken : Nat) → WriteResponse := fun _ _ => .takeAll
    let here : Endpoint := ⟨.v4 .loopback, 2121⟩
    let greeted (port : UInt16) : Connection :=
      { client := (Conversation.greeted ⟨.v4 .loopback, port⟩ here takesAll).client, phase := .checking }
    let alice : Connection :=
      { client := { (greeted 40000).client with user := "alice", loggedIn := true }, phase := .checking }
    let empty : Server Memory :=
      { service, pipeline := {}, activations := [{ active := 1, connections := [greeted 40001] }] }
    let busy : Server Faulty :=
      { service, slot := ⟨some 7⟩, pipeline := {},
        activations := [{}, { active := 2, connections := [alice, greeted 40002] }] }
    let steps := sends 0 0 "USER alice" ++ sends 0 0 "PASS guess" ++ sends 0 0 "CWD a"
    let steps' := sends 1 1 "USER alice" ++ sends 1 0 "MKD a" ++ sends 1 1 "PASS guess" ++ sends 1 1 "CWD a"
    ∃ s' t' c' d', empty.runSteps steps = some s' ∧ busy.runSteps steps' = some t' ∧ s'.connection? 0 0 = some c' ∧
      t'.connection? 1 1 = some d' ∧ c'.written = d'.written := by
  intro service takesAll here greeted alice empty busy steps steps'
  -- both runs are over and nothing is pending, so all that was heard has been answered
  have hrun : (empty.runSteps steps).any (fun s' =>
      (s'.connection? 0 0).all fun c' => decide (c'.phase.pending = [])) = true := by decide +kernel
  have hrun' : (busy.runSteps steps').any (fun t' =>
      (t'.connection? 1 1).all fun d' => decide (d'.phase.pending = [])) = true := by decide +kernel
  obtain ⟨s', hs', hrest⟩ := (Option.any_eq_true _ _).1 hrun
  obtain ⟨t', ht', hrest'⟩ := (Option.any_eq_true _ _).1 hrun'
  have hgreeted (port : UInt16) : (greeted port).JustGreeted takesAll :=
    ⟨rfl, _, _, rfl⟩
  obtain ⟨c', d', hc', hd', hsame⟩ :=
    written_eq_of_heard (s := empty) (t := busy) (i := 0) (k := 0) (j := 1) (l := 1) rfl rfl rfl
      (hgreeted 40001) (hgreeted 40002) hs' ht' (by decide +kernel) (by decide +kernel)
  rw [hc', Option.all_some] at hrest
  rw [hd', Option.all_some] at hrest'
  have hpending : c'.phase.pending = [] := of_decide_eq_true hrest
  have hpending' : d'.phase.pending = [] := of_decide_eq_true hrest'
  have hheard : heardBy 0 0 steps = heardBy 1 1 steps' := by decide +kernel
  refine ⟨s', t', c', d', hs', ht', hc', hd', (hsame (heardBy 0 0 steps) ?_ ?_).1⟩
  · rw [hpending, List.append_nil]
  · rw [hpending', List.append_nil, hheard]

end Server

end FtpIntake
