import FtpIntake.Proofs.Connection.Directories
import FtpIntake.Proofs.Server.Steps
import FtpIntake.Proofs.Since

/-!
# Directories that clients share

All clients of a server work on one tree, each from a directory of its own, and a directory can be removed while
somebody is in it. Whether a path exists is not up to one client, but it is decided by the requests of all of them, in
the order in which they were executed.

* **`Server.chronicle`** is what there is to tell of a run: the requests of the clients that were logged in, and the
  times that the tree was cleared.
* **`Server.Chronicled`** is the invariant. The paths that exist are the root and those that some request has made and
  every request since then has spared.
* **`Server.directories_after`** is what follows for the request that is executed next, whoever sends it.

Requests of clients that are not logged in are not told of, because the gate keeps them from the tree. Neither are the
listings, which only look. What is told with a request is the place that it came from, since its argument may be
relative to it, and this place may be gone by now.
-/

namespace FtpIntake

/-- The path exists after these deeds. -/
def Stands (deeds : List Deed) (p : Path) : Prop :=
  p = Path.root ∨ Since (Deed.Makes p) (Deed.Spares p) deeds

namespace Server

variable {σ : Type}

/-! ## The chronicle

A run is retold as a list of deeds: what was asked, from where, and which codes it was answered with. The deeds are
all that the statement on directories knows of the run, so they have to be enough to tell which paths exist. -/

/-- The connection in a place of an activation. -/
def connection? (s : Server σ) (i k : Nat) : Option Connection :=
  s.activations[i]?.bind fun activation => activation.connections[k]?

/-- What is told of a connection that has executed what it had read, if its client was logged in. -/
def executedDeed? (service : Service) (before after : Connection) : Option Deed :=
  match before.phase with
  | .executing input =>
    if before.client.loggedIn then
      (input.executed? service).map fun r =>
        .executed before.client.cursor.current r (codesOf (addedTo before.effects after.effects))
    else none
  | _ => none

/-- What is told of a step between two states of a server. -/
def deed? (s : Server σ) (step : ServerStep) (s' : Server σ) : Option Deed :=
  match step with
  | .clear => some .cleared
  | .connection i k (.execute _) =>
    (s.connection? i k).bind fun before => (s'.connection? i k).bind fun after =>
      executedDeed? s.service before after
  | _ => none

/-- Of a connection that does anything but execute what was read, nothing is told. -/
theorem deed?_eq_none {s s' : Server σ} {i k : Nat} {step : ConnectionStep}
    (hstep : ∀ circumstances, step ≠ .execute circumstances) : s.deed? (.connection i k step) s' = none := by
  cases step with
  | execute circumstances => exact absurd rfl (hstep circumstances)
  | _ => rfl

variable [Pipeline σ]

/-- What is told of some steps, in order. -/
def chronicle (s : Server σ) : List ServerStep → List Deed
  | [] => []
  | step :: steps =>
    match s.step step with
    | some s' => (s.deed? step s').toList ++ s'.chronicle steps
    | none => []

/-! ## One step

A line is executed in a state that other connections have left behind. The step is taken apart into the exchange,
whose effect on tree and place is known, and what is put back into the server afterwards. -/

omit [Pipeline σ] in
/-- An exchange leaves its replies behind. The end of a data channel is no reply. -/
theorem repliesOf_settle (s : Server σ) (activation : Activation) (verdict : Verdict) {x : Exchange σ}
    {before added : List Effect} (heffects : x.effects.reverse = before.reverse ++ added) :
    repliesOf (addedTo before (s.settle activation verdict x).1.effects) = repliesOf added := by
  unfold settle
  dsimp only
  split
  · have hclosed : x.closeChannel.effects.reverse = before.reverse ++ (added ++ [.channelClosed]) := by
      show (Effect.channelClosed :: x.effects).reverse = _
      rw [List.reverse_cons, heffects, List.append_assoc]
    rw [addedTo_eq hclosed, repliesOf_append]
    exact List.append_nil _
  · rw [addedTo_eq heffects]

omit [Pipeline σ] in
/-- What an exchange leaves behind of the tree, of the client's directory and of its record. -/
theorem settle_frame (s : Server σ) (activation : Activation) (verdict : Verdict) (x : Exchange σ) :
    (s.settle activation verdict x).1.client.cursor = x.client.cursor ∧
      (s.settle activation verdict x).2.2.tree = x.tree ∧
      (s.settle activation verdict x).2.1.connections = activation.connections ∧
      (s.settle activation verdict x).2.2.activations = s.activations ∧
      (s.settle activation verdict x).2.2.service = s.service ∧
      ∀ before added, x.effects.reverse = before.reverse ++ added →
        codesOf (addedTo before (s.settle activation verdict x).1.effects) = codesOf added := by
  have hcodes : ∀ before added, x.effects.reverse = before.reverse ++ added →
      codesOf (addedTo before (s.settle activation verdict x).1.effects) = codesOf added := fun before added heffects =>
    congrArg (List.map Reply.code) (s.repliesOf_settle activation verdict heffects)
  revert hcodes
  unfold settle
  dsimp only
  split
  · exact fun hcodes => ⟨rfl, rfl, rfl, rfl, rfl, hcodes⟩
  · exact fun hcodes => ⟨rfl, rfl, rfl, rfl, rfl, hcodes⟩

/-- Whatever a connection does, it leaves the others and the service of the server alone. -/
theorem Advance.others {s : Server σ} {activation : Activation} {c : Connection} {step : ConnectionStep}
    {result : Connection × Activation × Server σ} (h : Advance s activation c step result) :
    result.2.1.connections = activation.connections ∧ result.2.2.activations = s.activations ∧
      result.2.2.service = s.service := by
  have hsettle (verdict : Verdict) (x : Exchange σ) :
      (s.settle activation verdict x).2.1.connections = activation.connections ∧
        (s.settle activation verdict x).2.2.activations = s.activations ∧
        (s.settle activation verdict x).2.2.service = s.service := by
    obtain ⟨-, -, hconnections, hactivations, hservice, -⟩ := s.settle_frame activation verdict x
    exact ⟨hconnections, hactivations, hservice⟩
  cases h with
  | turnedAway | welcomed | dismissed | deserted | executed => exact hsettle _ _
  | counted | waiting | woken | heard | released => exact ⟨rfl, rfl, rfl⟩

/-- A connection that does anything but execute what was read leaves the tree alone. -/
theorem Advance.tree {s : Server σ} {activation : Activation} {c : Connection} {step : ConnectionStep}
    {result : Connection × Activation × Server σ} (h : Advance s activation c step result)
    (hstep : ∀ circumstances, step ≠ .execute circumstances) : result.2.2.tree = s.tree := by
  -- a reply of the server itself touches no tree
  have hsaid (verdict : Verdict) (r : Reply) :
      (s.settle activation verdict ((s.exchange activation c {}).say r).2).2.2.tree = s.tree := by
    rw [(s.settle_frame activation verdict _).2.1]
    show ((s.exchange activation c {}).answer r).2.tree = _
    rw [Exchange.answer_snd]
    rfl
  cases h with
  | turnedAway | welcomed | dismissed => exact hsaid _ _
  | deserted => exact (s.settle_frame activation _ _).2.1
  | executed circumstances => exact absurd rfl (hstep circumstances)
  | counted | waiting | woken | heard | released => rfl

/-- A connection executes only what it has read. -/
theorem Advance.executing {s : Server σ} {activation : Activation} {c : Connection} {circumstances : Circumstances}
    {result : Connection × Activation × Server σ} (h : Advance s activation c (.execute circumstances) result) :
    ∃ input, c.phase = .executing input := by
  cases h with
  | executed _ hphase => exact ⟨_, hphase⟩

omit [Pipeline σ] in
/-- A connection that is put back in its place is there, and the others are where they were. -/
theorem connection?_set {s t : Server σ} {i k : Nat} {activation activation' : Activation} {c : Connection}
    (hactivation : s.activations[i]? = some activation) (hconnection : activation.connections[k]? = some c)
    (hactivations : t.activations = s.activations) (hconnections : activation'.connections = activation.connections)
    (c' : Connection) :
    let t' : Server σ :=
      { t with
        activations := t.activations.set i { activation' with connections := activation'.connections.set k c' } }
    t'.connection? i k = some c' ∧ ∀ j l, (j, l) ≠ (i, k) → t'.connection? j l = s.connection? j l := by
  intro t'
  have hi : i < s.activations.length := (List.getElem?_eq_some_iff.1 hactivation).1
  have hk : k < activation.connections.length := (List.getElem?_eq_some_iff.1 hconnection).1
  have hself : t'.activations[i]? = some { activation' with connections := activation.connections.set k c' } := by
    show (t.activations.set i _)[i]? = _
    rw [hactivations, List.getElem?_set_self hi, hconnections]
  refine ⟨?_, fun j l hne => ?_⟩
  · rw [connection?, hself]
    exact List.getElem?_set_self hk
  · by_cases hj : i = j
    · -- another connection of the same activation
      subst hj
      have hl : k ≠ l := fun heq => hne (by rw [heq])
      rw [connection?, connection?, hself, hactivation]
      exact List.getElem?_set_ne hl
    · have hother : t'.activations[j]? = s.activations[j]? := by
        show (t.activations.set i _)[j]? = _
        rw [hactivations, List.getElem?_set_ne hj]
      rw [connection?, connection?, hother]

/-- What a connection can do the server can, and everything else of it is as the connection leaves it. -/
theorem step_of_stepConnection {s : Server σ} {i k : Nat} {activation : Activation} {c : Connection}
    (hactivation : s.activations[i]? = some activation) (hconnection : activation.connections[k]? = some c)
    {step : ConnectionStep} {result : Connection × Activation × Server σ}
    (h : s.stepConnection activation c step = some result) :
    ∃ s', s.step (.connection i k step) = some s' ∧ s'.connection? i k = some result.1 ∧
      (∀ j l, (j, l) ≠ (i, k) → s'.connection? j l = s.connection? j l) ∧ s'.service = s.service ∧
      s'.tree = result.2.2.tree := by
  obtain ⟨hconnections, hactivations, hservice⟩ := (advance_of_stepConnection h).others
  have hplaces := connection?_set hactivation hconnection hactivations hconnections result.1
  refine ⟨_, ?_, hplaces.1, hplaces.2, hservice, rfl⟩
  refine Option.bind_eq_some_iff.2 ⟨activation, hactivation, Option.bind_eq_some_iff.2 ⟨c, hconnection, ?_⟩⟩
  exact Option.bind_eq_some_iff.2 ⟨result, h, rfl⟩

/-- **What a connection has read can be executed.** What comes of it is what the exchange leaves behind, and the other
connections stay as they are. -/
theorem step_execute {s : Server σ} {i k : Nat} {c : Connection} {input : Input}
    (hconnection : s.connection? i k = some c) (hphase : c.phase = .executing input) (circumstances : Circumstances) :
    ∃ activation s' c', s.step (.connection i k (.execute circumstances)) = some s' ∧ s'.connection? i k = some c' ∧
      (∀ j l, (j, l) ≠ (i, k) → s'.connection? j l = s.connection? j l) ∧ s'.service = s.service ∧
      let x := s.exchange activation c circumstances
      s'.tree = (x.take s.service input).2.tree ∧
      c'.client.cursor = (x.take s.service input).2.client.cursor ∧
      ∀ added, (x.take s.service input).2.history = x.history ++ added →
        codesOf (addedTo c.effects c'.effects) = codesOf added := by
  obtain ⟨activation, hactivation, hget⟩ := Option.bind_eq_some_iff.1 hconnection
  let x := s.exchange activation c circumstances
  -- a connection that executes a line has no other step to take than that line
  have hadvance : s.stepConnection activation c (.execute circumstances) =
      some (s.settle activation (x.take s.service input).1 (x.take s.service input).2) := by
    unfold stepConnection
    rw [hphase]
  obtain ⟨s', hstep, hplace, hothers, hservice, htree⟩ := step_of_stepConnection hactivation hget hadvance
  obtain ⟨hcursor, hsame, -, -, -, hcodes⟩ :=
    s.settle_frame activation (x.take s.service input).1 (x.take s.service input).2
  exact ⟨activation, s', _, hstep, hplace, hothers, hservice, htree.trans hsame, hcursor,
    fun added hhistory => hcodes c.effects added hhistory⟩

/-! ## The whole run

The invariant compares the tree of a state with what the chronicle up to that state says of each path. It is kept by
induction on the steps; the statement is then about the step that comes next. -/

/-- The paths that exist are those that stand according to what has been told. -/
structure Chronicled (service : Service) (deeds : List Deed) (s : Server σ) : Prop where
  serves : s.service = service
  stands : ∀ p, p ∈ s.tree ↔ Stands deeds p

omit [Pipeline σ] in
theorem chronicled_new (service : Service) (pipeline : σ) :
    Chronicled service [] ({ service, pipeline } : Server σ) := by
  refine ⟨rfl, fun p => ?_⟩
  show p ∈ Tree.empty ↔ _
  rw [Tree.mem_empty]
  exact (or_iff_left not_since_nil).symm

/-- What is told of an execution says what has become of each path. -/
theorem mem_tree_of_execute {s s' : Server σ} {i k : Nat} {c : Connection} {input : Input}
    {circumstances : Circumstances} (h : s.step (.connection i k (.execute circumstances)) = some s')
    (hconnection : s.connection? i k = some c) (hphase : c.phase = .executing input) (p : Path) :
    match s.deed? (.connection i k (.execute circumstances)) s' with
    | none => p ∈ s'.tree ↔ p ∈ s.tree
    | some deed => p ∈ s'.tree ↔ deed.Makes p ∨ (p ∈ s.tree ∧ deed.Spares p) := by
  obtain ⟨activation, t, c', hstep, hafter, -, -, htree, -, hcodes⟩ := step_execute hconnection hphase circumstances
  obtain rfl : t = s' := Option.some.inj (hstep.symm.trans h)
  let x := s.exchange activation c circumstances
  have hdeed : s.deed? (.connection i k (.execute circumstances)) t =
      if c.client.loggedIn then
        (input.executed? s.service).map fun r =>
          .executed c.client.cursor.current r (codesOf (addedTo c.effects c'.effects))
      else none := by
    simp only [deed?, hconnection, hafter, Option.bind_some, executedDeed?, hphase]
  rw [hdeed, htree]
  cases hin : c.client.loggedIn with
  | false =>
    rw [if_neg Bool.false_ne_true, Exchange.tree_take_of_none (x := x) (.inr hin)]
    exact Iff.rfl
  | true =>
    rw [if_pos rfl]
    cases hexecuted : input.executed? s.service with
    | none =>
      rw [Exchange.tree_take_of_none (x := x) (.inl hexecuted)]
      exact Iff.rfl
    | some r =>
      -- only here is anything told, and then with the codes of the replies that the exchange has added
      obtain ⟨added, hhistory, hattended⟩ := Exchange.attended_take (x := x) hexecuted hin
      rw [hcodes added hhistory]
      exact hattended.tree p

/-- What is told of a step says what has become of each path. -/
theorem mem_tree_of_step {s s' : Server σ} {step : ServerStep} (h : s.step step = some s') {p : Path}
    (hroot : p ≠ Path.root) :
    match s.deed? step s' with
    | none => p ∈ s'.tree ↔ p ∈ s.tree
    | some deed => p ∈ s'.tree ↔ deed.Makes p ∨ (p ∈ s.tree ∧ deed.Spares p) := by
  cases moves_of_step h with
  | started | signalled | skipped | drained | filled | accepted | closed => exact Iff.rfl
  | cleared =>
    -- a clearing neither makes a path nor spares one
    show p ∈ Tree.empty ↔ False ∨ (p ∈ s.tree ∧ False)
    rw [Tree.mem_empty]
    simp [hroot]
  | @advanced i k activation activation' c c' step t hactivation hconnection hadvance =>
    by_cases hexecute : ∃ circumstances, step = .execute circumstances
    · obtain ⟨circumstances, rfl⟩ := hexecute
      have hget : s.connection? i k = some c := by
        rw [connection?, hactivation]
        exact hconnection
      obtain ⟨input, hphase⟩ := hadvance.executing
      exact mem_tree_of_execute h hget hphase p
    · have hother := not_exists.1 hexecute
      rw [deed?_eq_none hother]
      show p ∈ t.tree ↔ p ∈ s.tree
      rw [hadvance.tree hother]

theorem service_of_step {s s' : Server σ} {step : ServerStep} (h : s.step step = some s') : s'.service = s.service := by
  cases moves_of_step h with
  | advanced hactivation hconnection hadvance => exact hadvance.others.2.2
  | _ => rfl

/-- **A step is told of as it happened.** -/
theorem Chronicled.step {service : Service} {deeds : List Deed} {s s' : Server σ} {step : ServerStep}
    (h : Chronicled service deeds s) (hstep : s.step step = some s') :
    Chronicled service (deeds ++ (s.deed? step s').toList) s' := by
  refine ⟨(service_of_step hstep).trans h.serves, fun p => ?_⟩
  by_cases hroot : p = Path.root
  · -- the root is there whatever happens
    exact iff_of_true (hroot ▸ Tree.root_mem' s'.tree) (.inl hroot)
  have hmem := mem_tree_of_step hstep hroot
  have hbefore : p ∈ s.tree ↔ Since (Deed.Makes p) (Deed.Spares p) deeds := (h.stands p).trans (or_iff_right hroot)
  rw [Stands, or_iff_right hroot]
  cases hdeed : s.deed? step s' with
  | none =>
    rw [hdeed] at hmem
    rw [Option.toList_none, List.append_nil]
    exact hmem.trans hbefore
  | some deed =>
    rw [hdeed] at hmem
    rw [Option.toList_some, since_append_singleton, ← hbefore]
    exact hmem

/-- **So is a whole run**, whoever takes the steps. Induction on the steps. -/
theorem Chronicled.runSteps {service : Service} {deeds : List Deed} {steps : List ServerStep} {s s' : Server σ}
    (h : Chronicled service deeds s) (hrun : s.runSteps steps = some s') :
    Chronicled service (deeds ++ s.chronicle steps) s' := by
  induction steps generalizing s deeds with
  | nil =>
    obtain rfl := Option.some.inj hrun
    rw [chronicle, List.append_nil]
    exact h
  | cons step steps ih =>
    obtain ⟨t, hstep, hrest⟩ := Option.bind_eq_some_iff.1 (List.foldlM_cons.symm.trans hrun)
    -- the deed of the first step, if it leaves one, comes before those of the rest
    have hchronicle : s.chronicle (step :: steps) = (s.deed? step t).toList ++ t.chronicle steps := by
      rw [chronicle, hstep]
    rw [hchronicle, ← List.append_assoc]
    exact ih (h.step hstep) hrest

/--
**Whether a path exists is decided by everybody's requests.** A server that was started with an empty tree is in some
state, and a client that is logged in has sent a request that is executed next. Let the argument lead to a path from the
directory that the client is in.

`CWD` is answered by 250 just if the path stands, and by 550 otherwise; `SIZE` and `MDTM` by 213 just if it stands; and
`RMD` by 250 just if it stands and is not the root. A path stands if it is the root, or if some `MKD` of any client has
led to it, since when no `RMD` of any client that was answered by 250 has led to it or to a path above it, and the tree
has not been cleared.

Only a `CWD` or `CDUP` that is answered by 250 moves the client, `CWD` moves it to the path, and nothing moves the
others. A request that is answered by 501, 502 or 550 leaves the tree and all directories as they are.
-/
theorem directories_after {service : Service} {pipeline : σ} {steps : List ServerStep} {s : Server σ}
    (hrun : ({ service, pipeline } : Server σ).runSteps steps = some s) {i k : Nat} {c : Connection}
    (hconnection : s.connection? i k = some c) (hin : c.client.loggedIn = true) {input : Input}
    (hphase : c.phase = .executing input) {r : Request} (hexecuted : input.executed? service = some r)
    (circumstances : Circumstances) :
    let deeds := ({ service, pipeline } : Server σ).chronicle steps
    ∃ s' c', s.step (.connection i k (.execute circumstances)) = some s' ∧ s'.connection? i k = some c' ∧
      let codes := codesOf (addedTo c.effects c'.effects)
      (∀ text, r.argument = some text →
        let p := c.client.cursor.current.resolve text
        (Command.ofVerb? r.verb = some .changeDirectory →
          (codes = [250] ↔ Stands deeds p) ∧ (codes = [550] ↔ ¬Stands deeds p) ∧
          (codes = [250] → c'.client.cursor.current = p)) ∧
        (Command.ofVerb? r.verb = some .size ∨ Command.ofVerb? r.verb = some .modificationTime →
          (codes = [213] ↔ Stands deeds p) ∧ (codes = [550] ↔ ¬Stands deeds p)) ∧
        (Command.ofVerb? r.verb = some .removeDirectory →
          (codes = [250] ↔ p ≠ Path.root ∧ Stands deeds p) ∧ (codes = [550] ↔ ¬(p ≠ Path.root ∧ Stands deeds p)))) ∧
      (c'.client.cursor ≠ c.client.cursor → codes = [250] ∧
        (Command.ofVerb? r.verb = some .changeDirectory ∨ Command.ofVerb? r.verb = some .changeToParent)) ∧
      (∀ j l, (j, l) ≠ (i, k) → s'.connection? j l = s.connection? j l) ∧
      ((∃ code ∈ codes, code ∈ [501, 502, 550]) → s'.tree = s.tree ∧ c'.client.cursor = c.client.cursor) := by
  intro deeds
  have h : Chronicled service deeds s := (chronicled_new service pipeline).runSteps hrun
  obtain ⟨activation, s', c', hstep, hafter, hothers, -, htree, hcursor, hcodes⟩ :=
    step_execute hconnection hphase circumstances
  let x := s.exchange activation c circumstances
  rw [← h.serves] at hexecuted
  obtain ⟨added, hhistory, hattended⟩ := Exchange.attended_take (x := x) hexecuted hin
  rw [← hcodes added hhistory] at hattended
  refine ⟨s', c', hstep, hafter, fun text htext => ?_, fun hmoved => ?_, hothers, fun hrefused => ?_⟩
  · -- the exchange says what is answered if the path exists, and the invariant when it does
    have hmem : x.lookup text ∈ x.tree ↔ Stands deeds (c.client.cursor.current.resolve text) := h.stands _
    refine ⟨fun hverb => ?_, fun hverb => ?_, fun hverb => ?_⟩
    · rw [← hmem, hcursor]
      obtain ⟨hanswered, hentered⟩ := hattended.entered hverb text htext
      obtain ⟨hyes, hno⟩ := Exchange.codes_iff_of_answered (by decide) hanswered
      exact ⟨hyes, hno, hentered⟩
    · rw [← hmem]
      exact Exchange.codes_iff_of_answered (by decide) (hattended.described hverb text htext)
    · rw [← hmem]
      exact Exchange.codes_iff_of_answered (by decide) (hattended.removed hverb text htext)
  · rw [hcursor] at hmoved
    exact hattended.moved hmoved
  · rw [htree, hcursor]
    exact ⟨(hattended.refused hrefused).tree, (hattended.refused hrefused).cursor⟩

/-! ### A directory that is gone

The directory in which a client stands has been removed, and a directory was made below it since. The client can still
go there. -/

/-- Two clients are logged in. The first makes a directory and the second goes there; the first removes it, and in the
directory that is gone the second makes another one and wants to go on there. -/
def revisit : List ServerStep :=
  let here : Endpoint := ⟨.v4 .loopback, 2121⟩
  let sends (k : Nat) (line : String) : List ServerStep :=
    [.connection 0 k .look, .connection 0 k (.hear (.line line.toUTF8.toList)), .connection 0 k (.execute {})]
  let arrives (k : Nat) : List ServerStep :=
    [.accept 0 ⟨.v4 .loopback, .ofNat (40000 + k)⟩ here, .connection 0 k .count, .connection 0 k .greet] ++
      sends k "USER ftp" ++ sends k "PASS x"
  [.start here] ++ arrives 0 ++ arrives 1 ++ sends 0 "MKD a" ++ sends 1 "CWD a" ++ sends 0 "RMD a" ++ sends 1 "MKD b" ++
    [.connection 0 1 .look, .connection 0 1 (.hear (.line "CWD b".toUTF8.toList))]

/-- The second client gets there: its `MKD` came after the `RMD` of the first. -/
theorem directories_after_of_revisit :
    ∃ (s s' : Server Memory) (c c' : Connection),
      ({ service := ⟨{}, .anonymous⟩, pipeline := {} } : Server Memory).runSteps revisit = some s ∧
      s.connection? 0 1 = some c ∧ s.step (.connection 0 1 (.execute {})) = some s' ∧ s'.connection? 0 1 = some c' ∧
      codesOf (addedTo c.effects c'.effects) = [250] ∧ c'.client.cursor.current = Path.root.resolve "a/b" := by
  let input : Input := .line "CWD b".toUTF8.toList
  have hrun : (({ service := ⟨{}, .anonymous⟩, pipeline := {} } : Server Memory).runSteps revisit).any (fun s =>
      (s.connection? 0 1).any fun c => decide (c.client.loggedIn = true ∧ c.phase = .executing input ∧
        c.client.cursor.current = Path.root.resolve "a")) = true := by decide +kernel
  obtain ⟨s, hs, hany⟩ := (Option.any_eq_true _ _).1 hrun
  obtain ⟨c, hc, hstate⟩ := (Option.any_eq_true _ _).1 hany
  obtain ⟨hin, hphase, hcurrent⟩ := of_decide_eq_true hstate
  -- the first directory was removed, but the one made below it afterwards stands
  have hchronicle : ({ service := ⟨{}, .anonymous⟩, pipeline := {} } : Server Memory).chronicle revisit =
      [.executed Path.root ⟨"MKD", some "a"⟩ [257], .executed Path.root ⟨"CWD", some "a"⟩ [250],
        .executed Path.root ⟨"RMD", some "a"⟩ [250],
        .executed (Path.root.resolve "a") ⟨"MKD", some "b"⟩ [257]] := by decide +kernel
  have hpath : (Path.root.resolve "a").resolve "b" = Path.root.resolve "a/b" := by decide +kernel
  have hexecuted : input.executed? ⟨{}, .anonymous⟩ = some ⟨"CWD", some "b"⟩ := by decide +kernel
  obtain ⟨s', c', hstep, hafter, htold, -⟩ := directories_after hs hc hin hphase hexecuted {}
  obtain ⟨hentered, -⟩ := htold "b" rfl
  obtain ⟨hyes, -, hthere⟩ := hentered (by decide)
  rw [hchronicle, hcurrent] at hyes
  have hmakes : Deed.Makes ((Path.root.resolve "a").resolve "b")
      (.executed (Path.root.resolve "a") ⟨"MKD", some "b"⟩ [257]) := ⟨by decide, "b", rfl, rfl⟩
  have hcodes := hyes.2 (.inr ⟨[_, _, _], _, [], rfl, hmakes, nofun⟩)
  refine ⟨s, s', c, c', hs, hc, hstep, hafter, hcodes, ?_⟩
  rw [hthere hcodes, hcurrent, hpath]

end Server

end FtpIntake
