import FtpIntake.Proofs.Path.Normal
import FtpIntake.Proofs.Server.Directories
import FtpIntake.Proofs.Server.Origin

/-!
# The way to the parent directory

`CDUP` and `CWD ..` ask for the same directory, and where it exists they do the same. But a directory may stand whose
parent was never made or has been removed. There both leave the client where it is, and only `CWD` says so: `CDUP`
confirms the directory that the client has not left.

* **`Exchange.Goes`** is a request that goes where a text leads to, if that exists.
* **`Exchange.goes_take_changeToParent`** and **`Exchange.goes_take_changeDirectory`**: both requests are of this kind,
  with a code of their own for a directory that is not there.
* **`Server.parent_after`** compares the two after any run of a server.

The two requests are compared in one state, each taken in two steps, reading and executing. What others may have done
before is in the state, so the comparison holds wherever a client can get to.
-/

namespace FtpIntake

namespace Exchange

variable {σ : Type}

/-- The tree stays as it is, and the client goes where the text leads to and is told `250`. If there is no such
directory, it stays where it is and is told `missing`. -/
def Goes (x : Exchange σ) (raw : String) (missing : Nat) (codes : List Nat) (x' : Exchange σ) : Prop :=
  x'.tree = x.tree ∧
    ((x.lookup raw ∈ x.tree ∧ x'.client.cursor = ⟨x.lookup raw⟩ ∧ codes = [250]) ∨
      (x.lookup raw ∉ x.tree ∧ x'.client.cursor = x.client.cursor ∧ codes = [missing]))

variable [Pipeline σ]

/-- A command without a transfer that a client sends who is logged in: it takes one of its ways and then answers. -/
theorem exists_answered_take {x : Exchange σ} {service : Service} {input : Input} {r : Request} {command : Command}
    (hexecuted : input.executed? service = some r) (hin : x.client.loggedIn = true)
    (hverb : Command.ofVerb? r.verb = some command) (hcontrol : command.isControl = false)
    (htransfers : command.transfers = false) :
    ∃ line y reply, Answered (x.begun line) command r.argument y reply ∧
      (x.take service input).2 = (y.answer reply).2 ∧
      ∃ added, (x.take service input).2.history = x.history ++ added ∧ codesOf added = [reply.code] := by
  -- a line that is not executed has no request, so it is no case of ours
  rcases x.take_cases service input with ⟨line, hline, htake⟩ | ⟨hnone, -⟩
  · obtain rfl : Request.ofLine line = r := Option.some.inj (hline.symm.trans hexecuted)
    have hopen : (x.begun line).client.loggedIn = true ∨ command.allowedBeforeLogin = true := .inl hin
    obtain ⟨y, reply, hanswered, hrun⟩ :=
      exists_answered (x.begun line) service.store (Request.ofLine line).argument hcontrol htransfers
    have hafter : (x.take service input).2 = (y.answer reply).2 := by
      rw [htake, dispatch_eq_run hverb hcontrol hopen, hrun]
    refine ⟨line, y, reply, hanswered, hafter,
      [.logged (LogRecord.executed (toString x.client.peer) line), .stateReset, .replyQueued reply], ?_, rfl⟩
    rw [hafter, hanswered.history_eq, (x.writes_begun line).history, List.append_assoc]
    rfl
  · cases hnone.symm.trans hexecuted

section Requests

variable {x : Exchange σ} {service : Service} {input : Input} {r : Request}

/-- **`CDUP` goes to the parent.** It is told `250` also where there is no parent to go to. -/
theorem goes_take_changeToParent (hexecuted : input.executed? service = some r) (hin : x.client.loggedIn = true)
    (hverb : Command.ofVerb? r.verb = some .changeToParent) :
    ∃ added, (x.take service input).2.history = x.history ++ added ∧
      x.Goes ".." 250 (codesOf added) (x.take service input).2 := by
  obtain ⟨line, y, reply, hanswered, hafter, added, hhistory, hcodes⟩ :=
    exists_answered_take hexecuted hin hverb rfl rfl
  refine ⟨added, hhistory, ?_⟩
  rw [hcodes, hafter, Goes, answer_snd]
  -- `CDUP` takes no argument, and what is sent as one is not looked at
  generalize r.argument = argument at hanswered
  cases hanswered with
  | unargued hneeds => exact Bool.noConfusion hneeds
  | climbed argument hmem => exact ⟨rfl, .inl ⟨hmem, rfl, rfl⟩⟩
  | stayed argument hmissing => exact ⟨rfl, .inr ⟨hmissing, rfl, rfl⟩⟩

/-- **`CWD` goes where its argument leads to**, and says so if there is no such directory. -/
theorem goes_take_changeDirectory (hexecuted : input.executed? service = some r) (hin : x.client.loggedIn = true)
    (hverb : Command.ofVerb? r.verb = some .changeDirectory) {text : String} (htext : r.argument = some text) :
    ∃ added, (x.take service input).2.history = x.history ++ added ∧
      x.Goes text 550 (codesOf added) (x.take service input).2 := by
  obtain ⟨line, y, reply, hanswered, hafter, added, hhistory, hcodes⟩ :=
    exists_answered_take hexecuted hin hverb rfl rfl
  refine ⟨added, hhistory, ?_⟩
  rw [htext] at hanswered
  rw [hcodes, hafter, Goes, answer_snd]
  cases hanswered with
  | entered text hmem => exact ⟨rfl, .inl ⟨hmem, rfl, rfl⟩⟩
  | notEntered text hmissing => exact ⟨rfl, .inr ⟨hmissing, rfl, rfl⟩⟩

end Requests

end Exchange

namespace Server

variable {σ : Type} [Pipeline σ] {s : Server σ} {i k : Nat} {c : Connection}

/-- The steps in which a connection that is listening hears something and executes it. -/
def takes (i k : Nat) (input : Input) (circumstances : Circumstances) : List ServerStep :=
  [.connection i k (.hear input), .connection i k (.execute circumstances)]

/-- **A request that goes somewhere, heard and executed by one of the connections of a server.** -/
theorem runSteps_takes (hconnection : s.connection? i k = some c) (hphase : c.phase = .listening) {input : Input}
    {raw : String} {missing : Nat} (circumstances : Circumstances)
    (hgoes : ∀ x : Exchange σ, x.client = c.client → ∃ added,
      (x.take s.service input).2.history = x.history ++ added ∧
        x.Goes raw missing (codesOf added) (x.take s.service input).2) :
    ∃ s' c', s.runSteps (takes i k input circumstances) = some s' ∧ s'.connection? i k = some c' ∧ s'.tree = s.tree ∧
      let codes := codesOf (addedTo c.effects c'.effects)
      let target := c.client.cursor.current.resolve raw
      (target ∈ s.tree ∧ c'.client.cursor = ⟨target⟩ ∧ codes = [250]) ∨
        (target ∉ s.tree ∧ c'.client.cursor = c.client.cursor ∧ codes = [missing]) := by
  obtain ⟨activation, hactivation, hget⟩ := Option.bind_eq_some_iff.1 hconnection
  -- two steps: the line is read, then it is executed
  have hhear : s.stepConnection activation c (.hear input) =
      some ({ c with phase := .executing input }, activation, s) := by
    unfold stepConnection
    rw [hphase]
  obtain ⟨t, hheard, hplace, -, hservice, htree⟩ := step_of_stepConnection hactivation hget hhear
  obtain ⟨activation', s', c', hstep, hafter, -, -, htree', hcursor, hcodes⟩ :=
    step_execute hplace rfl circumstances
  let x := t.exchange activation' { c with phase := .executing input } circumstances
  obtain ⟨added, hhistory, hsame, hcases⟩ := hgoes x rfl
  rw [← hservice] at hhistory hsame hcases
  have hrun : s.runSteps (takes i k input circumstances) = some s' := by
    show (s.step _).bind (fun t => (t.step _).bind some) = _
    rw [hheard, Option.bind_some, hstep, Option.bind_some]
  -- reading the line has changed neither the tree nor the place of the client
  have hlookup : x.lookup raw ∈ x.tree ↔ c.client.cursor.current.resolve raw ∈ s.tree := by
    rw [← htree]
    exact Iff.rfl
  refine ⟨s', c', hrun, hafter, htree'.trans (hsame.trans htree), ?_⟩
  dsimp only
  rw [hcursor, hcodes added hhistory, ← hlookup]
  exact hcases

/-- **`CDUP` and `CWD ..` do the same, but only one of them tells when it has done nothing.** A server that was started
with an empty tree is in some state, and a client that is logged in sends one of the two requests.

Both leave the tree as it is and the client in the same directory: its parent, if that stands, and otherwise the one
that it was in. A parent stands if it is the root, or if some `MKD` of any client has led to it, since when no confirmed
`RMD` of any client has led to it or to a path above it, and the tree has not been cleared. If it stands, both requests
are answered by 250. If it does not, `CWD` is answered by 550, and `CDUP` by 250 nevertheless. -/
theorem parent_after {service : Service} {pipeline : σ} {steps : List ServerStep}
    (hrun : ({ service, pipeline } : Server σ).runSteps steps = some s) (hconnection : s.connection? i k = some c)
    (hin : c.client.loggedIn = true) (hphase : c.phase = .listening) {up into : Input} {r q : Request}
    (hup : up.executed? service = some r) (hr : Command.ofVerb? r.verb = some .changeToParent)
    (hinto : into.executed? service = some q) (hq : Command.ofVerb? q.verb = some .changeDirectory)
    (hdots : q.argument = some "..") (circumstances circumstances' : Circumstances) :
    let deeds := ({ service, pipeline } : Server σ).chronicle steps
    let parent := c.client.cursor.current.parent?.getD Path.root
    ∃ s₁ c₁ s₂ c₂, s.runSteps (takes i k up circumstances) = some s₁ ∧ s₁.connection? i k = some c₁ ∧
      s.runSteps (takes i k into circumstances') = some s₂ ∧ s₂.connection? i k = some c₂ ∧
      let codes₁ := codesOf (addedTo c.effects c₁.effects)
      let codes₂ := codesOf (addedTo c.effects c₂.effects)
      s₁.tree = s.tree ∧ s₂.tree = s.tree ∧ c₁.client.cursor = c₂.client.cursor ∧
        (Stands deeds parent → c₁.client.cursor.current = parent ∧ codes₁ = [250] ∧ codes₂ = [250]) ∧
        (¬Stands deeds parent → c₁.client.cursor = c.client.cursor ∧ codes₁ = [250] ∧ codes₂ = [550]) := by
  intro deeds parent
  have h : Chronicled service deeds s := (chronicled_new service pipeline).runSteps hrun
  have hparent : c.client.cursor.current.resolve ".." = parent := Path.resolve_dotDot c.client.cursor.current
  obtain ⟨s₁, c₁, hrun₁, hconnection₁, htree₁, hcases₁⟩ :=
    runSteps_takes hconnection hphase circumstances fun x hx =>
      Exchange.goes_take_changeToParent (h.serves.symm ▸ hup) (hx ▸ hin) hr
  obtain ⟨s₂, c₂, hrun₂, hconnection₂, htree₂, hcases₂⟩ :=
    runSteps_takes hconnection hphase circumstances' fun x hx =>
      Exchange.goes_take_changeDirectory (h.serves.symm ▸ hinto) (hx ▸ hin) hq hdots
  refine ⟨s₁, c₁, s₂, c₂, hrun₁, hconnection₁, hrun₂, hconnection₂, ?_⟩
  dsimp only at hcases₁ hcases₂ ⊢
  rw [hparent, h.stands] at hcases₁ hcases₂
  refine ⟨htree₁, htree₂, ?_⟩
  -- whether the parent stands decides both
  rcases hcases₁ with ⟨hstands, hcursor₁, hcodes₁⟩ | ⟨hmissing, hcursor₁, hcodes₁⟩
  · obtain ⟨-, hcursor₂, hcodes₂⟩ := hcases₂.resolve_right fun hother => hother.1 hstands
    refine ⟨hcursor₁.trans hcursor₂.symm, fun _ => ⟨?_, hcodes₁, hcodes₂⟩, fun hmissing => absurd hstands hmissing⟩
    rw [hcursor₁]
  · obtain ⟨-, hcursor₂, hcodes₂⟩ := hcases₂.resolve_left fun hother => hmissing hother.1
    exact ⟨hcursor₁.trans hcursor₂.symm, fun hstands => absurd hstands hmissing, fun _ => ⟨hcursor₁, hcodes₁, hcodes₂⟩⟩

/-! ### A directory without a parent

`MKD` does not make the directories above the one that it is asked for. -/

/-- A client makes a directory inside one that nobody has made, and goes there. -/
def orphanage : List ServerStep :=
  visit ["USER ftp\r\n", "PASS x\r\n", "MKD a/b\r\n", "CWD a/b\r\n"] ++ [.connection 0 0 .look]

/-- The parent of that directory does not stand. -/
theorem parent_after_of_orphan :
    let up : Input := .line "CDUP\r\n".toUTF8.toList
    let into : Input := .line "CWD ..\r\n".toUTF8.toList
    ∃ (s s₁ s₂ : Server Memory) (c c₁ c₂ : Connection),
      ({ service := ⟨{}, .anonymous⟩, pipeline := {} } : Server Memory).runSteps orphanage = some s ∧
      s.connection? 0 0 = some c ∧ c.client.loggedIn = true ∧ c.phase = .listening ∧
      up.executed? ⟨{}, .anonymous⟩ = some ⟨"CDUP", none⟩ ∧ into.executed? ⟨{}, .anonymous⟩ = some ⟨"CWD", some ".."⟩ ∧
      s.runSteps (takes 0 0 up {}) = some s₁ ∧ s₁.connection? 0 0 = some c₁ ∧
      s.runSteps (takes 0 0 into {}) = some s₂ ∧ s₂.connection? 0 0 = some c₂ ∧
      codesOf (addedTo c.effects c₁.effects) = [250] ∧ codesOf (addedTo c.effects c₂.effects) = [550] := by
  intro up into
  have hrun : (({ service := ⟨{}, .anonymous⟩, pipeline := {} } : Server Memory).runSteps orphanage).any (fun s =>
      (s.connection? 0 0).any fun c => decide (c.client.loggedIn = true ∧ c.phase = .listening ∧
        c.client.cursor.current.parent?.getD Path.root = Path.parse "/a")) = true := by decide +kernel
  obtain ⟨s, hs, hany⟩ := (Option.any_eq_true _ _).1 hrun
  obtain ⟨c, hc, hstate⟩ := (Option.any_eq_true _ _).1 hany
  obtain ⟨hin, hphase, hparent⟩ := of_decide_eq_true hstate
  have hup : up.executed? ⟨{}, .anonymous⟩ = some ⟨"CDUP", none⟩ := by decide +kernel
  have hinto : into.executed? ⟨{}, .anonymous⟩ = some ⟨"CWD", some ".."⟩ := by decide +kernel
  have hchronicle : ({ service := ⟨{}, .anonymous⟩, pipeline := {} } : Server Memory).chronicle orphanage =
      [.executed Path.root ⟨"MKD", some "a/b"⟩ [257], .executed Path.root ⟨"CWD", some "a/b"⟩ [250]] := by
    decide +kernel
  -- the only `MKD` has led to another path
  have hmissing : ¬Stands (({ service := ⟨{}, .anonymous⟩, pipeline := {} } : Server Memory).chronicle orphanage)
      (Path.parse "/a") := by
    rw [hchronicle]
    rintro (hroot | ⟨before, deed, after, hdeeds, hmakes, -⟩)
    · exact absurd hroot (by decide)
    · have hmem : deed ∈ [Deed.executed Path.root ⟨"MKD", some "a/b"⟩ [257],
          .executed Path.root ⟨"CWD", some "a/b"⟩ [250]] := by rw [hdeeds]; simp
      rcases List.mem_pair.1 hmem with rfl | rfl
      · obtain ⟨-, text, htext, hpath⟩ := hmakes
        cases htext
        exact absurd hpath (by decide)
      · exact absurd hmakes.1 (by decide)
  obtain ⟨s₁, c₁, s₂, c₂, hrun₁, hc₁, hrun₂, hc₂, -, -, -, -, hstays⟩ :=
    parent_after hs hc hin hphase hup (by decide) hinto (by decide) rfl {} {}
  rw [hparent] at hstays
  obtain ⟨-, hcodes₁, hcodes₂⟩ := hstays hmissing
  exact ⟨s, s₁, s₂, c, c₁, c₂, hs, hc, hin, hphase, hup, hinto, hrun₁, hc₁, hrun₂, hc₂, hcodes₁, hcodes₂⟩

/-- In that directory `CDUP` is confirmed, and `CWD ..` is refused right after it. -/
theorem climb_is_confirmed :
    ∃ (s : Server Memory) (c : Connection),
      ({ service := ⟨{}, .anonymous⟩, pipeline := {} } : Server Memory).runSteps
        (visit ["USER ftp\r\n", "PASS x\r\n", "MKD a/b\r\n", "CWD a/b\r\n", "CDUP\r\n", "CWD ..\r\n"]) = some s ∧
      s.connection? 0 0 = some c ∧ c.client.cursor.current = Path.parse "/a/b" ∧
      (repliesOf c.effects.reverse).drop 3 =
        [⟨257, "\"/a/b\" directory created."⟩, ⟨250, "Directory changed to /a/b"⟩,
          ⟨250, "Directory changed to /a/b"⟩, ⟨550, "..: No such directory."⟩] := by
  have hrun : (({ service := ⟨{}, .anonymous⟩, pipeline := {} } : Server Memory).runSteps
      (visit ["USER ftp\r\n", "PASS x\r\n", "MKD a/b\r\n", "CWD a/b\r\n", "CDUP\r\n", "CWD ..\r\n"])).any
      (fun s => (s.connection? 0 0).any fun c => decide (c.client.cursor.current = Path.parse "/a/b" ∧
        (repliesOf c.effects.reverse).drop 3 =
          [⟨257, "\"/a/b\" directory created."⟩, ⟨250, "Directory changed to /a/b"⟩,
            ⟨250, "Directory changed to /a/b"⟩, ⟨550, "..: No such directory."⟩])) = true := by decide +kernel
  obtain ⟨s, hs, hany⟩ := (Option.any_eq_true _ _).1 hrun
  obtain ⟨c, hc, hstate⟩ := (Option.any_eq_true _ _).1 hany
  exact ⟨s, c, hs, hc, of_decide_eq_true hstate⟩

end Server

end FtpIntake
