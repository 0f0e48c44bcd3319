import FtpIntake.Proofs.Connection.Turn

/-!
# Who is logged in

A conversation is what happens on one control connection from its greeting on, turn by turn. The turns bring whatever
other connections have made of the tree, of the slot and of the pipeline in between, so a statement about all turns
holds of every order in which the connections of a server take theirs.

* **`Conversation.Vouched`** is the invariant. The name that the client remembers is the one of the last `USER`, and the
  login was vouched for by a `PASS` after it.
* **`Conversation.login_after`** is what follows for every state that a conversation gets into.

`USER` takes back an earlier login even if the name is refused, and so does `QUIT`; a refused password takes back the
name. The invariant says of each request what it does, and so it is kept by any list of requests.
-/

namespace FtpIntake

/-! ## The one user

Where one user may log in, no other name and no other password is accepted. -/

namespace Credentials

/-- A name is accepted if it is the configured one and can be typed. -/
theorem checkUser_eq_ok_iff {name secret given : String} :
    (user name secret).checkUser given = .ok () ↔ given = name ∧ isWellFormed given = true := by
  unfold checkUser
  cases hformed : isWellFormed given with
  | false => simp
  | true =>
    show (if (name == given) = true then _ else _ : Except LoginFault Unit) = .ok () ↔ _
    by_cases hknown : name = given
    · simp [hknown]
    · simp [hknown, Ne.symm hknown]

/-- So is a password, for that name. -/
theorem checkPassword_eq_ok_iff {name secret given password : String} :
    (user name secret).checkPassword given password = .ok () ↔
      given = name ∧ password = secret ∧ isWellFormed password = true := by
  unfold checkPassword
  cases hformed : isWellFormed password with
  | false => simp
  | true =>
    by_cases hknown : name = given
    · by_cases hsecret : secret = password
      · simp [hknown, hsecret]
      · simp [hknown, hsecret, Ne.symm hsecret]
    · simp [hknown, Ne.symm hknown]

/-- The accepted name is the configured one. -/
theorem eq_of_checkUser {name secret given : String} (h : (user name secret).checkUser given = .ok ()) :
    given = name :=
  (checkUser_eq_ok_iff.1 h).1

/-- So is the password. -/
theorem eq_of_checkPassword {name secret given password : String}
    (h : (user name secret).checkPassword given password = .ok ()) : password = secret :=
  (checkPassword_eq_ok_iff.1 h).2.1

end Credentials

/-! ## Conversations

A turn brings along what the rest of the server has come to by then: the tree, the slot with the signal, the pipeline
and the circumstances. So a statement about all turns is one about everything that others may do. -/

/-- A read of a control connection, with everything that the connection shares with others as it stands at that time. -/
structure Turn (σ : Type) where
  input : Input
  tree : Tree
  surroundings : Surroundings FactoryId
  pipeline : σ
  circumstances : Circumstances

/-- What has become of a control connection, and the requests that were executed on it, in order. -/
structure Conversation where
  client : Client
  effects : List Effect := []
  verdict : Verdict := .goesOn
  executed : List Request := []

namespace Conversation

open Exchange

variable {σ : Type}

/-- A connection that was let in. The greeting is on its way, as far as it got. -/
def admitted (peer here : Endpoint) (outgoing : Outgoing) (effects : List Effect) : Conversation where
  client := { peer, here, outgoing }
  effects

/-- The conversation as it takes part in a turn. -/
def enter (c : Conversation) (turn : Turn σ) : Exchange σ where
  client := c.client
  tree := turn.tree
  surroundings := turn.surroundings
  pipeline := turn.pipeline
  circumstances := turn.circumstances
  effects := c.effects

variable [Pipeline σ]

/-- The conversation after a turn. Once it has ended there are no more turns. -/
def take (service : Service) (c : Conversation) (turn : Turn σ) : Conversation :=
  match c.verdict with
  | .goesOn =>
    let (verdict, x) := (c.enter turn).take service turn.input
    { client := x.client, effects := x.effects, verdict,
      executed := c.executed ++ (turn.input.executed? service).toList }
  | _ => c

/-- A conversation that has ended takes no more turns. -/
theorem take_of_ended (service : Service) {c : Conversation} (h : c.verdict ≠ .goesOn) (turn : Turn σ) :
    c.take service turn = c := by
  unfold take
  cases hverdict : c.verdict with
  | goesOn => exact absurd hverdict h
  | quits => rfl
  | breaks kind => rfl

/-- A turn is an exchange of the client with what the turn brings. -/
theorem take_of_goesOn (service : Service) {c : Conversation} (h : c.verdict = .goesOn) (turn : Turn σ) :
    (c.take service turn).client = ((c.enter turn).take service turn.input).2.client ∧
      (c.take service turn).effects = ((c.enter turn).take service turn.input).2.effects ∧
      (c.take service turn).verdict = ((c.enter turn).take service turn.input).1 := by
  unfold take
  rw [h]
  exact ⟨rfl, rfl, rfl⟩

/-- The conversation after some turns. -/
def after (service : Service) (c : Conversation) (turns : List (Turn σ)) : Conversation :=
  turns.foldl (take service) c

/-! ## What vouches for a login

The requests that were executed are kept in order. A login is vouched for by a `USER` and a `PASS` among them, with
nothing in between or afterwards that takes it back. -/

/-- The last request that gave a name gave this one, which was accepted, and nobody has quit since. -/
def Named (credentials : Credentials) (requests : List Request) (name : String) : Prop :=
  ∃ before between, requests = before ++ ⟨"USER", some name⟩ :: between ∧
    credentials.checkUser name = .ok () ∧ ∀ r ∈ between, r.KeepsName

/-- After the name there was a password that was accepted for it. -/
def Admitted (credentials : Credentials) (requests : List Request) (name : String) : Prop :=
  ∃ before between password after,
    requests = before ++ ⟨"USER", some name⟩ :: (between ++ ⟨"PASS", password⟩ :: after) ∧
    credentials.checkUser name = .ok () ∧ credentials.checkPassword name (password.getD "") = .ok () ∧
    ∀ r ∈ between ++ after, r.KeepsName

/-- A name stays given until another `USER` or `QUIT` takes it back. -/
theorem Named.append {credentials : Credentials} {requests : List Request} {name : String}
    (h : Named credentials requests name) {r : Request} (hr : r.KeepsName) :
    Named credentials (requests ++ [r]) name := by
  obtain ⟨before, between, heq, hcheck, hkeeps⟩ := h
  refine ⟨before, between ++ [r], ?_, hcheck, List.forall_mem_append.2 ⟨hkeeps, List.forall_mem_singleton.2 hr⟩⟩
  rw [heq, List.append_assoc, List.cons_append]

/-- So does a login. -/
theorem Admitted.append {credentials : Credentials} {requests : List Request} {name : String}
    (h : Admitted credentials requests name) {r : Request} (hr : r.KeepsName) :
    Admitted credentials (requests ++ [r]) name := by
  obtain ⟨before, between, password, after, heq, hcheck, hpassword, hkeeps⟩ := h
  refine ⟨before, between, password, after ++ [r], ?_, hcheck, hpassword, ?_⟩
  · rw [heq, List.append_assoc, List.cons_append, List.append_assoc, List.cons_append]
  · rw [← List.append_assoc]
    exact List.forall_mem_append.2 ⟨hkeeps, List.forall_mem_singleton.2 hr⟩

/-- A `PASS` that is accepted for the given name admits the client. -/
theorem Named.admit {credentials : Credentials} {requests : List Request} {name : String}
    (h : Named credentials requests name) {r : Request} (hverb : r.verb = "PASS")
    (hcheck : credentials.checkPassword name (r.argument.getD "") = .ok ()) :
    Admitted credentials (requests ++ [r]) name := by
  obtain ⟨before, between, heq, hname, hkeeps⟩ := h
  obtain ⟨verb, password⟩ := r
  obtain rfl : verb = "PASS" := hverb
  refine ⟨before, between, password, [], ?_, hname, hcheck, ?_⟩
  · rw [heq, List.append_assoc, List.cons_append]
  · rw [List.append_nil]
    exact hkeeps

/-- What the client remembers of its login was vouched for by requests, and without a login it has no data channel. -/
structure Vouched (credentials : Credentials) (c : Conversation) : Prop where
  named : ∀ name, c.client.user = some name → Named credentials c.executed name
  loggedIn : c.client.loggedIn = true → ∃ name, c.client.user = some name ∧ Admitted credentials c.executed name
  idle : c.client.loggedIn = false → c.client.channel = .idle

/-- A client that has just been let in has given no name. -/
theorem vouched_admitted (credentials : Credentials) (peer here : Endpoint) (outgoing : Outgoing)
    (effects : List Effect) : Vouched credentials (admitted peer here outgoing effects) := by
  refine ⟨fun name h => ?_, fun h => Bool.noConfusion h, fun _ => rfl⟩
  exact absurd (show none = some name from h) (by simp)

/-- **A request keeps what vouches for the login.** One case for each thing that it can do to it. -/
theorem Vouched.execute {credentials : Credentials} {c : Conversation} (h : Vouched credentials c) {r : Request}
    {client : Client} (hstep : LoginStep credentials r c.client client)
    (hidle : c.client.loggedIn = false → client.channel = .idle) (effects : List Effect) (verdict : Verdict) :
    Vouched credentials ⟨client, effects, verdict, c.executed ++ [r]⟩ := by
  cases hstep with
  | kept hkeeps hlogin =>
    have huser : client.user = c.client.user := congrArg Prod.fst hlogin
    have hin : client.loggedIn = c.client.loggedIn := congrArg Prod.snd hlogin
    -- what vouched for the login before goes on to do so, with one more request behind it
    refine ⟨fun name hname => ?_, fun hafter => ?_, fun hafter => hidle (hin.symm.trans hafter)⟩
    · exact (h.named name (huser.symm.trans hname)).append hkeeps
    · obtain ⟨name, hname, hadmitted⟩ := h.loggedIn (hin.symm.trans hafter)
      exact ⟨name, huser.trans hname, hadmitted.append hkeeps⟩
  | named name hrequest hcheck hlogin hchannel =>
    have huser : client.user = some name := congrArg Prod.fst hlogin
    have hout : client.loggedIn = false := congrArg Prod.snd hlogin
    -- the request itself is the last `USER`, and there is nothing behind it yet
    refine ⟨fun name' hname' => ?_, fun hafter => Bool.noConfusion (hout.symm.trans hafter), fun _ => hchannel⟩
    obtain rfl : name = name' := Option.some.inj (huser.symm.trans hname')
    exact ⟨c.executed, [], by rw [hrequest], hcheck, fun _ hr => absurd hr List.not_mem_nil⟩
  | admitted name hverb hname hcheck hlogin =>
    have huser : client.user = some name := congrArg Prod.fst hlogin
    have hin : client.loggedIn = true := congrArg Prod.snd hlogin
    -- the name was vouched for when it was given, and the password is the one of the request
    have hnamed : Named credentials c.executed name := h.named name hname
    refine ⟨fun name' hname' => ?_, fun _ => ⟨name, huser, hnamed.admit hverb hcheck⟩,
      fun hafter => Bool.noConfusion (hin.symm.trans hafter)⟩
    obtain rfl : name = name' := Option.some.inj (huser.symm.trans hname')
    exact hnamed.append (Request.keepsName_of_pass hverb)
  | forgotten hlogin hchannel =>
    have huser : client.user = none := congrArg Prod.fst hlogin
    have hout : client.loggedIn = false := congrArg Prod.snd hlogin
    refine ⟨fun name hname => ?_, fun hafter => Bool.noConfusion (hout.symm.trans hafter), fun _ => hchannel⟩
    exact absurd (huser.symm.trans hname) (by simp)

/-- **A turn keeps what vouches for the login**, with or without a request in it. -/
theorem Vouched.take {service : Service} {c : Conversation} (h : Vouched service.credentials c) (turn : Turn σ) :
    Vouched service.credentials (c.take service turn) := by
  unfold Conversation.take
  cases c.verdict with
  | quits => exact h
  | breaks kind => exact h
  | goesOn =>
    have hstep := (c.enter turn).loginStep_take service turn.input
    dsimp only
    cases hexecuted : turn.input.executed? service with
    -- nothing was executed, so the login and the channel are as they were
    | none =>
      rw [hexecuted] at hstep
      obtain ⟨hlogin, hchannel⟩ := hstep
      have huser : ((c.enter turn).take service turn.input).2.client.user = c.client.user := congrArg Prod.fst hlogin
      have hin : ((c.enter turn).take service turn.input).2.client.loggedIn = c.client.loggedIn :=
        congrArg Prod.snd hlogin
      rw [show (none : Option Request).toList = [] from rfl, List.append_nil]
      refine ⟨fun name hname => h.named name (huser.symm.trans hname), fun hafter => ?_, fun hafter => ?_⟩
      · obtain ⟨name, hname, hadmitted⟩ := h.loggedIn (hin.symm.trans hafter)
        exact ⟨name, huser.trans hname, hadmitted⟩
      · exact hchannel.trans (h.idle (hin.symm.trans hafter))
    | some r =>
      rw [hexecuted] at hstep
      -- nobody but a client that is logged in gets a channel
      have hidle (hout : c.client.loggedIn = false) :
          ((c.enter turn).take service turn.input).2.client.channel = .idle :=
        (untouched_take service turn.input hout).stays.channel (h.idle hout)
      exact h.execute hstep hidle _ _

/-- It holds after any turns. Induction on the turns. -/
theorem Vouched.after {service : Service} {c : Conversation} (h : Vouched service.credentials c)
    (turns : List (Turn σ)) : Vouched service.credentials (c.after service turns) := by
  induction turns generalizing c with
  | nil => exact h
  | cons turn turns ih => exact ih (h.take turn)

/--
**Who is logged in has said so.** In every state that a conversation gets into, a client that is logged in has given a
name that may log in and after it a password that is right for it; it has given no other name since, and it has not
quit. Where there is one user, these are his name and his password.

While a client is not logged in it has no data channel, and no turn of it, whatever is read and whatever the connection
meets, changes the tree, the slot, the pipeline or the client's own directory, opens a data connection or calls the
pipeline.
-/
theorem login_after (service : Service) (peer here : Endpoint) (outgoing : Outgoing) (effects : List Effect)
    (turns : List (Turn σ)) :
    let c := (admitted peer here outgoing effects).after service turns
    (c.client.loggedIn = true → ∃ before name between password later,
      c.executed = before ++ ⟨"USER", some name⟩ :: (between ++ ⟨"PASS", password⟩ :: later) ∧
      service.credentials.checkUser name = .ok () ∧
      service.credentials.checkPassword name (password.getD "") = .ok () ∧
      (∀ r ∈ between ++ later, r.verb ≠ "QUIT" ∧ (r.verb = "USER" → r.argument = none)) ∧
      (∀ known secret, service.credentials = .user known secret → name = known ∧ password.getD "" = secret)) ∧
    (c.client.loggedIn = false → c.client.channel = .idle ∧ ∀ turn : Turn σ,
      let x := ((c.enter turn).take service turn.input).2
      x.tree = turn.tree ∧ x.surroundings = turn.surroundings ∧ x.pipeline = turn.pipeline ∧
      x.client.cursor = c.client.cursor ∧ x.client.channel = .idle ∧
      ∃ added, x.effects = added ++ c.effects ∧ .channelOpened ∉ added ∧ ∀ record, .called record ∉ added) := by
  intro c
  have h : Vouched service.credentials c := (vouched_admitted _ peer here outgoing effects).after turns
  refine ⟨fun hin => ?_, fun hout => ⟨h.idle hout, fun turn => ?_⟩⟩
  · obtain ⟨name, -, before, between, password, later, heq, hname, hpassword, hkeeps⟩ := h.loggedIn hin
    refine ⟨before, name, between, password, later, heq, hname, hpassword, hkeeps, fun known secret hcredentials => ?_⟩
    rw [hcredentials] at hname hpassword
    exact ⟨Credentials.eq_of_checkUser hname, Credentials.eq_of_checkPassword hpassword⟩
  · -- what a client that is not logged in can do was gone through command by command
    have huntouched : (c.enter turn).Untouched ((c.enter turn).take service turn.input).2 :=
      untouched_take service turn.input hout
    obtain ⟨added, heq, hquiet⟩ := huntouched.effects
    refine ⟨huntouched.tree, huntouched.surroundings, huntouched.pipeline, huntouched.stays.cursor,
      huntouched.stays.channel (h.idle hout), added, heq, fun hopened => ?_, fun record hcalled => ?_⟩
    · exact Bool.noConfusion (hquiet _ hopened)
    · exact Bool.noConfusion (hquiet _ hcalled)

end Conversation

end FtpIntake
