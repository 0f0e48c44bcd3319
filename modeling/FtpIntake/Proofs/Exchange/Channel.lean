import FtpIntake.Proofs.Exchange.Login
import FtpIntake.Proofs.Exchange.Transfer

/-!
# What a command does to the data channel

A data channel lets the server connect to somebody, or somebody to the server, so it matters where it leads. Four
commands negotiate one, the transfers use it up, and everything else keeps it or gives it up.

* **`DataChannel.Guarded`** says that a channel leads to the client and to no privileged port. Both ways to make one
  check it, and `Guarded.peer_of_openWith` is what it comes to when the channel is opened.
* **`Decision.Negotiation`** is what comes of a negotiation: a guarded channel and the code that says so, or another
  code and the channel that was there before.
* **`Exchange.Uses`** says what a command has to do with data connections. Only a transfer opens one, and only one.

A passive channel is guarded by the address that it accepts, and an active one by the address that it was given. The
two checks are made at different times, the one when a connection comes in and the other before there is a channel,
and `Guarded` is what both come to.
-/

namespace FtpIntake

namespace DataChannel

/-! ## Where a channel leads

The invariant of the data channel: it is idle, or a passive one for the address of the client, or an active one to
that address and to no privileged port. Opening such a channel leads to the client or fails. -/

/-- The channel leads to the client and nowhere else. -/
def Guarded (client server : Ip) : DataChannel → Prop
  | .idle => True
  | .passive bound owner => owner = client ∧ bound.ip = server
  | .active target => target.ip = client ∧ lowestActivePort ≤ target.port

/-- A target that the server connects to: an address of the client itself, with a port that is not a reserved one. -/
def Admissible (target client : Endpoint) : Prop :=
  target.ip = client.ip ∧ lowestActivePort ≤ target.port

instance (target client : Endpoint) : Decidable (Admissible target client) :=
  inferInstanceAs (Decidable (_ ∧ _))

theorem activate_cases (target client : Endpoint) :
    (Admissible target client ∧ activate target client = .ok (.active target)) ∨
      (¬Admissible target client ∧ ∃ fault, activate target client = .error fault ∧ fault.replyCode = 501) := by
  unfold activate
  by_cases hip : target.ip = client.ip
  · by_cases hport : target.port < lowestActivePort
    · refine .inr ⟨fun h => UInt16.not_le.2 hport h.2, .badPort target.port, ?_, rfl⟩
      simp [hip, hport]
    · refine .inl ⟨⟨hip, UInt16.not_lt.1 hport⟩, ?_⟩
      simp [hip, hport]
  · exact .inr ⟨fun h => hip h.1, _, if_pos hip, rfl⟩

/-- Connecting to the target of a channel reaches the target, if it reaches anybody. -/
def Dial.Reaches {α : Type} (dial : Dial α) (channel : DataChannel) : Prop :=
  ∀ target peer stream, channel = .active target → dial = .connected peer stream → peer = target.ip

/-- Only a channel that leads somewhere can be opened. -/
theorem isNegotiated_of_openWith {α : Type} {channel : DataChannel} {dial : Dial α} {stream : α}
    (h : channel.openWith dial = .ok stream) : channel.isNegotiated = true := by
  cases channel with
  | idle => cases h
  | passive bound owner => rfl
  | active target => rfl

/-- **A guarded channel opens to the client.** A passive one turns everybody else away; an active one relies on getting
where it connects to. -/
theorem Guarded.peer_of_openWith {α : Type} {client server : Ip} {channel : DataChannel} {dial : Dial α} {stream : α}
    (h : channel.Guarded client server) (hopen : channel.openWith dial = .ok stream) (hreaches : dial.Reaches channel) :
    dial = .connected client stream := by
  cases channel with
  | idle => cases hopen
  | passive bound owner =>
    obtain ⟨rfl, -⟩ := h
    cases dial with
    | timedOut => cases hopen
    | failed cause => cases hopen
    -- whoever connects is let in from the owner's address only
    | connected peer found =>
      obtain ⟨rfl, hfound⟩ : peer = owner ∧ (.ok found : Except TransferFault α) = .ok stream := by
        unfold openWith at hopen
        dsimp only at hopen
        split at hopen
        · next hpeer => exact ⟨hpeer, hopen⟩
        · cases hopen
      cases hfound
      rfl
  | active target =>
    cases dial with
    | timedOut => cases hopen
    | failed cause => cases hopen
    | connected peer found =>
      cases hopen
      -- whoever answers has the address that was dialled, which is the client's
      rw [hreaches target peer stream rfl rfl, h.1]

end DataChannel

/-! ## Negotiations

Four commands make a channel, and each of them makes a guarded one or leaves the channel as it is. -/

/-- Whether a command negotiates a data channel. -/
def Command.negotiates : Command → Bool
  | .control .pasv | .control .epsv | .control .port | .control .eprt => true
  | _ => false

namespace Decision

/-- The codes that say that a data channel was negotiated. -/
def negotiationCodes : List Nat :=
  [227, 229, 200]

/-- What comes of a negotiation whose success has the given code. -/
inductive Negotiation (client : Client) (code : Nat) (d : Decision) : Prop where
  | succeeded (hcode : d.reply.code = code)
      (hguarded : d.client.channel.Guarded client.peer.ip client.here.ip)
  | failed (hcode : d.reply.code ∉ negotiationCodes) (hsame : d.client.channel = client.channel)

variable (bind : DataChannel.Binder) (ports : List UInt16) (client : Client)

/-- `PASV` makes a passive channel for the address of the client, or leaves the one that is there. -/
theorem negotiation_pasv : Negotiation client 227 (pasv bind ports client) := by
  unfold pasv
  split
  · exact .failed (show 425 ∉ negotiationCodes by decide) rfl
  next hversion =>
  split
  · exact .failed (show 425 ∉ negotiationCodes by decide) rfl
  next here client' hlisten =>
  obtain ⟨hip, rfl⟩ := listen_eq_ok hlisten
  -- the server's address has a text here, because it is the one that was found to be an IPv4 address
  have htext : DataAddress.passiveText? here ≠ none := by
    unfold DataAddress.passiveText?
    rw [hip]
    cases hhere : client.here.ip with
    | v4 address => exact nofun
    | v6 address =>
      rw [hhere] at hversion
      exact absurd rfl hversion
  split
  · exact .succeeded rfl ⟨rfl, hip⟩
  · next hnone => exact absurd hnone htext

/-- So does `EPSV`. -/
theorem negotiation_epsv : Negotiation client 229 (epsv bind ports client) := by
  unfold epsv
  split
  · exact .failed (show 425 ∉ negotiationCodes by decide) rfl
  next here client' hlisten =>
  obtain ⟨hip, rfl⟩ := listen_eq_ok hlisten
  exact .succeeded rfl ⟨rfl, hip⟩

/-- A target becomes the channel of the client, or nothing changes. -/
theorem activate_cases (verb : String) (target : Except TransferFault Endpoint) :
    (∃ endpoint, target = .ok endpoint ∧ DataChannel.Admissible endpoint client.peer ∧
      activate client verb target =
        succeed { client with channel := .active endpoint } ReplyCode.okay (verb ++ " command successful.")) ∨
    ∃ fault : TransferFault, (∀ endpoint, target = .ok endpoint →
        ¬DataChannel.Admissible endpoint client.peer ∧ fault.replyCode = 501) ∧
      activate client verb target = fail client fault.replyCode ("Illegal " ++ verb ++ " command.") := by
  cases target with
  | error fault => exact .inr ⟨fault, nofun, rfl⟩
  | ok endpoint =>
    have hbind : ((.ok endpoint : Except TransferFault Endpoint) >>= fun target =>
        DataChannel.activate target client.peer) = DataChannel.activate endpoint client.peer := rfl
    unfold activate
    rw [hbind]
    rcases DataChannel.activate_cases endpoint client.peer with ⟨hown, hok⟩ | ⟨hforeign, fault, herror, hcode⟩
    · rw [hok]
      exact .inl ⟨endpoint, rfl, hown, rfl⟩
    · rw [herror]
      refine .inr ⟨fault, fun given hgiven => ?_, rfl⟩
      cases hgiven
      exact ⟨hforeign, hcode⟩

/-- An active channel leads to the client's own address and to no privileged port. -/
theorem negotiation_activate (verb : String) (target : Except TransferFault Endpoint) :
    Negotiation client 200 (activate client verb target) := by
  rcases activate_cases client verb target with ⟨endpoint, -, hown, hmade⟩ | ⟨fault, -, hmade⟩ <;> rw [hmade]
  · exact .succeeded rfl hown
  · refine .failed ?_ rfl
    cases fault <;> simp [fail, TransferFault.replyCode, negotiationCodes]

/-- A missing argument is a target that could not be read. -/
theorem negotiation_activateFrom (verb : String) (read : String → Except TransferFault Endpoint)
    (argument : Option String) : Negotiation client 200 (activateFrom client verb read argument) := by
  cases argument with
  | none => exact negotiation_activate client verb (.error (.badArgument "missing argument"))
  | some argument => exact negotiation_activate client verb (read argument)

/-- The verbs that negotiate a channel, with the code of their success. -/
def negotiations : List (String × Nat) :=
  [("PASV", 227), ("EPSV", 229), ("PORT", 200), ("EPRT", 200)]

/-- The four commands that negotiate, each with the code that stands in the table. -/
theorem negotiation_make (settings : ControlSettings) {command : ControlCommand} (argument : Option String)
    (hnegotiates : (Command.control command).negotiates = true) :
    ∃ code, Negotiation client code (make settings bind client command argument) ∧
      ∀ row ∈ Command.table, row.2 = .control command → (row.1, code) ∈ negotiations := by
  cases command with
  | pasv => exact ⟨227, negotiation_pasv bind settings.dataPorts client, by decide⟩
  | epsv => exact ⟨229, negotiation_epsv bind settings.dataPorts client, by decide⟩
  | port => exact ⟨200, negotiation_activateFrom client _ _ argument, by decide⟩
  | eprt => exact ⟨200, negotiation_activateFrom client _ _ argument, by decide⟩
  | _ => exact Bool.noConfusion hnegotiates

/-- A command of the control connection that negotiates nothing gives the channel up or keeps it. `ABOR` gives it up,
and so does `USER` if it names somebody. -/
theorem channel_make (settings : ControlSettings) {command : ControlCommand} (argument : Option String)
    (hnot : (Command.control command).negotiates = false) :
    (make settings bind client command argument).client.channel = .idle ∨
      ((make settings bind client command argument).client.channel = client.channel ∧ command ≠ .abor ∧
        (command = .user → argument = none)) := by
  cases command with
  | pasv | epsv | port | eprt => exact Bool.noConfusion hnot
  | noop | syst | feat | stat => exact .inr ⟨rfl, nofun, nofun⟩
  | abor | quit => exact .inl rfl
  | user =>
    cases argument with
    | none => exact .inr ⟨rfl, nofun, fun _ => rfl⟩
    | some name =>
      left
      show (user settings.credentials client (some name)).client.channel = _
      unfold user
      dsimp only
      split <;> rfl
  -- a password that is refused makes the client log in anew, without its channel
  | pass =>
    show (pass settings.credentials client argument).client.channel = _ ∨
      ((pass settings.credentials client argument).client.channel = _ ∧ _)
    unfold pass
    split
    · exact .inr ⟨rfl, nofun, nofun⟩
    split
    · exact .inr ⟨rfl, nofun, nofun⟩
    split
    · exact .inr ⟨rfl, nofun, nofun⟩
    · exact .inl rfl
  | type | mode | stru | opts =>
    refine .inr ⟨?_, nofun, nofun⟩
    cases argument with
    | none => rfl
    | some argument =>
      simp only [make, type, onlyAccept, opts]
      split
      · rfl
      · first | rfl | (split <;> rfl)

end Decision

/-! ## What a command has to do with data connections

Only transfers open one, each at most one, and only over a channel that has been negotiated. -/

/-- Whether a data connection was opened. -/
def Effect.isOpening : Effect → Bool
  | .channelOpened => true
  | _ => false

/-- Whether an effect has to do with bytes that went over a data connection. -/
def Effect.isExchange : Effect → Bool
  | .sent _ | .called _ => true
  | _ => false

namespace Exchange

variable {σ : Type}

/-- What may be among the effects of a command: the opening of one data connection, if a channel was negotiated, and an
exchange of bytes, if the connection came about. -/
structure Uses (x : Exchange σ) (added : List Effect) : Prop where
  once : added.countP Effect.isOpening ≤ 1
  negotiated : .channelOpened ∈ added → x.client.channel.isNegotiated = true
  exchanged : ∀ effect ∈ added, effect.isExchange = true →
    ∃ stream, x.client.channel.openWith x.circumstances.dial = .ok stream

/-- A listing opens a data connection once at most, and only over a channel that was negotiated. -/
theorem Listed.uses {x : Exchange σ} {form : ListingForm} {argument : Option String} {result : Sent}
    {added : List Effect} (h : Listed x form argument result added) :
    Uses x (.stateReset :: added ++ [.channelClosed]) := by
  cases h with
  | refused | missing | unannounced => exact ⟨Nat.le_of_ble_eq_true rfl, by simp, by simp [Effect.isExchange]⟩
  | notOpened hchannel => exact ⟨Nat.le_of_ble_eq_true rfl, fun _ => hchannel, by simp [Effect.isExchange]⟩
  | sent hmem hopen =>
    exact ⟨Nat.le_of_ble_eq_true rfl, fun _ => DataChannel.isNegotiated_of_openWith hopen, fun _ _ _ => ⟨_, hopen⟩⟩

/-- A target is accepted only if there is a data channel. -/
theorem isNegotiated_of_storeTarget_eq_ok {x : Exchange σ} {argument : Option String} {target : Path}
    (h : x.storeTarget argument = .ok target) : x.client.channel.isNegotiated = true := by
  rcases x.storeTarget_cases argument with
    ⟨rfl, heq⟩ | ⟨text, rfl, ⟨-, heq⟩ | ⟨-, -, heq⟩ | ⟨hchannel, -⟩⟩
  · rw [heq] at h
    cases h
  · rw [heq] at h
    cases h
  · rw [heq] at h
    cases h
  · exact hchannel

/-- So does an upload. -/
theorem Stored.uses {x : Exchange σ} {settings : StoreSettings} {argument : Option String} {before : List Effect}
    {calls : List CallRecord} {reply : Reply} (h : Stored x settings argument before calls reply) :
    Uses x (before ++ calls.map .called ++ [.replyQueued reply] ++ [.stateReset, .channelClosed]) := by
  have honce : List.countP Effect.isOpening
      (before ++ calls.map .called ++ [.replyQueued reply] ++ [.stateReset, .channelClosed]) ≤ 1 := by
    simp only [List.countP_append, countP_called Effect.isOpening (fun _ => rfl)]
    cases h <;> exact Nat.le_of_ble_eq_true rfl
  cases h with
  | refused htarget => exact ⟨honce, by simp, by simp [Effect.isExchange]⟩
  | notOpened htarget hopen =>
    exact ⟨honce, fun _ => isNegotiated_of_storeTarget_eq_ok htarget, by simp [announced, Effect.isExchange]⟩
  | abandoned htarget hopen => exact ⟨honce, fun _ => isNegotiated_of_storeTarget_eq_ok htarget, fun _ _ _ => ⟨_, hopen⟩⟩
  | received htarget hopen => exact ⟨honce, fun _ => isNegotiated_of_storeTarget_eq_ok htarget, fun _ _ _ => ⟨_, hopen⟩⟩

/-- A command without a transfer leaves the channel alone. -/
theorem Answered.channel {x y : Exchange σ} {command : Command} {argument : Option String} {reply : Reply}
    (h : Answered x command argument y reply) : y.client.channel = x.client.channel := by
  cases h <;> rfl

/-- **A transfer gives the channel up in any case, and every other command leaves it alone.** -/
theorem channel_run [Pipeline σ] (x : Exchange σ) (settings : StoreSettings) {command : Command}
    (argument : Option String) (hcontrol : command.isControl = false) :
    ∃ added, (x.run settings command argument).2.history = x.history ++ added ∧ Uses x added ∧
      ((command.transfers = true ∧ (x.run settings command argument).2.client.channel = .idle) ∨
        (command.transfers = false ∧ (x.run settings command argument).2.client.channel = x.client.channel ∧
          .channelOpened ∉ added)) := by
  cases htransfers : command.transfers with
  | false =>
    obtain ⟨y, reply, hanswered, hrun⟩ := exists_answered x settings argument hcontrol htransfers
    have hhistory : (x.run settings command argument).2.history = x.history ++ [.stateReset, .replyQueued reply] := by
      rw [hrun, hanswered.history_eq]
    -- one reply, and nothing about data
    refine ⟨_, hhistory, ⟨Nat.le_of_ble_eq_true rfl, by simp, by simp [Effect.isExchange]⟩, .inr ⟨rfl, ?_, by simp⟩⟩
    rw [hrun, answer_snd]
    exact hanswered.channel
  | true =>
    cases command with
    | list form =>
      obtain ⟨added, hlisted, hsends, -⟩ := sends_list x form argument
      exact ⟨_, hsends.history, hlisted.uses, .inl ⟨rfl, rfl⟩⟩
    | store =>
      obtain ⟨before, calls, reply, hstored, hsends, -⟩ := sends_store x settings argument
      exact ⟨_, hsends.history, hstored.uses, .inl ⟨rfl, rfl⟩⟩
    | _ => exact Bool.noConfusion htransfers

end Exchange

end FtpIntake
