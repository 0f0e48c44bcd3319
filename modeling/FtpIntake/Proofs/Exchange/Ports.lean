import FtpIntake.Proofs.Connection.Channel
import FtpIntake.Proofs.Net.DataAddress

/-!
# The port that a client is told

A client that asks for a passive data channel is told where the server listens, and it has to read that off the text of
a reply. Only such a reply has one of two codes, and what is read off it is where the channel listens: a port of the
configured range that the host has granted.

Whether the host grants a port is up to it. Here it is a function of the endpoint that is asked for, and nothing is
assumed about it; what it knows of other listeners is told where a whole server is looked at.

* **`Reply.advertised?`** is what a client reads, by the rule of six numbers after 227 and between bars after 229.
* **`Decision.pasv_eq`** and **`Decision.epsv_eq`** are the two commands for a range of ports: the first port that the
  host grants, or a refusal if it grants none.
* **`PortStep`** is what a turn may do about the port of its client. **`Exchange.portStep_take`** says so of every turn.

The two commands that ask for a port go through the same range, so there is one lemma about the range and two about
the texts of the replies. The commands that ask for none are gone through by cases, and so are the ways of a line.
-/

namespace FtpIntake

open Text

/-! ## What the client reads

A client that follows the rule of the protocol, for both codes: six numbers between parentheses, or a port between
bars. What the server writes is read as the endpoint that it was written for. -/

namespace Reply

/-- Whether the reply says where the server listens. -/
def isPassive (r : Reply) : Bool :=
  r.code == 227 || r.code == 229

/-- The text between the first parenthesis and the one that closes it. -/
def bracketed (message : List Char) : List Char :=
  ((message.dropWhile (· != '(')).drop 1).takeWhile (· != ')')

/-- Where a client connects to that has asked the address for a passive channel. After 227 there are six numbers, which
give an address and a port. After 229 there is a port between bars, and the address is the one that was asked. -/
def advertised? (r : Reply) (asked : Ip) : Option Endpoint :=
  match r.code with
  | 227 => DataAddress.readPort (bracketed r.message.toList)
  | 229 =>
    match splitAt '|' (bracketed r.message.toList) with
    | [[], [], [], port, []] => (readUnsigned 65535 port).map fun port => ⟨asked, UInt16.ofNat port⟩
    | _ => none
  | _ => none

/-- The text between the first pair of brackets, if it has none of its own. -/
theorem bracketed_append {before inside after : List Char} (hbefore : '(' ∉ before) (hinside : ')' ∉ inside) :
    bracketed (before ++ '(' :: (inside ++ ')' :: after)) = inside := by
  have hskips : ∀ c ∈ before, (c != '(') = true := fun c hc => by
    simp only [bne_iff_ne, ne_eq]
    rintro rfl
    exact hbefore hc
  have htakes : ∀ c ∈ inside, (c != ')') = true := fun c hc => by
    simp only [bne_iff_ne, ne_eq]
    rintro rfl
    exact hinside hc
  rw [bracketed, List.dropWhile_append_of_pos hskips, List.dropWhile_cons_of_neg (by decide), List.drop_one,
    List.tail_cons, List.takeWhile_append_of_pos htakes, List.takeWhile_cons_of_neg (by decide), List.append_nil]

/-- **The six numbers are read as the endpoint that they were written for.** -/
theorem advertised?_passive (ip : Ipv4) (port : UInt16) (asked : Ip) :
    advertised? ⟨227, "Entering Passive Mode " ++ String.ofList ('(' :: DataAddress.portChars ip port ++ [')']) ++ "."⟩
      asked = some ⟨.v4 ip, port⟩ := by
  -- digits and commas neither open nor close the brackets
  have hclosing : ')' ∉ DataAddress.portChars ip port := fun hmem => by
    rcases DataAddress.mem_portChars hmem with h | h <;> exact absurd h (by decide)
  have hmessage : ("Entering Passive Mode " ++ String.ofList ('(' :: DataAddress.portChars ip port ++ [')']) ++
      ".").toList = "Entering Passive Mode ".toList ++ '(' :: (DataAddress.portChars ip port ++ [')', '.']) := by
    rw [String.toList_append, String.toList_append, String.toList_ofList]
    simp
  unfold advertised?
  dsimp only
  rw [hmessage, bracketed_append (by decide) hclosing, DataAddress.readPort_portChars]
  rfl

/-- **The port between the bars is read as it was written.** -/
theorem advertised?_extended (port : UInt16) (asked : Ip) :
    advertised? ⟨229, "Entering Extended Passive Mode (|||" ++ toString port.toNat ++ "|)."⟩ asked =
      some ⟨asked, port⟩ := by
  have hbar : '|' ∉ numeral port.toNat := fun h => absurd (isDigit_of_mem_numeral h) (by decide)
  have hclosing : ')' ∉ "|||".toList ++ numeral port.toNat ++ ['|'] := by
    simp only [List.mem_append, not_or]
    exact ⟨⟨by decide, fun h => absurd (isDigit_of_mem_numeral h) (by decide)⟩, by decide⟩
  have hmessage : ("Entering Extended Passive Mode (|||" ++ toString port.toNat ++ "|).").toList =
      "Entering Extended Passive Mode ".toList ++ '(' :: (("|||".toList ++ numeral port.toNat ++ ['|']) ++ [')', '.']) := by
    have hnumeral : (toString port.toNat).toList = numeral port.toNat := by
      rw [Nat.toString_eq_ofList_toDigits, String.toList_ofList]
      rfl
    rw [String.toList_append, String.toList_append, hnumeral]
    simp
  -- the three bars in front leave three empty pieces, and the one behind an empty last piece
  have hsplit : splitAt '|' ("|||".toList ++ numeral port.toNat ++ ['|']) = [[], [], [], numeral port.toNat, []] := by
    have hend : splitAt '|' (numeral port.toNat ++ '|' :: []) = [numeral port.toNat, []] := splitAt_append hbar []
    show splitAt '|' ('|' :: '|' :: '|' :: (numeral port.toNat ++ ['|'])) = _
    simp only [splitAt, if_true, hend]
  unfold advertised?
  dsimp only
  rw [hmessage, bracketed_append (by decide) hclosing, hsplit]
  dsimp only
  rw [readUnsigned_numeral (Nat.le_of_lt_succ port.toNat_lt)]
  simp

end Reply

/-! ## What the host grants

The ports of the range are tried from the lower bound on, and the first that is granted is taken. -/

namespace DataChannel

/-- The ports that are tried are those between the two bounds, the bounds included. -/
theorem mem_portRange {low high port : UInt16} : port ∈ portRange low high ↔ low ≤ port ∧ port ≤ high := by
  have hlow := low.toNat_lt
  have hhigh := high.toNat_lt
  rw [portRange, List.mem_map, UInt16.le_iff_toNat_le, UInt16.le_iff_toNat_le]
  constructor
  · rintro ⟨n, hn, rfl⟩
    rw [List.mem_range'_1] at hn
    have hsize : UInt16.size = 65536 := rfl
    rw [UInt16.toNat_ofNat_of_lt' (by omega)]
    omega
  · rintro ⟨hle, hge⟩
    exact ⟨port.toNat, List.mem_range'_1.2 (by omega), UInt16.ofNat_toNat⟩

/-- The first of some ports that the host grants at an address. -/
def granted? (bind : Binder) (here : Ip) (ports : List UInt16) : Option UInt16 :=
  ports.findSome? fun port => bind ⟨here, port⟩

end DataChannel

/-! ## What becomes of the port

What a command decides about the channel, as far as the port is concerned. Only two commands ask the host for a port,
and `portStep_make` goes through all the others. -/

open DataChannel (granted?)

/-- What a turn may do about the port that its client listens on: it keeps the channel or leaves nobody listening, and
says nothing of a passive channel, or it listens on a port that the host has granted, and says where. -/
inductive PortStep (bind : DataChannel.Binder) (ports : List UInt16) (before after : Client) (replies : List Reply) :
    Prop where
  | quiet (hchannel : after.channel.localEndpoint? = none ∨ after.channel = before.channel)
      (hreplies : ∀ r ∈ replies, r.isPassive = false)
  | listens {port : UInt16} {reply : Reply} (hport : granted? bind before.here.ip ports = some port)
      (hchannel : after.channel = .passive ⟨before.here.ip, port⟩ before.peer.ip) (hreplies : replies = [reply])
      (hadvertised : reply.advertised? before.here.ip = some ⟨before.here.ip, port⟩)

namespace PortStep

variable {bind : DataChannel.Binder} {ports : List UInt16} {before after after' : Client} {replies : List Reply}

/-- A turn may begin with a client that differs in what the channel does not depend on. -/
theorem of_before {before' : Client} (h : PortStep bind ports before' after replies) (hhere : before'.here = before.here)
    (hpeer : before'.peer = before.peer) (hchannel : before'.channel = before.channel) :
    PortStep bind ports before after replies := by
  cases h with
  | quiet hquiet hreplies => exact .quiet (hchannel ▸ hquiet) hreplies
  | listens hport hlistens hreplies hadvertised =>
    rw [hhere] at hport hlistens hadvertised
    rw [hpeer] at hlistens
    exact .listens hport hlistens hreplies hadvertised

/-- Of the client after a turn only the channel counts. -/
theorem of_after (h : PortStep bind ports before after replies) (hchannel : after'.channel = after.channel) :
    PortStep bind ports before after' replies := by
  cases h with
  | quiet hquiet hreplies => exact .quiet (hchannel ▸ hquiet) hreplies
  | listens hport hlistens hreplies hadvertised => exact .listens hport (hchannel.trans hlistens) hreplies hadvertised

/-- A single reply that says nothing of a passive channel. -/
theorem quiet_singleton {reply : Reply} (hchannel : after.channel.localEndpoint? = none ∨ after.channel = before.channel)
    (hcode : reply.isPassive = false) : PortStep bind ports before after [reply] :=
  .quiet hchannel fun _ hr => List.mem_singleton.1 hr ▸ hcode

end PortStep

namespace Decision

variable (bind : DataChannel.Binder) (ports : List UInt16) (client : Client)

/-- A passive channel is made on the first port that the host grants. -/
theorem listen_eq :
    listen bind ports client =
      match granted? bind client.here.ip ports with
      | some port => .ok (⟨client.here.ip, port⟩, { client with channel := .passive ⟨client.here.ip, port⟩ client.peer.ip })
      | none => .error .noPortLeft := by
  unfold listen DataChannel.listen granted?
  cases ports.findSome? fun port => bind ⟨client.here.ip, port⟩ <;> rfl

/-- **`PASV` listens on the first port that the host grants**, and it is refused if the host grants none. -/
theorem pasv_eq {ip : Ipv4} (hip : client.here.ip = .v4 ip) :
    pasv bind ports client =
      match granted? bind client.here.ip ports with
      | some port =>
        succeed { client with channel := .passive ⟨client.here.ip, port⟩ client.peer.ip } 227
          ("Entering Passive Mode " ++ String.ofList ('(' :: DataAddress.portChars ip port ++ [')']) ++ ".")
      | none => failPlainly client 425 := by
  have hversion : ¬(!client.here.ip.isIpv4) = true := by
    rw [hip]
    exact Bool.false_ne_true
  -- over IPv4 an endpoint always has a text
  unfold pasv
  rw [if_neg hversion, listen_eq]
  cases granted? bind client.here.ip ports with
  | none => rfl
  | some port =>
    have htext : DataAddress.passiveText? ⟨client.here.ip, port⟩ =
        some (String.ofList ('(' :: DataAddress.portChars ip port ++ [')'])) := by
      rw [DataAddress.passiveText?, hip]
    dsimp only
    rw [htext]

theorem epsv_eq :
    epsv bind ports client =
      match granted? bind client.here.ip ports with
      | some port =>
        succeed { client with channel := .passive ⟨client.here.ip, port⟩ client.peer.ip } 229
          ("Entering Extended Passive Mode (|||" ++ toString port.toNat ++ "|).")
      | none => failPlainly client 425 := by
  unfold epsv
  rw [listen_eq]
  cases granted? bind client.here.ip ports <;> rfl

/-- Over IPv4 the only failure of `PASV` is that no port is granted. -/
theorem code_pasv_eq_iff (hversion : client.here.ip.isIpv4 = true) :
    (pasv bind ports client).reply.code = 425 ↔ granted? bind client.here.ip ports = none := by
  obtain ⟨ip, hip⟩ : ∃ ip, client.here.ip = .v4 ip := by
    cases hip : client.here.ip with
    | v4 ip => exact ⟨ip, rfl⟩
    | v6 ip =>
      rw [hip] at hversion
      exact Bool.noConfusion hversion
  rw [pasv_eq bind ports client hip]
  cases granted? bind client.here.ip ports <;> simp [succeed, failPlainly, fail]

/-- It is the only failure of `EPSV`. -/
theorem code_epsv_eq_iff :
    (epsv bind ports client).reply.code = 425 ↔ granted? bind client.here.ip ports = none := by
  rw [epsv_eq bind ports client]
  cases granted? bind client.here.ip ports <;> simp [succeed, failPlainly, fail]

/-- `PASV` tells the port that it has been granted, or says nothing of one. Over IPv6 it refuses before it asks. -/
theorem portStep_pasv : PortStep bind ports client (pasv bind ports client).client [(pasv bind ports client).reply] := by
  cases hip : client.here.ip with
  | v6 ip =>
    -- there is no such reply for this version
    have hrefused : pasv bind ports client = fail client 425 "PASV requires IPv4, use EPSV." := by
      unfold pasv
      rw [hip]
      rfl
    rw [hrefused]
    exact .quiet_singleton (.inr rfl) rfl
  | v4 ip =>
    rw [pasv_eq bind ports client hip]
    cases hport : granted? bind client.here.ip ports with
    | none => exact .quiet_singleton (.inr rfl) rfl
    | some port =>
      refine .listens hport rfl rfl ?_
      rw [hip]
      exact Reply.advertised?_passive ip port _

/-- `EPSV` does so over both. -/
theorem portStep_epsv : PortStep bind ports client (epsv bind ports client).client [(epsv bind ports client).reply] := by
  rw [epsv_eq bind ports client]
  cases hport : granted? bind client.here.ip ports with
  | none => exact .quiet_singleton (.inr rfl) rfl
  | some port => exact .listens hport rfl rfl (Reply.advertised?_extended port _)

/-- A channel that the server connects by itself has no port to listen on. Its negotiation is told by 200. -/
theorem channel_activateFrom (verb : String) (read : String → Except TransferFault Endpoint) (argument : Option String) :
    let d := activateFrom client verb read argument
    d.reply.isPassive = false ∧
      ((d.reply.code = 200 ∧ d.client.channel.localEndpoint? = none) ∨
        (d.reply.code ≠ 200 ∧ d.client.channel = client.channel)) := by
  -- a target that is refused changes nothing, and its code is not 200
  have hactivate (target : Except TransferFault Endpoint) :
      (activate client verb target).reply.isPassive = false ∧
        (((activate client verb target).reply.code = 200 ∧
            (activate client verb target).client.channel.localEndpoint? = none) ∨
          ((activate client verb target).reply.code ≠ 200 ∧
            (activate client verb target).client.channel = client.channel)) := by
    rcases activate_cases client verb target with ⟨endpoint, -, -, hmade⟩ | ⟨fault, -, hmade⟩ <;> rw [hmade]
    · exact ⟨rfl, .inl ⟨rfl, rfl⟩⟩
    · have hcode : fault.replyCode ≠ 200 := by cases fault <;> simp [TransferFault.replyCode]
      refine ⟨?_, .inr ⟨hcode, rfl⟩⟩
      cases fault <;> rfl
  cases argument with
  | none => exact hactivate (.error (.badArgument "missing argument"))
  | some argument => exact hactivate (read argument)

/-- `PORT` and `EPRT` leave nobody listening, or leave the channel as it is. -/
theorem portStep_activateFrom (verb : String) (read : String → Except TransferFault Endpoint) (argument : Option String) :
    PortStep bind ports client (activateFrom client verb read argument).client
      [(activateFrom client verb read argument).reply] := by
  obtain ⟨hcode, ⟨-, hnone⟩ | ⟨-, hsame⟩⟩ := channel_activateFrom client verb read argument
  · exact .quiet_singleton (.inl hnone) hcode
  · exact .quiet_singleton (.inr hsame) hcode

/-- **No command of the control connection does anything else about ports.** -/
theorem portStep_make (settings : ControlSettings) (command : ControlCommand) (argument : Option String) :
    PortStep bind settings.dataPorts client (make settings bind client command argument).client
      [(make settings bind client command argument).reply] := by
  -- a command that does not negotiate keeps the channel or empties it
  have hother (hcode : (make settings bind client command argument).reply.isPassive = false)
      (hnot : (Command.control command).negotiates = false) :
      PortStep bind settings.dataPorts client (make settings bind client command argument).client
        [(make settings bind client command argument).reply] := by
    refine .quiet_singleton ?_ hcode
    rcases channel_make bind client settings argument hnot with hidle | ⟨hsame, -⟩
    · rw [hidle]
      exact .inl rfl
    · exact .inr hsame
  cases command with
  | pasv => exact portStep_pasv bind settings.dataPorts client
  | epsv => exact portStep_epsv bind settings.dataPorts client
  | port | eprt => exact portStep_activateFrom bind settings.dataPorts client _ _ argument
  | quit | noop | syst | feat | abor | stat => exact hother rfl rfl
  | user =>
    refine hother ?_ rfl
    simp only [make, user]
    split
    · rfl
    split
    · rfl
    · rfl
  | pass =>
    refine hother ?_ rfl
    simp only [make, pass]
    split
    · rfl
    split
    · rfl
    split
    · rfl
    · rfl
  | type | mode | stru | opts =>
    refine hother ?_ rfl
    cases argument with
    | none => rfl
    | some argument =>
      simp only [make, type, onlyAccept, opts]
      split
      · rfl
      · first | rfl | (split <;> rfl)

/-- The four commands that negotiate a channel, each with the code that confirms it. -/
theorem exists_command_of_mem_negotiations {verb : String} {code : Nat} (h : (verb, code) ∈ negotiations) :
    ∃ command, Command.ofVerb? verb = some (.control command) ∧
      ((code = 200 ∧ (command = .port ∨ command = .eprt)) ∨ code = 227 ∨ code = 229) := by
  simp only [negotiations, List.mem_cons, Prod.mk.injEq, List.not_mem_nil, or_false] at h
  rcases h with ⟨rfl, rfl⟩ | ⟨rfl, rfl⟩ | ⟨rfl, rfl⟩ | ⟨rfl, rfl⟩
  · exact ⟨.pasv, by decide, .inr (.inl rfl)⟩
  · exact ⟨.epsv, by decide, .inr (.inr rfl)⟩
  · exact ⟨.port, by decide, .inl ⟨rfl, .inl rfl⟩⟩
  · exact ⟨.eprt, by decide, .inl ⟨rfl, .inr rfl⟩⟩

/-- After a negotiation that was confirmed nobody listens, or it is on a port that the host has granted. -/
theorem released_make (settings : ControlSettings) {command : ControlCommand} (argument : Option String) {code : Nat}
    (hkind : (code = 200 ∧ (command = .port ∨ command = .eprt)) ∨ code = 227 ∨ code = 229)
    (hcode : (make settings bind client command argument).reply.code = code) :
    (make settings bind client command argument).client.channel.localEndpoint? = none ∨
      ∃ port, granted? bind client.here.ip settings.dataPorts = some port ∧
        (make settings bind client command argument).client.channel = .passive ⟨client.here.ip, port⟩ client.peer.ip := by
  -- an active channel listens nowhere, and a passive one has been told
  rcases hkind with ⟨rfl, hactive⟩ | hpassive
  · have hnone (verb : String) (read : String → Except TransferFault Endpoint)
        (hcode : (activateFrom client verb read argument).reply.code = 200) :
        (activateFrom client verb read argument).client.channel.localEndpoint? = none := by
      obtain ⟨-, ⟨-, hnone⟩ | ⟨hother, -⟩⟩ := channel_activateFrom client verb read argument
      · exact hnone
      · exact absurd hcode hother
    rcases hactive with rfl | rfl
    · exact .inl (hnone _ _ hcode)
    · exact .inl (hnone _ _ hcode)
  · have htold : (make settings bind client command argument).reply.isPassive = true := by
      rw [Reply.isPassive, hcode]
      rcases hpassive with rfl | rfl <;> rfl
    cases portStep_make bind client settings command argument with
    | listens hport hlistens => exact .inr ⟨_, hport, hlistens⟩
    | quiet _ hquiet => exact Bool.noConfusion ((hquiet _ (List.mem_singleton_self _)).symm.trans htold)

end Decision

/-! ## Turns

A turn is a line with everything around it: the record of the line, the gate before the login, the command and its
replies. None of what is around a command changes a port. -/

namespace Exchange

variable {σ : Type}

/-- No command without a transfer is answered by one of the two codes. -/
theorem Answered.isPassive_eq_false {x y : Exchange σ} {command : Command} {argument : Option String} {reply : Reply}
    (h : Answered x command argument y reply) : reply.isPassive = false := by
  have hhelp : (HelpIndex.served.replyFor argument).isPassive = false := by
    unfold HelpIndex.replyFor
    split <;> rfl
  cases h with
  | helped => exact hhelp
  | _ => rfl

/-- Nor is a listing. -/
theorem Listed.isPassive_eq_false {x : Exchange σ} {form : ListingForm} {argument : Option String} {result : Sent}
    {added : List Effect} (h : Listed x form argument result added) :
    ∀ r ∈ repliesOf added, r.isPassive = false := by
  have hend (sent : Sent) : (listingEnd sent).isPassive = false := by cases sent <;> rfl
  cases h with
  | sent => exact List.forall_mem_cons.2 ⟨rfl, List.forall_mem_singleton.2 (hend _)⟩
  | refused | missing | unannounced => exact List.forall_mem_singleton.2 rfl
  | notOpened => exact List.forall_mem_cons.2 ⟨rfl, List.forall_mem_singleton.2 rfl⟩

/-- Nor is a `STOR`. -/
theorem Stored.isPassive_eq_false {x : Exchange σ} {settings : StoreSettings} {argument : Option String}
    {before : List Effect} {calls : List CallRecord} {reply : Reply} (h : Stored x settings argument before calls reply) :
    ∀ r ∈ repliesOf (before ++ calls.map .called ++ [.replyQueued reply]), r.isPassive = false := by
  rw [repliesOf_append, repliesOf_append, repliesOf_called, List.append_nil]
  have hmark (target : Path) : ∀ r ∈ repliesOf (announced target), r.isPassive = false :=
    List.forall_mem_singleton.2 rfl
  cases h with
  | @refused failure htarget =>
    have hcode : failure.code ∈ [501, 503, 550] := code_of_storeTarget_eq_error htarget
    refine List.forall_mem_singleton.2 ?_
    show (failure.code == 227 || failure.code == 229) = false
    simp only [List.mem_cons, List.not_mem_nil, or_false] at hcode
    rcases hcode with hcode | hcode | hcode <;> rw [hcode] <;> rfl
  | notOpened | abandoned => exact List.forall_mem_append.2 ⟨hmark _, List.forall_mem_singleton.2 rfl⟩
  | received =>
    refine List.forall_mem_append.2 ⟨hmark _, List.forall_mem_singleton.2 ?_⟩
    -- 226, 426 or 451, by how the upload ended
    rw [Reply.isPassive, code_replyTo]
    unfold outcomeCode
    split
    · rfl
    · split <;> rfl
    · rfl

/-- A command that is no control command keeps the channel or, if it transfers something, gives it up. -/
theorem portStep_run [Pipeline σ] (x : Exchange σ) (settings : StoreSettings) (ports : List UInt16) {command : Command}
    (argument : Option String) (hcontrol : command.isControl = false) :
    ∃ added, (x.run settings command argument).2.history = x.history ++ added ∧
      PortStep x.circumstances.bind ports x.client (x.run settings command argument).2.client (repliesOf added) := by
  cases htransfers : command.transfers with
  | false =>
    obtain ⟨y, reply, hanswered, hrun⟩ := exists_answered x settings argument hcontrol htransfers
    refine ⟨[.stateReset, .replyQueued reply], ?_, .quiet_singleton (.inr ?_) hanswered.isPassive_eq_false⟩
    · rw [hrun, hanswered.history_eq]
    · rw [hrun, answer_snd]
      exact hanswered.channel
  | true =>
    -- a transfer gives the channel up, whatever comes of it
    cases command with
    | list form =>
      obtain ⟨added, hlisted, hsends, -⟩ := sends_list x form argument
      refine ⟨_, hsends.history, .quiet (.inl rfl) ?_⟩
      rw [repliesOf_listing]
      exact hlisted.isPassive_eq_false
    | store =>
      obtain ⟨before, calls, reply, hstored, hsends, -⟩ := sends_store x settings argument
      refine ⟨_, hsends.history, .quiet (.inl rfl) ?_⟩
      rw [repliesOf_upload]
      exact hstored.isPassive_eq_false
    | _ => exact Bool.noConfusion htransfers

variable [Pipeline σ]

/-- A request, whichever way it goes. -/
theorem portStep_dispatch (x : Exchange σ) (service : Service) (r : Request) :
    ∃ added, (x.dispatch service r).2.history = x.history ++ added ∧
      PortStep x.circumstances.bind service.control.dataPorts x.client (x.dispatch service r).2.client
        (repliesOf added) := by
  -- a request that is refused before it is run
  have hrefused (reply : Reply) (hcode : reply.isPassive = false) :
      ∃ added, (x.reset.say reply).2.history = x.history ++ added ∧
        PortStep x.circumstances.bind service.control.dataPorts x.client (x.reset.say reply).2.client
          (repliesOf added) := by
    refine ⟨_, history_reset_answer x x.client reply, .quiet_singleton (.inr ?_) hcode⟩
    show (x.reset.answer reply).2.client.channel = _
    rw [answer_snd]
    rfl
  have hway := x.dispatched service r
  generalize x.dispatch service r = result at hway
  cases hway with
  | unknown hverb => exact hrefused _ rfl
  | refused hverb hout => exact hrefused _ rfl
  | @controlled command hverb =>
    have hmade := Decision.portStep_make x.circumstances.bind x.client service.control command r.argument
    refine ⟨[.stateReset, .replyQueued _], ?_, hmade.of_after ?_⟩
    · rw [control_snd]
      exact history_reset_answer x _ _
    · rw [control_snd, answer_snd]
      rfl
  | ran hverb hcontrol => exact portStep_run x service.store service.control.dataPorts r.argument hcontrol

/-- **What a turn does about the port of its client.** -/
theorem portStep_take (x : Exchange σ) (service : Service) (input : Input) :
    ∃ added, (x.take service input).2.history = x.history ++ added ∧
      PortStep x.circumstances.bind service.control.dataPorts x.client (x.take service input).2.client
        (repliesOf added) := by
  rcases x.take_cases service input with ⟨line, -, heq⟩ | ⟨-, heq | heq⟩
  · -- the line is logged before it is run, which is no reply
    obtain ⟨added, hhistory, hstep⟩ := portStep_dispatch (x.begun line) service (Request.ofLine line)
    rw [heq]
    refine ⟨.logged (LogRecord.executed (toString x.client.peer) line) :: added, ?_, hstep.of_before rfl rfl rfl⟩
    rw [hhistory, (x.writes_begun line).history, List.append_assoc]
    rfl
  · rw [heq]
    exact ⟨[], (List.append_nil _).symm, .quiet (.inr rfl) nofun⟩
  · rw [heq]
    refine ⟨_, history_answer x Reply.tooLong, .quiet_singleton (.inr ?_) rfl⟩
    rw [answer_snd]

/-! ## Requests about the channel

What the statement on ports asks of single requests: when a request for a passive channel is refused, and after which
requests nobody listens any more. -/

/-- A client that is not logged in has no channel, and gets none before it is. -/
theorem idle_take {x : Exchange σ} (service : Service) (input : Input)
    (hidle : x.client.loggedIn = false → x.client.channel = .idle)
    (hafter : (x.take service input).2.client.loggedIn = false) : (x.take service input).2.client.channel = .idle := by
  have hstep := x.loginStep_take service input
  cases hexecuted : input.executed? service with
  | none =>
    rw [hexecuted] at hstep
    have hin : (x.take service input).2.client.loggedIn = x.client.loggedIn := congrArg Prod.snd hstep.1
    exact hstep.2.trans (hidle (hin.symm.trans hafter))
  | some r =>
    rw [hexecuted] at hstep
    cases hstep with
    | kept _ hlogin =>
      -- the client was not logged in before either, and whoever is not does nothing to its channel
      have hin : (x.take service input).2.client.loggedIn = x.client.loggedIn := congrArg Prod.snd hlogin
      have hout : x.client.loggedIn = false := hin.symm.trans hafter
      exact (untouched_take service input hout).stays.channel (hidle hout)
    | named _ _ _ _ hchannel | forgotten _ hchannel => exact hchannel
    | admitted _ _ _ _ hlogin => exact Bool.noConfusion ((congrArg Prod.snd hlogin).symm.trans hafter)

section Requests

variable {x : Exchange σ} {service : Service} {input : Input} {r : Request} {added : List Effect}

/-- A command of the control connection that may be run does to the channel what it decides, and sends one reply. -/
theorem take_control {command : ControlCommand} (hexecuted : input.executed? service = some r)
    (hopen : x.client.loggedIn = true ∨ (Command.control command).allowedBeforeLogin = true)
    (hverb : Command.ofVerb? r.verb = some (.control command))
    (hhistory : (x.take service input).2.history = x.history ++ added) :
    let d := Decision.make service.control x.circumstances.bind (x.client.begin r.verb) command r.argument
    (x.take service input).2.client.channel = d.client.channel ∧ codesOf added = [d.reply.code] := by
  intro d
  rcases x.take_cases service input with ⟨line, hline, heq⟩ | ⟨hnone, -⟩
  · obtain rfl : Request.ofLine line = r := Option.some.inj (hline.symm.trans hexecuted)
    have hopen' : (x.begun line).client.loggedIn = true ∨ (Command.control command).allowedBeforeLogin = true := hopen
    have htake : (x.take service input).2 = (({ x.begun line with client := d.client } : Exchange σ).reset.answer d.reply).2 := by
      rw [heq, dispatch_eq_control hverb hopen', control_snd]
      rfl
    rw [htake, history_reset_answer, (x.writes_begun line).history, List.append_assoc] at hhistory
    rw [htake, answer_snd, ← List.append_cancel_left hhistory]
    exact ⟨rfl, rfl⟩
  · cases hnone.symm.trans hexecuted

/-- **`PASV` over IPv4 and `EPSV` are answered by 425 just if the host grants no port.** -/
theorem refused_iff_take (hexecuted : input.executed? service = some r) (hin : x.client.loggedIn = true)
    (hpassive : (r.verb = "PASV" ∧ x.client.here.ip.isIpv4 = true) ∨ r.verb = "EPSV")
    (hhistory : (x.take service input).2.history = x.history ++ added) :
    codesOf added = [425] ↔ granted? x.circumstances.bind x.client.here.ip service.control.dataPorts = none := by
  rcases hpassive with ⟨hverb, hversion⟩ | hverb
  · have hcommand : Command.ofVerb? r.verb = some (.control .pasv) := by
      rw [hverb]
      decide
    rw [(take_control hexecuted (.inl hin) hcommand hhistory).2, List.singleton_inj]
    exact Decision.code_pasv_eq_iff _ _ (x.client.begin r.verb) hversion
  · have hcommand : Command.ofVerb? r.verb = some (.control .epsv) := by
      rw [hverb]
      decide
    rw [(take_control hexecuted (.inl hin) hcommand hhistory).2, List.singleton_inj]
    exact Decision.code_epsv_eq_iff _ _ (x.client.begin r.verb)

/-- After a request that gives the channel up, after `QUIT` and after a negotiation that was confirmed, nobody listens,
or it is on a port that the host has just granted. -/
theorem released_take (hexecuted : input.executed? service = some r) (hin : x.client.loggedIn = true)
    (hhistory : (x.take service input).2.history = x.history ++ added)
    (hreleases : r.GivesUp ∨ r.verb = "QUIT" ∨ Executed.Negotiated ⟨r, codesOf added⟩) :
    (x.take service input).2.client.channel.localEndpoint? = none ∨
      ∃ port, granted? x.circumstances.bind x.client.here.ip service.control.dataPorts = some port ∧
        (x.take service input).2.client.channel = .passive ⟨x.client.here.ip, port⟩ x.client.peer.ip := by
  rcases hreleases with hgives | hquit | ⟨code, hrow, hcodes⟩
  · -- of the steps that a channel can take, only one is left to a request that gives it up
    have hidle (hout : x.client.loggedIn = false) : x.client.channel = .idle := Bool.noConfusion (hout.symm.trans hin)
    obtain ⟨found, hchannelled⟩ := channelled_take hexecuted hidle
    left
    cases hchannelled.step with
    | kept hspares => exact absurd hgives hspares
    | givenUp _ hidle =>
      rw [hidle]
      rfl
    | negotiated hnegotiated =>
      obtain ⟨code, hrow, -⟩ := hnegotiated
      exact absurd (List.mem_map_of_mem hrow) (Command.notMem_negotiations_of_givesUp hgives)
  · have hcommand : Command.ofVerb? r.verb = some (.control .quit) := by
      rw [hquit]
      decide
    left
    rw [(take_control hexecuted (.inl hin) hcommand hhistory).1]
    rfl
  · obtain ⟨command, hcommand, hkind⟩ := Decision.exists_command_of_mem_negotiations hrow
    obtain ⟨hchannel, hcode⟩ := take_control hexecuted (.inl hin) hcommand hhistory
    have hcode := List.singleton_inj.1 (hcodes.symm.trans hcode)
    rw [hchannel]
    exact Decision.released_make x.circumstances.bind (x.client.begin r.verb) service.control r.argument hkind hcode.symm

end Requests

end Exchange

end FtpIntake
