import FtpIntake.Pipeline.Memory
import FtpIntake.Proofs.Exchange.Answered
import FtpIntake.Proofs.Exchange.Store

/-!
# What a command leaves behind

The commands with a transfer have two replies, and things can go wrong before, between and after them. Whatever does,
the client's state is cleared once, the data channel is given up once, and the client can tell which reply is the last.

What a command does is recorded as effects: replies that are queued, calls of the pipeline, the clearing of the state and
the giving up of the channel. `Writes` ties the replies of the record to the bytes that the client is sent, and `Steady`
says what stays as it was. The ways through a command tell its effects in order, so that what a client sees can be read
off them.

* **`Exchange.Listed`** has one rule for each way through a listing, as `Stored` has for an upload.
* **`sends_list`** and **`sends_store`** say that every listing and every upload takes one of its ways.
* **`Exchange.run_account`** is the account for all commands.
-/

namespace FtpIntake

/-! ## The replies to one command

Every command that is run ends with one final reply. A transfer may send a mark before it, and nothing else counts as
a reply. -/

/-- The codes of one final reply, and of a mark before it if there may be one. -/
def IsAnswer (codes : List Nat) (announced : Bool) : Prop :=
  ∃ final, 200 ≤ final ∧ (codes = [final] ∨ announced = true ∧ codes = [150, final])

/-- One final reply is an answer. -/
theorem isAnswer_singleton {final : Nat} (hfinal : 200 ≤ final) (announced : Bool) : IsAnswer [final] announced :=
  ⟨final, hfinal, .inl rfl⟩

/-- So are a mark and a final reply. -/
theorem isAnswer_pair {final : Nat} (hfinal : 200 ≤ final) : IsAnswer [150, final] true :=
  ⟨final, hfinal, .inr ⟨rfl, rfl⟩⟩

/-- Whoever may send a mark need not. -/
theorem IsAnswer.imp {codes : List Nat} {announced announced' : Bool} (h : IsAnswer codes announced)
    (himp : announced = true → announced' = true) : IsAnswer codes announced' := by
  obtain ⟨final, hfinal, hcodes | ⟨hannounced, hcodes⟩⟩ := h
  · exact ⟨final, hfinal, .inl hcodes⟩
  · exact ⟨final, hfinal, .inr ⟨himp hannounced, hcodes⟩⟩

/-- Whether the client's state was cleared. -/
def Effect.isReset : Effect → Bool
  | .stateReset => true
  | _ => false

/-- Whether the data channel was given up. -/
def Effect.isClose : Effect → Bool
  | .channelClosed => true
  | _ => false

namespace Exchange

variable {σ : Type}

/-! ## Listings

Five ways: no channel, no directory, a mark that cannot be sent, a data connection that cannot be opened, and one that
can. Only the fourth and the fifth send two replies. -/

/-- The reply that announces a listing. -/
def listingMark : Reply :=
  ⟨ReplyCode.fileStatusOkay, "Here comes the directory listing."⟩

/-- The final reply to a listing that was sent, or was not sent as a whole. -/
def listingEnd : Sent → Reply
  | .ok () => ⟨ReplyCode.closingDataConnection, "Directory send OK."⟩
  | .error _ => Reply.ofCode ReplyCode.transferAborted

/-- What is sent of a directory, in the form that was asked for. -/
def listingBytes (x : Exchange σ) (form : ListingForm) (argument : Option String) : Bytes :=
  (String.ofList (Listing.chars form x.circumstances.clock x.tree (x.listingDirectory argument))).toUTF8.toList

/-- The ways through a listing: how it ends, and its effects between the clearing of the client's state and the end of
the channel. -/
inductive Listed (x : Exchange σ) (form : ListingForm) (argument : Option String) : Sent → List Effect → Prop where
  | refused {result : Sent} (hchannel : x.client.channel.isNegotiated = false) :
      Listed x form argument result [.replyQueued ⟨ReplyCode.badSequence, Reply.notNegotiatedText⟩]
  | missing {result : Sent} (hchannel : x.client.channel.isNegotiated = true)
      (hmissing : x.listingDirectory argument ∉ x.tree) :
      Listed x form argument result [.replyQueued (Reply.noSuchDirectory (toString (x.listingDirectory argument)))]
  | unannounced {kind : IoKind} (hchannel : x.client.channel.isNegotiated = true)
      (hmem : x.listingDirectory argument ∈ x.tree) (hannounce : (x.reset.answer listingMark).1 = .error kind) :
      Listed x form argument (.error kind) [.replyQueued listingMark]
  | notOpened {result : Sent} {fault : TransferFault} (hchannel : x.client.channel.isNegotiated = true)
      (hmem : x.listingDirectory argument ∈ x.tree)
      (hopen : x.client.channel.openWith x.circumstances.dial = .error fault) :
      Listed x form argument result [.replyQueued listingMark, .channelOpened,
        .replyQueued (Reply.ofCode ReplyCode.cannotOpenDataConnection)]
  | sent {result : Sent} {stream : DataStream} (hmem : x.listingDirectory argument ∈ x.tree)
      (hopen : x.client.channel.openWith x.circumstances.dial = .ok stream) :
      Listed x form argument result [.replyQueued listingMark, .channelOpened,
        .sent (stream.sendAndClose (x.listingBytes form argument)).1,
        .replyQueued (listingEnd (stream.sendAndClose (x.listingBytes form argument)).2)]

/-- What follows the announcement of a listing. -/
theorem sends_sendAnnounced {x y : Exchange σ} (form : ListingForm) (argument : Option String)
    (hnegotiated : x.client.channel.isNegotiated = true) (hmem : x.listingDirectory argument ∈ x.tree)
    (hwrites : Writes x y [.stateReset, .replyQueued listingMark]) (hsteady : Steady x y)
    (hchannel : y.client.channel = x.client.channel) (hcircumstances : y.circumstances = x.circumstances) :
    ∃ added, Listed x form argument (y.sendAnnounced (x.listingBytes form argument)).1 added ∧
      Sends x (y.sendAnnounced (x.listingBytes form argument)) (.stateReset :: added) ∧
      Steady x (y.sendAnnounced (x.listingBytes form argument)).2 := by
  have hopened : Writes x (y.note .channelOpened) [.stateReset, .replyQueued listingMark, .channelOpened] :=
    hwrites.note rfl rfl rfl
  unfold sendAnnounced openChannel
  rw [hchannel, hcircumstances]
  cases hopen : x.client.channel.openWith x.circumstances.dial with
  | error fault =>
    have hnoted : Steady x (y.note .channelOpened) := ⟨hsteady.tree, hsteady.cursor⟩
    exact ⟨_, .notOpened hnegotiated hmem hopen, (sends_answer _ _).after hopened, hnoted.answer _⟩
  | ok stream =>
    have hsent : Writes x
        ((y.note .channelOpened).note (.sent (stream.sendAndClose (x.listingBytes form argument)).1))
        [.stateReset, .replyQueued listingMark, .channelOpened,
          .sent (stream.sendAndClose (x.listingBytes form argument)).1] :=
      hopened.note rfl rfl rfl
    have hnoted : Steady x
        ((y.note .channelOpened).note (.sent (stream.sendAndClose (x.listingBytes form argument)).1)) :=
      ⟨hsteady.tree, hsteady.cursor⟩
    refine ⟨_, .sent hmem hopen, ?_⟩
    have hkept := hnoted.answer (listingEnd (stream.sendAndClose (x.listingBytes form argument)).2)
    have hanswer := (sends_answer _ (listingEnd (stream.sendAndClose (x.listingBytes form argument)).2)).after hsent
    dsimp only [sendData]
    -- the outcome of the sending decides which final reply follows
    cases hresult : (stream.sendAndClose (x.listingBytes form argument)).2 with
    | ok =>
      rw [hresult] at hanswer hkept
      exact ⟨hanswer, hkept⟩
    | error kind =>
      rw [hresult] at hanswer hkept
      exact ⟨hanswer, hkept⟩

/-- The listing between the clearing of the client's state and the end of the data channel. -/
theorem sends_sendListing (x : Exchange σ) (form : ListingForm) (argument : Option String) :
    ∃ added, Listed x form argument (x.reset.sendListing form (x.listingDirectory argument)).1 added ∧
      Sends x (x.reset.sendListing form (x.listingDirectory argument)) (.stateReset :: added) ∧
      Steady x (x.reset.sendListing form (x.listingDirectory argument)).2 := by
  have hreset : Steady x x.reset := ⟨rfl, rfl⟩
  unfold sendListing
  by_cases hchannel : x.client.channel.isNegotiated = true
  · have hrefused : ¬(!x.reset.client.channel.isNegotiated) = true := by
      show ¬(!x.client.channel.isNegotiated) = true
      simp [hchannel]
    rw [if_neg hrefused]
    by_cases hmem : x.listingDirectory argument ∈ x.tree
    · have hcontains : x.reset.tree.contains (x.listingDirectory argument) = true := Tree.contains_iff.2 hmem
      have hmark := (sends_answer x.reset listingMark).after (writes_reset x)
      have hframe := answer_snd x.reset listingMark
      have hsteady := hreset.answer listingMark
      rw [hcontains, Bool.not_true, if_neg Bool.false_ne_true]
      cases hanswer : x.reset.answer listingMark with
      | mk result y =>
        rw [hanswer] at hmark hframe hsteady
        have hmarked : x.reset.answer ⟨ReplyCode.fileStatusOkay, "Here comes the directory listing."⟩ = (result, y) :=
          hanswer
        simp only [hmarked]
        cases result with
        -- the mark could not be sent, and the command breaks off behind it
        | error kind => exact ⟨_, .unannounced hchannel hmem (by rw [hanswer]), hmark, hsteady⟩
        | ok =>
          dsimp only at hframe
          refine sends_sendAnnounced form argument hchannel hmem hmark.toWrites hsteady ?_ ?_
          · rw [hframe]
            rfl
          · rw [hframe]
            rfl
    · have hcontains : x.reset.tree.contains (x.listingDirectory argument) = false := by
        rw [Bool.eq_false_iff]
        exact fun h => hmem (Tree.contains_iff.1 h)
      rw [hcontains, Bool.not_false, if_pos rfl]
      exact ⟨_, .missing hchannel hmem, (sends_answer _ _).after (writes_reset x), hreset.answer _⟩
  · have hrefused : (!x.reset.client.channel.isNegotiated) = true := by
      show (!x.client.channel.isNegotiated) = true
      simpa using hchannel
    rw [if_pos hrefused]
    exact ⟨_, .refused (Bool.eq_false_iff.2 hchannel), (sends_answer _ _).after (writes_reset x), hreset.answer _⟩

/-- **Every listing takes one of the ways.** The client's state is cleared before it and the data channel given up
after it, also when the control connection fails between the replies. -/
theorem sends_list (x : Exchange σ) (form : ListingForm) (argument : Option String) :
    ∃ added, Listed x form argument (x.list form argument).1 added ∧
      Sends x (x.list form argument) (.stateReset :: added ++ [.channelClosed]) ∧
      Steady x (x.list form argument).2 := by
  obtain ⟨added, hlisted, hsends, hsteady⟩ := sends_sendListing x form argument
  exact ⟨added, hlisted, hsends.followedBy (writes_closeChannel _) rfl, hsteady.tree, hsteady.cursor⟩

/-! ## Uploads

An upload goes on when its mark cannot be sent, and then both replies are queued and go out together, if at all. -/

/-- **When a target is refused, and what it is otherwise.** Every entry may be written, so there are three reasons to
refuse it. The check for control characters looks at the argument and at nothing else. -/
theorem storeTarget_cases (x : Exchange σ) (argument : Option String) :
    (argument = none ∧
      x.storeTarget argument = .error ⟨ReplyCode.argumentError, NegativeReply.uploadTopic, none, none⟩) ∨
    ∃ text, argument = some text ∧
      ((x.client.channel.isNegotiated = false ∧
          x.storeTarget argument = .error ⟨ReplyCode.badSequence, none, Reply.notNegotiatedText, none⟩) ∨
        (x.client.channel.isNegotiated = true ∧
          (x.lookup text = Path.root ∨ ∃ c ∈ text.toList, Text.isControl c = true) ∧
          x.storeTarget argument = .error ⟨ReplyCode.actionNotTaken, NegativeReply.invalidNameTopic, text, none⟩) ∨
        (x.client.channel.isNegotiated = true ∧ x.lookup text ≠ Path.root ∧
          (∀ c ∈ text.toList, Text.isControl c = false) ∧ x.storeTarget argument = .ok (x.lookup text))) := by
  cases argument with
  | none => exact .inl ⟨rfl, rfl⟩
  | some text =>
    refine .inr ⟨text, rfl, ?_⟩
    have hwritable : (!(Entry.facts ⟨x.lookup text⟩).writable) = false := rfl
    unfold storeTarget
    dsimp only
    cases hchannel : x.client.channel.isNegotiated with
    | false => exact .inl ⟨rfl, rfl⟩
    | true =>
      rw [Bool.not_true, if_neg Bool.false_ne_true]
      -- the root and names with control characters are told apart from all others in one condition
      by_cases hinvalid : ((x.lookup text).isRoot || text.toList.any Text.isControl) = true
      · refine .inr (.inl ⟨rfl, ?_, if_pos hinvalid⟩)
        rw [Bool.or_eq_true, Path.isRoot_iff, List.any_eq_true] at hinvalid
        exact hinvalid
      · rw [if_neg hinvalid, hwritable, if_neg Bool.false_ne_true]
        rw [Bool.or_eq_true, Path.isRoot_iff, List.any_eq_true, not_or] at hinvalid
        refine .inr (.inr ⟨rfl, hinvalid.1, fun c hc => ?_, rfl⟩)
        exact Bool.eq_false_iff.2 fun hcontrol => hinvalid.2 ⟨c, hc, hcontrol⟩

/-- A target that is not refused is what the argument leads to, and the argument is free of control characters. -/
theorem eq_of_storeTarget_eq_ok {x : Exchange σ} {argument : Option String} {target : Path}
    (h : x.storeTarget argument = .ok target) :
    ∃ text, argument = some text ∧ target = x.lookup text ∧ ∀ c ∈ text.toList, Text.isControl c = false := by
  rcases x.storeTarget_cases argument with
    ⟨rfl, heq⟩ | ⟨text, rfl, ⟨-, heq⟩ | ⟨-, -, heq⟩ | ⟨-, -, hclean, heq⟩⟩ <;> rw [heq] at h <;> cases h
  exact ⟨text, rfl, rfl, hclean⟩

/-- Calls of the pipeline are recorded and write nothing. -/
theorem Writes.called {x x' x'' : Exchange σ} {a : List Effect} (h : Writes x x' a) (calls : List CallRecord)
    (houtgoing : x''.client.outgoing = x'.client.outgoing)
    (heffects : x''.effects = calls.map .called ++ x'.effects) :
    Writes x x'' (a ++ calls.reverse.map .called) := by
  refine ⟨?_, ?_, ?_⟩
  · rw [← List.append_assoc, ← h.history, Exchange.history, heffects, List.reverse_append, List.map_reverse]
    rfl
  · rw [houtgoing, h.stream, repliesOf_append, repliesOf_called, List.append_nil]
  · rw [houtgoing, h.respond]

/-- Nor does a wait for a factory. -/
theorem writes_acquireFactory (x : Exchange σ) :
    Writes x x.acquireFactory.2 [] ∧ Steady x x.acquireFactory.2 := by
  unfold acquireFactory
  dsimp only
  split <;> exact ⟨(Writes.refl x).of_eq rfl rfl, rfl, rfl⟩

/-- An upload writes nothing to the client. -/
theorem writes_receive [Pipeline σ] (x : Exchange σ) (settings : StoreSettings) (target : Path) (stream : DataStream) :
    ∃ added, Writes x (x.receive settings target stream).2 added ∧ Steady x (x.receive settings target stream).2 := by
  obtain ⟨hacquire, hsteady⟩ := x.writes_acquireFactory
  unfold receive
  cases hacquired : x.acquireFactory with
  | mk factory y =>
    rw [hacquired] at hacquire hsteady
    cases factory with
    | none => exact ⟨_, hacquire, hsteady⟩
    | some factory => exact ⟨_, hacquire.called _ rfl rfl, hsteady.tree, hsteady.cursor⟩

/-- Up to its final reply a `STOR` writes its mark, or nothing. -/
theorem writes_storeReply [Pipeline σ] (x : Exchange σ) (settings : StoreSettings) (argument : Option String) :
    ∃ added, Writes x (x.storeReply settings argument).2 added ∧ Steady x (x.storeReply settings argument).2 := by
  unfold storeReply
  cases x.storeTarget argument with
  | error failure => exact ⟨[], .refl x, rfl, rfl⟩
  | ok target =>
    -- the announcement is on its way, whether or not it was sent in time
    have hannounced : Writes x (x.announce target) [.replyQueued (announcement target)] :=
      (x.writes_flush (announcement target) x.circumstances.patience).of_eq rfl rfl
    have hopened : Writes x (x.afterOpening target) (announced target) := hannounced.note rfl rfl rfl
    simp only [openChannel_announce]
    cases x.client.channel.openWith x.circumstances.dial with
    | error fault => exact ⟨_, hopened, rfl, rfl⟩
    | ok stream =>
      obtain ⟨added, hreceive, hsteady⟩ := writes_receive (x.afterOpening target) settings target stream
      exact ⟨_, hopened.trans hreceive, hsteady.tree, hsteady.cursor⟩

/-- **Every upload takes one of the ways**, and all that goes out is the replies on record. -/
theorem sends_store [Pipeline σ] (x : Exchange σ) (settings : StoreSettings) (argument : Option String) :
    ∃ before calls reply, Stored x settings argument before calls reply ∧
      Sends x (x.store settings argument)
        (before ++ calls.map .called ++ [.replyQueued reply] ++ [.stateReset, .channelClosed]) ∧
      Steady x (x.store settings argument).2 := by
  obtain ⟨before, calls, hstored, hhistory, -⟩ := stored_storeReply x settings argument
  obtain ⟨added, hwrites, hsteady⟩ := writes_storeReply x settings argument
  have hadded : added = before ++ calls.map .called := by
    rw [hwrites.history, List.append_assoc] at hhistory
    exact List.append_cancel_left hhistory
  subst hadded
  refine ⟨before, calls, _, hstored, ?_⟩
  have hanswer := (sends_answer _ (x.storeReply settings argument).1).after hwrites
  have hanswered := hsteady.answer (x.storeReply settings argument).1
  exact ⟨hanswer.followedBy ((writes_reset _).trans (writes_closeChannel _)) rfl, hanswered.tree, hanswered.cursor⟩

/-! ## The account

What the ways have in common, for all commands at once: how many replies, how often the state is cleared, and what
becomes of the channel. -/

/-- That the state is cleared and the channel is given up are no replies. -/
theorem repliesOf_listing (added : List Effect) :
    repliesOf (.stateReset :: added ++ [.channelClosed]) = repliesOf added := by
  rw [repliesOf_append]
  exact List.append_nil _

/-- The same with both of them at the end. -/
theorem repliesOf_upload (added : List Effect) :
    repliesOf (added ++ [.stateReset, .channelClosed]) = repliesOf added := by
  rw [repliesOf_append]
  exact List.append_nil _

/-- **Every `STOR` is answered**, by one final reply, with a mark in front of it once the target is accepted. -/
theorem Stored.isAnswer {x : Exchange σ} {settings : StoreSettings} {argument : Option String}
    {before : List Effect} {calls : List CallRecord} {reply : Reply}
    (h : Stored x settings argument before calls reply) :
    IsAnswer ((repliesOf (before ++ calls.map .called ++ [.replyQueued reply])).map Reply.code) true := by
  rw [repliesOf_append, repliesOf_append, repliesOf_called, List.append_nil]
  cases h with
  | @refused failure htarget =>
    refine isAnswer_singleton ?_ true
    have hcode : failure.code ∈ [501, 503, 550] := code_of_storeTarget_eq_error htarget
    show 200 ≤ failure.code
    simp only [List.mem_cons, List.not_mem_nil, or_false] at hcode
    omega
  | notOpened => exact isAnswer_pair (Nat.le_of_ble_eq_true rfl)
  | abandoned => exact isAnswer_pair (Nat.le_of_ble_eq_true rfl)
  | @received target stream factory calls outcome =>
    refine isAnswer_pair ?_
    rw [code_replyTo]
    -- 226, 426 or 451
    unfold outcomeCode
    split <;> first | decide | (split <;> decide)

/-- **Every listing is answered**, unless its mark could not be sent, which ends the connection. -/
theorem Listed.isAnswer {x : Exchange σ} {form : ListingForm} {argument : Option String} {result : Sent}
    {added : List Effect} (h : Listed x form argument result added) :
    IsAnswer ((repliesOf added).map Reply.code) true ∨
      (∃ kind, result = .error kind) ∧ repliesOf added = [listingMark] := by
  cases h with
  | refused => exact .inl (isAnswer_singleton (Nat.le_of_ble_eq_true rfl) true)
  | missing => exact .inl (isAnswer_singleton (Nat.le_of_ble_eq_true rfl) true)
  | @unannounced kind => exact .inr ⟨⟨kind, rfl⟩, rfl⟩
  | notOpened => exact .inl (isAnswer_pair (Nat.le_of_ble_eq_true rfl))
  | @sent result stream =>
    have hcode (sent : Sent) : 200 ≤ (listingEnd sent).code := by
      cases sent <;> exact Nat.le_of_ble_eq_true rfl
    exact .inl (isAnswer_pair (hcode _))

/-- In between a listing neither clears the state nor gives the channel up. -/
theorem Listed.countP_eq_zero {x : Exchange σ} {form : ListingForm} {argument : Option String} {result : Sent}
    {added : List Effect} (h : Listed x form argument result added) :
    added.countP Effect.isReset = 0 ∧ added.countP Effect.isClose = 0 := by
  cases h <;> exact ⟨rfl, rfl⟩

/-- A call is neither. -/
theorem countP_called (p : Effect → Bool) (hp : ∀ record, p (.called record) = false) (calls : List CallRecord) :
    (calls.map Effect.called).countP p = 0 := by
  rw [List.countP_eq_zero]
  intro effect heffect
  obtain ⟨record, -, rfl⟩ := List.mem_map.1 heffect
  rw [hp]
  exact Bool.false_ne_true

/-- What a command leaves behind when it ends with a result and has added some effects to the record. -/
structure Account (x : Exchange σ) (command : Command) (result : Sent × Exchange σ) (added : List Effect) : Prop where
  history : result.2.history = x.history ++ added
  /-- The client's state is cleared once. -/
  resets : added.countP Effect.isReset = 1
  /-- The data channel is given up once by the commands that have used it, and by no other. -/
  closes : added.countP Effect.isClose = if command.transfers then 1 else 0
  /-- There is one final reply, and before it there may be one mark if the command transfers something. Only a listing
  whose mark could not be sent ends without a final reply. -/
  replies : IsAnswer ((repliesOf added).map Reply.code) command.transfers ∨
    (∃ form, command = .list form) ∧ (∃ kind, result.1 = .error kind) ∧ repliesOf added = [listingMark]
  /-- A command fails only when the control connection does. -/
  obliging : x.client.outgoing.receiver.Obliging → result.1 = .ok ()

/--
**The account of a command.** Whatever the client, the tree, the data connection, the pipeline and the control
connection do, every command clears the client's state once, gives up the data channel once or not at all, and queues
one final reply, after a mark at most.
-/
theorem run_account [Pipeline σ] (x : Exchange σ) (settings : StoreSettings) {command : Command}
    (argument : Option String) (hcontrol : command.isControl = false) :
    ∃ added, Account x command (x.run settings command argument) added := by
  cases htransfers : command.transfers with
  | false =>
    -- everything but the transfers does its work, is answered and clears the state once
    obtain ⟨y, reply, hanswered, hrun⟩ := exists_answered x settings argument hcontrol htransfers
    have hsends := (sends_answer y reply).after hanswered.writes
    rw [← hrun] at hsends
    refine ⟨_, hsends.history, rfl, ?_, .inl ?_, hsends.obliging⟩
    · rw [htransfers]
      rfl
    · exact isAnswer_singleton hanswered.code.1 _
  | true =>
    cases command with
    | list form =>
      obtain ⟨added, hlisted, hsends, -⟩ := sends_list x form argument
      obtain ⟨hresets, hcloses⟩ := hlisted.countP_eq_zero
      refine ⟨_, hsends.history, ?_, ?_, ?_, hsends.obliging⟩
      · rw [List.cons_append, List.countP_cons, List.countP_append, hresets]
        rfl
      · rw [List.cons_append, List.countP_cons, List.countP_append, hcloses]
        rfl
      · rw [repliesOf_listing]
        rcases hlisted.isAnswer with hanswer | ⟨herror, hmark⟩
        · exact .inl hanswer
        · exact .inr ⟨⟨form, rfl⟩, herror, hmark⟩
    | store =>
      obtain ⟨before, calls, reply, hstored, hsends, -⟩ := sends_store x settings argument
      refine ⟨_, hsends.history, ?_, ?_, .inl ?_, hsends.obliging⟩
      · rw [List.countP_append, List.countP_append, List.countP_append, countP_called _ fun _ => rfl]
        cases hstored <;> rfl
      · rw [List.countP_append, List.countP_append, List.countP_append, countP_called _ fun _ => rfl]
        cases hstored <;> rfl
      · rw [repliesOf_upload]
        exact hstored.isAnswer
    | _ => exact Bool.noConfusion htransfers

/-- An upload is received and committed although its announcement could not be sent. The announcement is still in the
account, before the final reply, with which it goes out. -/
theorem run_account_of_unsent_announcement :
    let outgoing : Outgoing := { receiver := .scripted [.fail .timedOut] }
    let x : Exchange Memory :=
      { client := { peer := ⟨.v4 .loopback, 40000⟩, here := ⟨.v4 .loopback, 2121⟩, outgoing,
                    channel := .active ⟨.v4 .loopback, 40001⟩ },
        tree := Tree.empty, surroundings := { slot := ⟨some 0⟩ }, pipeline := {},
        circumstances := { dial := .connected (.v4 .loopback) { arriving := [[1, 2], [3]] } } }
    let result := x.run ⟨8192, 100, 5⟩ .store (some "f")
    Command.isControl .store = false ∧ (x.announce (x.lookup "f")).client.outgoing.receiver.taken = [] ∧
      ∃ added, Account x .store result added ∧ codesOf added = [150, 226] ∧
        result.2.pipeline.committed.map FlowUnit.content = [[1, 2, 3]] := by
  intro outgoing x result
  have hcontrol : Command.isControl .store = false := rfl
  obtain ⟨added, haccount⟩ := run_account x ⟨8192, 100, 5⟩ (some "f") hcontrol
  -- there is nothing on record before the command
  have hadded : added = result.2.history := haccount.history.symm
  refine ⟨hcontrol, by decide +kernel, added, haccount, ?_, by decide +kernel⟩
  rw [hadded]
  decide +kernel

end Exchange

end FtpIntake
