import FtpIntake.Proofs.Connection.Ways
import FtpIntake.Proofs.Log
import FtpIntake.Proofs.Reply.Messages

/-!
# What a line comes to

Every line that has a verb is answered by one final reply, with one mark before it if the line asks for a transfer, and
a line without a verb is answered by nothing. The client can tell the replies apart, because the line has no line feed
inside it and nothing else that the client has sent is quoted but names and paths from earlier lines.

* **`IsReplyTo`** says which codes make up the replies to a line.
* **`Exchange.Handled`** is what a line comes to: replies that are framed and have such codes, nothing left in the
  queue, and a place in the tree whose path is one line.
* **`handled_control`**, **`handled_run`**, **`handled_dispatch`** and **`handled_take`** say so of every line, from the
  commands up.

This is where the two accounts of a command meet, how many replies it sends and what they look like. A line that is
too long, or comes before the login, is answered without any command, and falls under the same rule.
-/

namespace FtpIntake

open Text

/-! ## Lines

What is read is a line: there is no line feed before its end. So its argument is a text of one line, and whatever
quotes it is framed. -/

/-- Taking the line end away adds nothing. -/
theorem mem_of_mem_dropLineEnd {s : List Char} {c : Char} (h : c ∈ dropLineEnd s) : c ∈ s :=
  List.mem_reverse.1 ((List.dropWhile_suffix _).subset (List.mem_reverse.1 h))

/-- A line that was cut off at its line feed has none inside, with the end taken away. -/
theorem feed_notMem_dropLineEnd {line : List Char} (h : '\n' ∉ line.dropLast) : '\n' ∉ dropLineEnd line := by
  rcases List.eq_nil_or_concat line with rfl | ⟨s, c, rfl⟩
  · exact List.not_mem_nil
  rw [List.concat_eq_append, List.dropLast_concat] at h
  rw [List.concat_eq_append]
  have hreverse : (s ++ [c]).reverse = c :: s.reverse := by simp
  unfold dropLineEnd dropEndWhile
  rw [hreverse]
  -- the last character may be the line feed, and then it is dropped
  by_cases hend : isLineEnd c = true
  · rw [List.dropWhile_cons_of_pos hend]
    exact fun hfeed => h (mem_of_mem_dropLineEnd hfeed)
  · rw [List.dropWhile_cons_of_neg hend, ← hreverse, List.reverse_reverse, List.mem_append, List.mem_singleton]
    rintro (hfeed | rfl)
    · exact h hfeed
    · exact hend rfl

/-- A line of bytes that is a text is a line of that text: the last of its bytes belongs to the last character. -/
theorem feed_notMem_of_fromUTF8? {bytes : Bytes} {line : String} (hread : String.fromUTF8? ⟨bytes.toArray⟩ = some line)
    (h : 10 ∉ bytes.dropLast) : '\n' ∉ line.toList.dropLast := by
  intro hfeed
  refine h ?_
  have hbytes := utf8_of_fromUTF8? hread
  have hne : line.toList ≠ [] := by
    intro hnil
    rw [hnil] at hfeed
    exact List.not_mem_nil hfeed
  -- the last character takes at least one byte, so what stands before the last byte has all others
  have hlast : utf8 [line.toList.getLast hne] ≠ [] := by
    intro hnil
    have hlength := String.length_utf8EncodeChar (line.toList.getLast hne)
    have hpositive := (line.toList.getLast hne).utf8Size_pos
    rw [utf8, List.flatMap_singleton] at hnil
    rw [hnil, List.length_nil] at hlength
    omega
  rw [← List.dropLast_concat_getLast hne, utf8_append] at hbytes
  rw [← hbytes, List.dropLast_append_of_ne_nil hlast]
  exact List.mem_append_left _ (feed_mem_utf8 hfeed)

/-- So the argument of a line is a text of one line. -/
theorem oneLine_argument {line : String} (h : '\n' ∉ line.toList.dropLast) :
    ∀ text ∈ (Request.ofLine line).argument, OneLine text := by
  intro text htext
  obtain ⟨chars, hchars, rfl⟩ := Option.map_eq_some_iff.1 htext
  obtain ⟨after, -, hsplit⟩ := Request.dropLineEnd_eq_append hchars
  rw [OneLine, String.toList_ofList]
  intro hfeed
  refine feed_notMem_dropLineEnd h ?_
  rw [hsplit]
  exact List.mem_append_left _ (List.mem_append_right _ hfeed)

/-! ## What a line is answered by

The codes that a line may be answered by are told by its verb. This is all that a client needs to know to keep count.
-/

/-- The verbs whose commands may announce their final reply by a mark. -/
def transferVerbs : List String :=
  ["STOR", "LIST", "NLST", "MLSD"]

/-- The codes of the replies to a line. A line without a verb has none, and every other line has one final reply, also
if it is too long. -/
def IsReplyTo (service : Service) (line : String) (codes : List Nat) : Prop :=
  if line.utf8ByteSize ≤ service.config.maxCommandLength ∧ (Request.ofLine line).verb = "" then codes = []
  else IsAnswer codes (decide ((Request.ofLine line).verb ∈ transferVerbs))

/-- A line without a verb is answered by nothing. -/
theorem isReplyTo_nil {service : Service} {line : String}
    (hlength : line.utf8ByteSize ≤ service.config.maxCommandLength) (hempty : (Request.ofLine line).verb = "") :
    IsReplyTo service line [] := by
  unfold IsReplyTo
  rw [if_pos ⟨hlength, hempty⟩]

/-- Any other line is answered as a command is. -/
theorem isReplyTo_of_isAnswer {service : Service} {line : String} {codes : List Nat}
    (hnot : ¬(line.utf8ByteSize ≤ service.config.maxCommandLength ∧ (Request.ofLine line).verb = ""))
    (h : IsAnswer codes (decide ((Request.ofLine line).verb ∈ transferVerbs))) : IsReplyTo service line codes := by
  unfold IsReplyTo
  rwa [if_neg hnot]

/-- The line is a `QUIT`, and it is executed. -/
abbrev Service.QuitsOn (service : Service) (line : String) : Prop :=
  line.utf8ByteSize ≤ service.config.maxCommandLength ∧ (Request.ofLine line).verb = "QUIT"

/-- How a connection goes on after a line whose replies have been taken. -/
def Service.verdictOn (service : Service) (line : String) : Verdict :=
  if service.QuitsOn line then .quits else .goesOn

/-- A command with a transfer is run by one of the four verbs. -/
theorem Command.mem_transferVerbs {line : String} {command : Command}
    (h : ofVerb? (Request.ofLine line).verb = some command) (htransfers : command.transfers = true) :
    (Request.ofLine line).verb ∈ transferVerbs := by
  have htable : ∀ row ∈ table, row.2.transfers = true → row.1 ∈ transferVerbs := by decide
  exact htable _ (mem_table_of_ofVerb? h) htransfers

/-- The texts of the commands that are refused are fixed. -/
theorem Command.oneLine_refusal {line : String} {command : Command}
    (h : ofVerb? (Request.ofLine line).verb = some command) : ∀ text ∈ command.refusal?, OneLine text := by
  have htable : ∀ row ∈ table, ∀ text ∈ row.2.refusal?, OneLine text := by decide +kernel
  exact htable _ (mem_table_of_ofVerb? h)

/-! ## One line

The replies of each command have been shown to be framed, and how many there are is known too. Here both are put
together with what becomes of the client, for each way that a line can go. -/

/-- From this client nothing but one-line texts will be quoted. -/
structure Client.Plain (c : Client) : Prop where
  user : ∀ name ∈ c.user, OneLine name
  place : c.cursor.current.MadeOf (· ≠ '\n')

namespace Exchange

variable {σ : Type}

/-- What a line comes to on an obliging connection: which replies, which verdict, and a client that is as plain as it
was. -/
structure Handled (x : Exchange σ) (answers : List Nat → Prop) (verdict : Verdict) (result : Verdict × Exchange σ)
    (added : List Effect) : Prop extends Writes x result.2 added where
  framed : ∀ r ∈ repliesOf added, r.IsFramed
  answer : answers ((repliesOf added).map Reply.code)
  settled : result.2.client.outgoing.queued = []
  verdict : result.1 = verdict
  place : result.2.client.cursor.current.MadeOf (· ≠ '\n')

/-- A command that ends only because a reply could not be sent does not end with an obliging connection. -/
theorem Handled.of_sends {x : Exchange σ} {answers : List Nat → Prop} {sent : Sent × Exchange σ}
    {added : List Effect} (h : Sends x sent added) (hobliging : x.client.outgoing.receiver.Obliging)
    (hframed : ∀ r ∈ repliesOf added, r.IsFramed) (hanswer : answers ((repliesOf added).map Reply.code))
    (hplace : sent.2.client.cursor.current.MadeOf (· ≠ '\n')) :
    Handled x answers .goesOn (.ofSent sent.1, sent.2) added where
  toWrites := h.toWrites
  framed := hframed
  answer := hanswer
  settled := h.settled (h.obliging hobliging)
  verdict := by
    rw [h.obliging hobliging]
    rfl
  place := hplace

/-- A reply of the connection itself, sent to an obliging client. -/
theorem handled_say {x : Exchange σ} {r : Reply} (announced : Bool) (hobliging : x.client.outgoing.receiver.Obliging)
    (hframed : r.IsFramed) (hcode : 200 ≤ r.code) (hplace : x.client.cursor.current.MadeOf (· ≠ '\n')) :
    Handled x (IsAnswer · announced) .goesOn (x.say r) [.replyQueued r] := by
  refine Handled.of_sends (sends_answer x r) hobliging (List.forall_mem_singleton.2 hframed)
    (isAnswer_singleton hcode _) ?_
  rw [answer_snd]
  exact hplace

/-- What comes before a reply and says nothing makes no difference. -/
theorem Handled.after {x y : Exchange σ} {answers : List Nat → Prop} {verdict : Verdict} {result : Verdict × Exchange σ}
    {a b : List Effect} (h : Handled y answers verdict result b) (hbefore : Writes x y a) (hquiet : repliesOf a = []) :
    Handled x answers verdict result (a ++ b) := by
  have hreplies : repliesOf (a ++ b) = repliesOf b := by rw [repliesOf_append, hquiet, List.nil_append]
  refine ⟨hbefore.trans h.toWrites, ?_, ?_, h.settled, h.verdict, h.place⟩
  · rw [hreplies]
    exact h.framed
  · rw [hreplies]
    exact h.answer

/-- Of what a line comes to one may know more than one needs. -/
theorem Handled.imp {x : Exchange σ} {answers answers' : List Nat → Prop} {verdict verdict' : Verdict}
    {result : Verdict × Exchange σ} {added : List Effect} (h : Handled x answers verdict result added)
    (hanswers : ∀ codes, answers codes → answers' codes) (hverdict : verdict = verdict') :
    Handled x answers' verdict' result added :=
  ⟨h.toWrites, h.framed, hanswers _ h.answer, h.settled, h.verdict.trans hverdict, h.place⟩

/-- A command of the control connection changes the client and then answers. An obliging connection takes the answer,
so the status is the one that was decided. -/
theorem control_of_obliging {x : Exchange σ} (settings : ControlSettings) (command : ControlCommand)
    (argument : Option String) (hobliging : x.client.outgoing.receiver.Obliging) :
    let decision := Decision.make settings x.circumstances.bind x.client command argument
    ∃ y, Writes x y [.stateReset] ∧ y.client.cursor = x.client.cursor ∧ (y.answer decision.reply).1 = .ok () ∧
      x.control settings command argument = (.ok decision.status, (y.answer decision.reply).2) := by
  intro decision
  obtain ⟨houtgoing, hcursor⟩ := Decision.make_client_frame settings x.circumstances.bind x.client command argument
  have hreset : Writes x ({ x with client := decision.client } : Exchange σ).reset [.stateReset] :=
    (Writes.refl x).note rfl houtgoing rfl
  -- an obliging client takes the reply, so the command ends as it has decided
  have hok := (sends_answer _ decision.reply).obliging (hreset.obliging_iff.2 hobliging)
  refine ⟨_, hreset, hcursor, hok, ?_⟩
  unfold control
  dsimp only
  cases hanswer : (({ x with client := decision.client } : Exchange σ).reset).answer decision.reply with
  | mk sent z =>
    rw [hanswer] at hok
    obtain rfl : sent = .ok () := hok
    rfl

/-- Every command of the control connection is answered, and all of them but `QUIT` go on. -/
theorem handled_control {x : Exchange σ} (settings : ControlSettings) (command : ControlCommand) (announced : Bool)
    {argument : Option String} (hplain : x.client.Plain) (hargument : ∀ text ∈ argument, OneLine text)
    (hobliging : x.client.outgoing.receiver.Obliging) :
    ∃ added, Handled x (IsAnswer · announced) (if command = .quit then .quits else .goesOn)
      (.ofStatus (x.control settings command argument).1, (x.control settings command argument).2) added := by
  obtain ⟨y, hwrites, hcursor, hok, hcontrol⟩ := control_of_obliging settings command argument hobliging
  have hsends := sends_answer y (Decision.make settings x.circumstances.bind x.client command argument).reply
  have hplace (r : Reply) : (y.answer r).2.client.cursor = x.client.cursor := by
    rw [answer_snd]
    exact hcursor
  rw [hcontrol]
  by_cases hquit : command = .quit
  · subst hquit
    -- the goodbye is the same for everybody, all other replies may quote the name and the argument
    have hgoodbye : Reply.IsFramed ⟨ReplyCode.closingControlConnection, "Goodbye."⟩ :=
      .of_oneLine (by decide) (oneLine_literal rfl)
    refine ⟨_, hwrites.trans hsends.toWrites, List.forall_mem_singleton.2 hgoodbye,
      isAnswer_singleton (show 200 ≤ 221 by decide) _, hsends.settled hok, rfl, ?_⟩
    rw [hplace]
    exact hplain.place
  · have hfinal := Decision.isFinal_make settings x.circumstances.bind hquit hplain.user hargument
    refine ⟨_, hwrites.trans hsends.toWrites, List.forall_mem_singleton.2 hfinal.framed,
      isAnswer_singleton hfinal.code _, hsends.settled hok, ?_, ?_⟩
    · have hstays := hfinal.stays
      rw [if_neg hquit]
      generalize (Decision.make settings x.circumstances.bind x.client command argument).status = status at hstays
      cases status with
      | closeConnection => exact absurd rfl hstays
      | success => rfl
      | failure reason => rfl
    · rw [hplace]
      exact hplain.place

/-- Wherever a command leaves the client, the path there is made of its old one and of the argument. -/
theorem Answered.place {x y : Exchange σ} {command : Command} {argument : Option String} {reply : Reply}
    (h : Answered x command argument y reply) (hplace : x.client.cursor.current.MadeOf (· ≠ '\n'))
    (hargument : ∀ text ∈ argument, OneLine text) : y.client.cursor.current.MadeOf (· ≠ '\n') := by
  -- a command leaves the cursor where it was, or moves it by its argument or by two dots
  rcases h.cursor with hcursor | ⟨raw, hraw, -, hcursor⟩
  · rw [hcursor]
    exact hplace
  · have honeLine : OneLine raw := by
      rcases hraw with hraw | rfl
      · exact hargument raw hraw
      · exact oneLine_literal rfl
    rw [hcursor]
    refine hplace.resolve fun c hc => ?_
    rintro rfl
    exact honeLine hc

variable [Pipeline σ]

/-- **A command that is no control command is handled**, with a mark only where it transfers something. -/
theorem handled_run {x : Exchange σ} (settings : StoreSettings) {command : Command} {argument : Option String}
    {announced : Bool} (hcontrol : command.isControl = false) (hannounced : command.transfers = true → announced = true)
    (hplain : x.client.Plain) (hargument : ∀ text ∈ argument, OneLine text)
    (hrefusal : ∀ text ∈ command.refusal?, OneLine text) (hobliging : x.client.outgoing.receiver.Obliging) :
    ∃ added, Handled x (IsAnswer · announced) .goesOn
      (.ofSent (x.run settings command argument).1, (x.run settings command argument).2) added := by
  cases htransfers : command.transfers with
  | false =>
    obtain ⟨y, reply, hanswered, hrun⟩ := exists_answered x settings argument hcontrol htransfers
    have hsends := (sends_answer y reply).after hanswered.writes
    have hframed := hanswered.isFramed hplain.place hargument hrefusal
    rw [hrun]
    refine ⟨_, .of_sends hsends hobliging (List.forall_mem_singleton.2 hframed)
      (isAnswer_singleton hanswered.code.1 _) ?_⟩
    rw [answer_snd]
    exact hanswered.place hplain.place hargument
  | true =>
    have htrue : true = true → announced = true := fun _ => hannounced htransfers
    cases command with
    | list form =>
      obtain ⟨added, hlisted, hsends, hsteady⟩ := sends_list x form argument
      refine ⟨_, .of_sends hsends hobliging ?_ ?_ ?_⟩
      · rw [repliesOf_listing]
        exact hlisted.isFramed hplain.place hargument
      · rw [repliesOf_listing]
        rcases hlisted.isAnswer with hanswer | ⟨⟨kind, hfailed⟩, -⟩
        · exact IsAnswer.imp hanswer htrue
        -- a listing without a final reply could not send its mark, which does not happen here
        · have hok := hsends.obliging hobliging
          rw [hfailed] at hok
          cases hok
      · show (x.list form argument).2.client.cursor.current.MadeOf _
        rw [hsteady.cursor]
        exact hplain.place
    | store =>
      obtain ⟨before, calls, reply, hstored, hsends, hsteady⟩ := sends_store x settings argument
      refine ⟨_, .of_sends hsends hobliging ?_ ?_ ?_⟩
      · rw [repliesOf_upload, repliesOf_append, repliesOf_append, repliesOf_called, List.append_nil]
        exact hstored.isFramed hplain.place hargument
      · rw [repliesOf_upload]
        exact IsAnswer.imp hstored.isAnswer htrue
      · show (x.store settings argument).2.client.cursor.current.MadeOf _
        rw [hsteady.cursor]
        exact hplain.place
    | _ => exact Bool.noConfusion htransfers

/-- **Every request is answered**, whatever its verb and its argument are, and only `QUIT` ends the connection. -/
theorem handled_dispatch {x : Exchange σ} (service : Service) {line : String} (hline : '\n' ∉ line.toList.dropLast)
    (hplain : x.client.Plain) (hobliging : x.client.outgoing.receiver.Obliging) :
    ∃ added, Handled x (IsAnswer · (decide ((Request.ofLine line).verb ∈ transferVerbs)))
      (if (Request.ofLine line).verb = "QUIT" then .quits else .goesOn)
      (x.dispatch service (Request.ofLine line)) added := by
  have hargument := oneLine_argument hline
  have hquit := Command.ofVerb?_eq_quit_iff line
  have hway := x.dispatched service (Request.ofLine line)
  generalize x.dispatch service (Request.ofLine line) = result at hway
  cases hway with
  | unknown hverb =>
    have hother : (Request.ofLine line).verb ≠ "QUIT" := fun heq => nomatch hverb.symm.trans (hquit.2 heq)
    have hframed : (Reply.ofCode ReplyCode.commandUnrecognized).IsFramed := Reply.isFramed_ofCode (by decide)
    rw [if_neg hother]
    exact ⟨_, (handled_say (x := x.reset) _ hobliging hframed (by decide) hplain.place).after (writes_reset x) rfl⟩
  | @refused command hverb hout hclosed =>
    -- `QUIT` is allowed before the login
    have hother : (Request.ofLine line).verb ≠ "QUIT" := by
      intro heq
      rw [hquit.2 heq] at hverb
      cases hverb
      exact Bool.noConfusion hclosed
    have hframed : Reply.loginFirst.IsFramed := .of_oneLine (by decide) (oneLine_literal rfl)
    rw [if_neg hother]
    exact ⟨_, (handled_say (x := x.reset) _ hobliging hframed (by decide) hplain.place).after (writes_reset x) rfl⟩
  | @controlled command hverb hopen =>
    have hcommand : command = .quit ↔ (Request.ofLine line).verb = "QUIT" := by
      rw [← hquit, hverb, Option.some.injEq, Command.control.injEq]
    rw [← if_congr hcommand rfl rfl]
    exact handled_control service.control command _ hplain hargument hobliging
  | @ran command hverb hcontrol hopen =>
    have hother : (Request.ofLine line).verb ≠ "QUIT" := by
      intro heq
      rw [hquit.2 heq] at hverb
      cases hverb
      exact Bool.noConfusion hcontrol
    have hannounced (htransfers : command.transfers = true) :
        decide ((Request.ofLine line).verb ∈ transferVerbs) = true :=
      decide_eq_true (Command.mem_transferVerbs hverb htransfers)
    rw [if_neg hother]
    exact handled_run service.store hcontrol hannounced hplain hargument (Command.oneLine_refusal hverb) hobliging

/-- **Every line is answered**, and one without a verb by nothing. -/
theorem handled_take {x : Exchange σ} (service : Service) {bytes : Bytes} {line : String}
    (hread : String.fromUTF8? ⟨bytes.toArray⟩ = some line) (hline : '\n' ∉ line.toList.dropLast)
    (hplain : x.client.Plain) (hobliging : x.client.outgoing.receiver.Obliging)
    (hsettled : x.client.outgoing.queued = []) :
    ∃ added, Handled x (IsReplyTo service line) (service.verdictOn line) (x.take service (.line bytes)) added := by
  have hway := x.taken service (.line bytes)
  generalize x.take service (.line bytes) = result at hway
  unfold Service.verdictOn Service.QuitsOn
  cases hway with
  | garbled hgarbled => exact absurd (hread.symm.trans hgarbled) (by simp)
  | tooLong hread' hlong =>
    obtain rfl := Option.some.inj (hread.symm.trans hread')
    have hframed : Reply.tooLong.IsFramed := .of_oneLine (by decide) (oneLine_literal rfl)
    have hsaid := handled_say (decide ((Request.ofLine line).verb ∈ transferVerbs)) hobliging hframed (by decide)
      hplain.place
    rw [if_neg fun h => hlong h.1]
    exact ⟨_, hsaid.imp (fun codes hcodes => isReplyTo_of_isAnswer (fun h => hlong h.1) hcodes) rfl⟩
  | blank hread' hlength hempty =>
    obtain rfl := Option.some.inj (hread.symm.trans hread')
    rw [if_neg fun h => absurd (hempty.symm.trans h.2) (by decide)]
    exact ⟨[], .refl x, nofun, isReplyTo_nil hlength hempty, hsettled, rfl, hplain.place⟩
  | executed hread' hlength hverb =>
    obtain rfl := Option.some.inj (hread.symm.trans hread')
    -- the line is logged and its verb is remembered, which is no reply
    have hbegunPlain : (x.begun line).client.Plain := ⟨hplain.user, hplain.place⟩
    obtain ⟨added, hhandled⟩ := handled_dispatch service hline hbegunPlain hobliging
    refine ⟨_, (hhandled.after (x.writes_begun line) rfl).imp (fun codes hcodes => ?_) (if_congr ?_ rfl rfl)⟩
    · exact isReplyTo_of_isAnswer (fun h => hverb h.2) hcodes
    · exact (and_iff_right hlength).symm

/-- What is executed of a line is the request that is read off it. -/
theorem eq_of_executed? {service : Service} {bytes : Bytes} {line : String} {r : Request}
    (hread : String.fromUTF8? ⟨bytes.toArray⟩ = some line) (h : (Input.line bytes).executed? service = some r) :
    r = Request.ofLine line := by
  simp only [Input.executed?, hread] at h
  split at h
  · cases h
  · exact (Option.some.inj h).symm

/-- The name that a client has given is still one line after a line. -/
theorem user_take {x : Exchange σ} (service : Service) {bytes : Bytes} {line : String}
    (hread : String.fromUTF8? ⟨bytes.toArray⟩ = some line) (hline : '\n' ∉ line.toList.dropLast)
    (huser : ∀ name ∈ x.client.user, OneLine name) :
    ∀ name ∈ (x.take service (.line bytes)).2.client.user, OneLine name := by
  -- only an executed line changes the name, and the only new name is the argument of a `USER`
  have hstep := x.loginStep_take service (.line bytes)
  cases hexecuted : (Input.line bytes).executed? service with
  | none =>
    rw [hexecuted] at hstep
    have hsame : (x.take service (.line bytes)).2.client.user = x.client.user := congrArg Prod.fst hstep.1
    rw [hsame]
    exact huser
  | some r =>
    rw [hexecuted] at hstep
    cases hstep with
    | kept hkeeps hlogin =>
      have hsame : (x.take service (.line bytes)).2.client.user = x.client.user := congrArg Prod.fst hlogin
      rw [hsame]
      exact huser
    | named name hrequest hcheck hlogin hchannel =>
      have hnamed : (x.take service (.line bytes)).2.client.user = some name := congrArg Prod.fst hlogin
      have hargument := oneLine_argument hline
      rw [← eq_of_executed? hread hexecuted, hrequest] at hargument
      rw [hnamed]
      exact hargument
    | admitted name hverb hname hcheck hlogin =>
      have hnamed : (x.take service (.line bytes)).2.client.user = some name := congrArg Prod.fst hlogin
      rw [hnamed, ← hname]
      exact huser
    | forgotten hlogin hchannel =>
      have hnobody : (x.take service (.line bytes)).2.client.user = none := congrArg Prod.fst hlogin
      rw [hnobody]
      exact nofun

end Exchange

end FtpIntake
