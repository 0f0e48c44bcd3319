import FtpIntake.Proofs.Calendar
import FtpIntake.Proofs.Exchange.Login
import FtpIntake.Proofs.Exchange.Transfer
import FtpIntake.Proofs.Path
import FtpIntake.Proofs.Reply.Framing
import FtpIntake.Proofs.Text.Pieces

/-!
# No reply can be taken for two

Replies quote what clients have sent: names, paths and arguments. None of it can make a client see the end of a reply
where there is none, because a command line ends at its first line feed, and what is quoted comes from inside one line.

The work is done kind by kind. First come the texts that replies are made of: fixed words, numbers, addresses, times and
paths. Then come the replies: the negative ones, which are filled templates, those of the commands with and without a
transfer, and those of the control connection. Each command has its replies listed elsewhere, by the constructors of
`Answered`, `Listed` and `Stored` and by the functions of `Decision`, and the proofs go through these lists.

* **`OneLine`** texts have no line feed. Every text that the server puts together of such texts is one as well.
* The replies of several lines, which are those of `HELP`, `STAT` and `FEAT`, have fixed words at the beginning of each
  line.
* **`Answered.isFramed`**, **`Listed.isFramed`**, **`Stored.isFramed`** and **`Decision.isFinal_make`** say so of every
  reply to every command, as far as the argument, the client's name and its place in the tree have no line feed.
-/

namespace FtpIntake

open Text

/-! ## Texts of one line

A text of one line can be put behind any code. It is a property of the characters of a text, so it goes through
concatenation and comes from the parts. -/

/-- A text without a line feed. A carriage return may stand in it, because it does not end a line for a client that
reads up to `\r\n`. -/
abbrev OneLine (s : String) : Prop :=
  '\n' ∉ s.toList

/-- A fixed text of the server is checked once, by looking at its characters. -/
theorem oneLine_literal {s : List Char} (h : s.all (· != '\n') = true) : OneLine (String.ofList s) := by
  rw [OneLine, String.toList_ofList]
  intro hfeed
  exact absurd (List.all_eq_true.1 h _ hfeed) (by decide)

/-- Texts that the server puts together are one line if their parts are. -/
theorem oneLine_append {s t : String} (hs : OneLine s) (ht : OneLine t) : OneLine (s ++ t) := by
  rw [OneLine, String.toList_append, List.mem_append, not_or]
  exact ⟨hs, ht⟩

/-- The text of a path has its slashes and the characters of its names, and no others. -/
theorem oneLine_path {p : Path} (h : p.MadeOf (· ≠ '\n')) : OneLine (toString p) := by
  intro hfeed
  exact h.of_mem_toString (by decide) hfeed rfl

namespace Reply

/-- This is how nearly every reply is framed: a code of three digits and a text of one line. -/
theorem IsFramed.of_oneLine {code : Nat} {message : String} (hcode : 100 ≤ code ∧ code ≤ 999)
    (hmessage : OneLine message) : IsFramed ⟨code, message⟩ :=
  isFramed_of_notMem hcode hmessage

/-- The texts that go with a code alone are all fixed. -/
theorem oneLine_defaultMessage (code : Nat) : OneLine (ReplyCode.defaultMessage code) := by
  unfold ReplyCode.defaultMessage
  split <;> exact oneLine_literal rfl

/-- A reply that is made of its code alone. -/
theorem isFramed_ofCode {code : Nat} (hcode : 100 ≤ code ∧ code ≤ 999) : (ofCode code).IsFramed :=
  .of_oneLine hcode (oneLine_defaultMessage code)

/-- The reply that quotes an argument in front of its fixed words. -/
theorem isFramed_noSuchDirectory {argument : String} (h : OneLine argument) : (noSuchDirectory argument).IsFramed :=
  .of_oneLine (by decide) (oneLine_append h (oneLine_literal rfl))

end Reply

/-! ## Numbers and addresses

What is printed consists of digits and a few separators. -/

/-- Digits up to base 16 are no line feeds. Induction on the number, by its division by the base. -/
theorem feed_notMem_toDigits {b : Nat} (hb : 1 < b ∧ b ≤ 16) (n : Nat) : '\n' ∉ Nat.toDigits b n := by
  have hchar : ∀ d < 16, '\n' ≠ Nat.digitChar d := by decide
  induction n using Nat.strongRecOn with
  | ind n ih =>
    -- a number below the base is one digit, any other has the digits of its quotient in front of the last
    rcases Nat.lt_or_ge n b with hlt | hge
    · rw [Nat.toDigits_of_lt_base hlt, List.mem_singleton]
      exact hchar n (by omega)
    · have hsmaller : n / b < n := Nat.div_lt_self (by omega) hb.1
      rw [Nat.toDigits_of_base_le hb.1 hge, List.mem_append, List.mem_singleton, not_or]
      refine ⟨ih (n / b) hsmaller, hchar (n % b) ?_⟩
      have := Nat.mod_lt n (Nat.zero_lt_of_lt hb.1)
      omega

/-- A decimal numeral. -/
theorem feed_notMem_numeral (n : Nat) : '\n' ∉ numeral n :=
  feed_notMem_toDigits (by decide) n

/-- An IPv4 address: four numerals and dots. -/
theorem feed_notMem_ipv4 (ip : Ipv4) : '\n' ∉ ip.chars := by
  unfold Ipv4.chars
  simp [feed_notMem_numeral]

/-- Groups of an IPv6 address: hexadecimal digits and colons. -/
theorem feed_notMem_groupChars (groups : List UInt16) : '\n' ∉ Ipv6.groupChars groups := by
  intro hfeed
  rcases mem_intercalate hfeed with hfeed | ⟨piece, hpiece, hfeed⟩
  · exact absurd hfeed (by decide)
  · obtain ⟨group, -, rfl⟩ := List.mem_map.1 hpiece
    exact feed_notMem_toDigits (by decide) _ hfeed

/-- An IPv6 address, whichever of its forms is printed. -/
theorem feed_notMem_ipv6 (ip : Ipv6) : '\n' ∉ ip.chars := by
  unfold Ipv6.chars
  split
  · simp [feed_notMem_ipv4]
  · dsimp only
    split <;> simp [feed_notMem_groupChars]

/-- An address with its port, as the status tells it. -/
theorem oneLine_endpoint (e : Endpoint) : OneLine (toString e) := by
  show '\n' ∉ (String.ofList e.chars).toList
  rw [String.toList_ofList]
  unfold Endpoint.chars
  split <;> simp [feed_notMem_ipv4, feed_notMem_ipv6, feed_notMem_numeral]

/-- A number, as the sizes and the ports in replies are told. -/
theorem oneLine_toString (n : Nat) : OneLine (toString n) := by
  show '\n' ∉ (String.ofList (Nat.toDigits 10 n)).toList
  rw [String.toList_ofList]
  exact feed_notMem_numeral n

/-- The six numbers in brackets that `PASV` tells. -/
theorem oneLine_passiveText {e : Endpoint} {text : String} (h : DataAddress.passiveText? e = some text) :
    OneLine text := by
  unfold DataAddress.passiveText? at h
  split at h
  · cases h
    rw [OneLine, String.toList_ofList]
    intro hfeed
    -- from outside in: the opening bracket, the numerals with the commas between them, the closing one
    rcases List.mem_cons.1 hfeed with hfeed | hfeed
    · exact absurd hfeed (by decide)
    rcases List.mem_append.1 hfeed with hfeed | hfeed
    · rcases mem_intercalate hfeed with hfeed | ⟨piece, hpiece, hfeed⟩
      · exact absurd hfeed (by decide)
      · simp only [List.mem_cons, List.not_mem_nil, or_false] at hpiece
        rcases hpiece with rfl | rfl | rfl | rfl | rfl | rfl <;> exact feed_notMem_numeral _ hfeed
    · exact absurd hfeed (by decide)
  · cases h

/-- The time of a directory, as `MDTM` tells it. -/
theorem oneLine_compactChars (t : DateTime) : OneLine (String.ofList t.compactChars) := by
  rw [OneLine, String.toList_ofList]
  exact t.notMem_compactChars (by decide) (by decide)

/-! ## Negative replies

A negative reply is a wording into which a path and a message are filled. Filling brings in no characters but those of
the two texts. -/

/-- A replacement in a text brings in only characters of what is put in its place. Induction along the text, as the
replacement goes. -/
theorem mem_replaceAll {pattern replacement s : List Char} {c : Char} (h : c ∈ replaceAll pattern replacement s) :
    c ∈ replacement ∨ c ∈ s := by
  fun_induction replaceAll pattern replacement s with
  | case1 => exact absurd h List.not_mem_nil
  | case2 d r hprefix ih =>
    rcases List.mem_append.1 h with h | h
    · exact .inl h
    · rcases ih h with h | h
      · exact .inl h
      · exact .inr (List.mem_cons_of_mem _ (List.mem_of_mem_drop h))
  | case3 d r hprefix ih =>
    rcases List.mem_cons.1 h with rfl | h
    · exact .inr List.mem_cons_self
    · rcases ih h with h | h
      · exact .inl h
      · exact .inr (List.mem_cons_of_mem _ h)

namespace NegativeReply

/-- The templates of the negative replies are fixed texts. -/
theorem oneLine_wording {code : Nat} {topic wording : String} (h : wording? code topic = some wording) :
    OneLine wording := by
  unfold wording? at h
  split at h
  · split at h <;> cases h <;> exact oneLine_literal rfl
  · split at h
    · cases h
      exact oneLine_literal rfl
    · split at h <;> cases h
      exact oneLine_literal rfl

/-- The words of a negative reply hold no line feed that was not in its message or in its path. -/
theorem oneLine_text {n : NegativeReply} (hmessage : ∀ message ∈ n.message, OneLine message)
    (hpath : ∀ p ∈ n.path, p.MadeOf (· ≠ '\n')) : OneLine n.text := by
  -- the two texts that are filled in
  have hown : OneLine n.messageText := by
    unfold messageText
    cases hsome : n.message with
    | none => exact oneLine_literal rfl
    | some message => exact hmessage message hsome
  have hwhere : OneLine n.pathText := by
    unfold pathText
    split
    · next path hsome => exact oneLine_path (hpath path hsome)
    · exact hown
  unfold text
  cases hwording : n.topic.bind (wording? n.code) with
  | none =>
    dsimp only
    split
    · exact Reply.oneLine_defaultMessage n.code
    · exact hown
  | some wording =>
    obtain ⟨topic, -, hwording⟩ := Option.bind_eq_some_iff.1 hwording
    show '\n' ∉ (String.ofList (fill wording.toList n.pathText.toList n.messageText.toList)).toList
    rw [String.toList_ofList]
    intro hfeed
    -- the message is filled in last, into a text that has the path in it already
    rcases mem_replaceAll hfeed with hfeed | hfeed
    · exact hown hfeed
    · rcases mem_replaceAll hfeed with hfeed | hfeed
      · exact hwhere hfeed
      · exact oneLine_wording hwording hfeed

/-- A negative reply is framed if what it quotes is of one line. -/
theorem isFramed_toReply {n : NegativeReply} (hcode : 100 ≤ n.code ∧ n.code ≤ 999)
    (hmessage : ∀ message ∈ n.message, OneLine message) (hpath : ∀ p ∈ n.path, p.MadeOf (· ≠ '\n')) :
    n.toReply.IsFramed :=
  .of_oneLine hcode (oneLine_text hmessage hpath)

end NegativeReply

/-! ## Commands without a transfer

All of them send one reply each, `Exchange.Answered` tells which, and they are gone through in its order. -/

/-- The text of a command that is refused. -/
def Command.refusal? : Command → Option String
  | .reject text => some text
  | _ => none

/-- The usage texts of the help are fixed. -/
theorem oneLine_usage {verb usage : String} (h : usage? verb = some usage) : OneLine usage := by
  unfold usage? at h
  split at h <;> cases h <;> exact oneLine_literal rfl

/-- The summary has several lines, and each of them begins with a letter. -/
theorem HelpIndex.isFramed_replyFor_served (argument : Option String) : (served.replyFor argument).IsFramed := by
  -- the summary is a fixed text of several lines
  have hsummary : Reply.IsFramed ⟨ReplyCode.helpMessage, served.summary⟩ := by decide +kernel
  unfold replyFor
  split
  · next usage husage =>
    obtain ⟨verb, -, husage⟩ := Option.bind_eq_some_iff.1 husage
    unfold usageFor? at husage
    dsimp only at husage
    split at husage
    · exact .of_oneLine (by decide) (oneLine_usage husage)
    · cases husage
  · exact hsummary

namespace Exchange

variable {σ : Type} {x : Exchange σ}

/-- The text of every path that a client of one-line words can lead to is one line. -/
theorem oneLine_lookup (hplace : x.client.cursor.current.MadeOf (· ≠ '\n')) {argument : String}
    (hargument : OneLine argument) : OneLine (toString (x.lookup argument)) := by
  refine oneLine_path (hplace.resolve fun c hc => ?_)
  rintro rfl
  exact hargument hc

/-- **Every reply to a command without a transfer is framed.** What it quotes is the argument, a path that the
argument leads to, or the directory of the client. -/
theorem Answered.isFramed {y : Exchange σ} {command : Command} {argument : Option String} {reply : Reply}
    (h : Answered x command argument y reply) (hplace : x.client.cursor.current.MadeOf (· ≠ '\n'))
    (hargument : ∀ text ∈ argument, OneLine text) (hrefusal : ∀ text ∈ command.refusal?, OneLine text) :
    reply.IsFramed := by
  cases h with
  | unargued => exact Reply.isFramed_ofCode (by decide)
  | made argument =>
    have htarget := oneLine_lookup hplace (hargument argument rfl)
    have hopening : OneLine ("\"" ++ toString (x.lookup argument)) := oneLine_append (oneLine_literal rfl) htarget
    exact .of_oneLine (by decide) (oneLine_append hopening (oneLine_literal rfl))
  | removed => exact .of_oneLine (by decide) (oneLine_literal rfl)
  | rootKept => exact .of_oneLine (by decide) (oneLine_literal rfl)
  | notRemoved argument => exact Reply.isFramed_noSuchDirectory (hargument argument rfl)
  | entered argument =>
    have htarget := oneLine_lookup hplace (hargument argument rfl)
    exact .of_oneLine (by decide) (oneLine_append (oneLine_literal rfl) htarget)
  | notEntered argument => exact Reply.isFramed_noSuchDirectory (hargument argument rfl)
  | climbed =>
    have hdots : OneLine ".." := oneLine_literal rfl
    have htarget := oneLine_lookup hplace hdots
    exact .of_oneLine (by decide) (oneLine_append (oneLine_literal rfl) htarget)
  | stayed => exact .of_oneLine (by decide) (oneLine_append (oneLine_literal rfl) (oneLine_path hplace))
  | printed =>
    have hopening : OneLine ("\"" ++ toString x.client.cursor.current) :=
      oneLine_append (oneLine_literal rfl) (oneLine_path hplace)
    exact .of_oneLine (by decide) (oneLine_append hopening (oneLine_literal rfl))
  | sized => exact .of_oneLine (by decide) (oneLine_toString 0)
  | notSized argument => exact Reply.isFramed_noSuchDirectory (hargument argument rfl)
  | dated => exact .of_oneLine (by decide) (oneLine_compactChars _)
  | notDated argument => exact Reply.isFramed_noSuchDirectory (hargument argument rfl)
  | helped => exact HelpIndex.isFramed_replyFor_served _
  | rejected text => exact .of_oneLine (by decide) (hrefusal text rfl)

/-! ## Commands with a transfer

A listing sends a mark and a final reply, an upload likewise. What is quoted are paths, which consist of what was
heard. -/

/-- The words behind the options of a listing command are some of its own. -/
theorem oneLine_target {argument target : String} (hargument : OneLine argument)
    (h : Listing.target? argument = some target) : OneLine target := by
  -- an option is skipped with the blanks behind it, so what is left is always an end of what was there
  have hskip (rest : List Char) : Listing.skipOptions rest ⊆ rest := by
    fun_induction Listing.skipOptions rest with
    | case1 rest hoption remainder hremainder ih =>
      obtain ⟨blank, -, heq⟩ := firstWord_append hremainder
      intro c hc
      rw [heq]
      have htrimmed : c ∈ remainder := (List.dropWhile_suffix _).subset (ih hc)
      exact List.mem_append_right _ (List.mem_cons_of_mem _ htrimmed)
    | case2 rest hoption hremainder => exact List.nil_subset _
    | case3 rest hword => exact List.Subset.refl _
  unfold Listing.target? at h
  dsimp only at h
  split at h
  · cases h
  · cases h
    rw [OneLine, String.toList_ofList]
    intro hfeed
    exact hargument ((List.dropWhile_suffix _).subset (hskip _ hfeed))

/-- The directory that is listed comes from the client's own and from the words behind the options. -/
theorem madeOf_listingDirectory (hplace : x.client.cursor.current.MadeOf (· ≠ '\n')) {argument : Option String}
    (hargument : ∀ text ∈ argument, OneLine text) : (x.listingDirectory argument).MadeOf (· ≠ '\n') := by
  unfold listingDirectory
  split
  · next target htarget =>
    obtain ⟨text, hsome, htarget⟩ := Option.bind_eq_some_iff.1 htarget
    refine hplace.resolve fun c hc => ?_
    rintro rfl
    exact oneLine_target (hargument text hsome) htarget hc
  · exact hplace

/-- **Every reply to a listing command is framed**, the mark as well as the final one. -/
theorem Listed.isFramed {form : ListingForm} {argument : Option String} {result : Sent} {added : List Effect}
    (h : Listed x form argument result added) (hplace : x.client.cursor.current.MadeOf (· ≠ '\n'))
    (hargument : ∀ text ∈ argument, OneLine text) : ∀ r ∈ repliesOf added, r.IsFramed := by
  have hmark : listingMark.IsFramed := .of_oneLine (by decide) (oneLine_literal rfl)
  cases h with
  | refused => exact List.forall_mem_singleton.2 (.of_oneLine (by decide) (oneLine_literal rfl))
  | missing =>
    refine List.forall_mem_singleton.2 ?_
    exact Reply.isFramed_noSuchDirectory (oneLine_path (madeOf_listingDirectory hplace hargument))
  | unannounced => exact List.forall_mem_singleton.2 hmark
  | notOpened =>
    have hfinal : (Reply.ofCode ReplyCode.cannotOpenDataConnection).IsFramed := Reply.isFramed_ofCode (by decide)
    exact List.forall_mem_cons.2 ⟨hmark, List.forall_mem_singleton.2 hfinal⟩
  | @sent result stream =>
    have hend (sent : Sent) : (listingEnd sent).IsFramed := by
      cases sent with
      | ok => exact .of_oneLine (by decide) (oneLine_literal rfl)
      | error kind => exact Reply.isFramed_ofCode (by decide)
    exact List.forall_mem_cons.2 ⟨hmark, List.forall_mem_singleton.2 (hend _)⟩

/-- The three ways in which a target is refused. Only the last quotes the argument. -/
theorem isFramed_of_storeTarget_eq_error {argument : Option String} {failure : NegativeReply}
    (h : x.storeTarget argument = .error failure) (hargument : ∀ text ∈ argument, OneLine text) :
    failure.toReply.IsFramed := by
  have hnothing {p : Path} : p ∈ (none : Option Path) → p.MadeOf (· ≠ '\n') := nofun
  -- no argument, no data connection, a name that cannot be stored, and the target itself
  rcases x.storeTarget_cases argument with
    ⟨rfl, heq⟩ | ⟨text, rfl, ⟨-, heq⟩ | ⟨-, -, heq⟩ | ⟨-, -, -, heq⟩⟩ <;> rw [heq] at h <;> cases h
  · exact NegativeReply.isFramed_toReply (by decide) nofun fun _ => hnothing
  · refine NegativeReply.isFramed_toReply (by decide) ?_ fun _ => hnothing
    rintro message ⟨⟩
    exact oneLine_literal rfl
  · refine NegativeReply.isFramed_toReply (show 100 ≤ 550 ∧ 550 ≤ 999 by decide) ?_ fun _ => hnothing
    rintro message ⟨⟩
    exact hargument text rfl

/-- **Every reply to `STOR` is framed**, whatever becomes of the upload. -/
theorem Stored.isFramed {settings : StoreSettings} {argument : Option String} {before : List Effect}
    {calls : List CallRecord} {reply : Reply} (h : Stored x settings argument before calls reply)
    (hplace : x.client.cursor.current.MadeOf (· ≠ '\n')) (hargument : ∀ text ∈ argument, OneLine text) :
    ∀ r ∈ repliesOf before ++ [reply], r.IsFramed := by
  -- wherever the argument leads to is a path without line feeds, and the replies quote nothing else
  have htarget {target : Path} (hok : x.storeTarget argument = .ok target) : target.MadeOf (· ≠ '\n') := by
    obtain ⟨text, rfl, rfl, -⟩ := eq_of_storeTarget_eq_ok hok
    refine hplace.resolve fun c hc => ?_
    rintro rfl
    exact hargument text rfl hc
  have hannounced {target : Path} (hok : x.storeTarget argument = .ok target) {final : Reply}
      (hfinal : final.IsFramed) : ∀ r ∈ repliesOf (announced target) ++ [final], r.IsFramed := by
    refine List.forall_mem_cons.2 ⟨?_, List.forall_mem_singleton.2 hfinal⟩
    have hpath := oneLine_path (htarget hok)
    have hopening : OneLine ("File status okay; about to open data connection for " ++ toString target) :=
      oneLine_append (oneLine_literal rfl) hpath
    exact .of_oneLine (by decide) (oneLine_append hopening (oneLine_literal rfl))
  have hfailure {target : Path} (hok : x.storeTarget argument = .ok target) {code : Nat}
      (hcode : 100 ≤ code ∧ code ≤ 999) : (storeFailure code target).IsFramed := by
    refine NegativeReply.isFramed_toReply hcode nofun ?_
    rintro path ⟨⟩
    exact htarget hok
  cases h with
  | refused hrefused => exact List.forall_mem_singleton.2 (isFramed_of_storeTarget_eq_error hrefused hargument)
  | notOpened hok => exact hannounced hok (hfailure hok (by decide))
  | abandoned hok => exact hannounced hok (hfailure hok (by decide))
  | @received target stream factory calls outcome hok =>
    refine hannounced hok ?_
    cases outcome.ending with
    | complete received =>
      have hopening : OneLine ("Transfer complete (" ++ toString received) :=
        oneLine_append (oneLine_literal rfl) (oneLine_toString received)
      exact .of_oneLine (by decide) (oneLine_append hopening (oneLine_literal rfl))
    | connectionLost => exact hfailure hok (by decide)
    | localError => exact hfailure hok (by decide)

end Exchange

/-! ## Commands of the control connection

These are decisions of a client with an argument, and each is shown to be final by itself. `QUIT` alone ends the
connection, and it is left out here. -/

namespace Decision

/-- A decision with one framed final reply that does not end the connection. -/
structure IsFinal (d : Decision) : Prop where
  framed : d.reply.IsFramed
  code : 200 ≤ d.reply.code
  stays : d.status ≠ .closeConnection

/-- A success with a text of one line. -/
theorem isFinal_succeed {client : Client} {code : Nat} {message : String} (hcode : 200 ≤ code ∧ code ≤ 999)
    (hmessage : OneLine message) : (succeed client code message).IsFinal where
  framed := .of_oneLine ⟨Nat.le_trans (by decide) hcode.1, hcode.2⟩ hmessage
  code := hcode.1
  stays := nofun

/-- A failure with a text of one line. -/
theorem isFinal_fail {client : Client} {code : Nat} {reason : String} (hcode : 200 ≤ code ∧ code ≤ 999)
    (hreason : OneLine reason) : (fail client code reason).IsFinal where
  framed := .of_oneLine ⟨Nat.le_trans (by decide) hcode.1, hcode.2⟩ hreason
  code := hcode.1
  stays := nofun

/-- A failure that says no more than its code does. -/
theorem isFinal_failPlainly {client : Client} {code : Nat} (hcode : 200 ≤ code ∧ code ≤ 999) :
    (failPlainly client code).IsFinal :=
  isFinal_fail hcode (Reply.oneLine_defaultMessage code)

/-- The status has four lines. The two in the middle begin with a word, whoever is logged in. -/
theorem isFinal_stat {client : Client} (huser : ∀ name ∈ client.user, OneLine name) : (stat client).IsFinal := by
  have hname : OneLine (client.user.getD "-") := by
    cases hsome : client.user with
    | none => exact oneLine_literal rfl
    | some name => exact huser name hsome
  have hpeer := oneLine_endpoint client.peer
  have hmessage : (stat client).reply.message.toList =
      "FTP server status:".toList ++ '\n' :: (("Connected from ".toList ++ (toString client.peer).toList) ++ '\n' ::
        (("Logged in as ".toList ++ (client.user.getD "-").toList) ++ '\n' :: "End of status.".toList)) := by
    show ("FTP server status:\nConnected from " ++ toString client.peer ++ "\nLogged in as " ++ client.user.getD "-" ++
      "\nEnd of status.").toList = _
    simp [String.toList_append]
  -- the lines as they are sent: the reply is cut at its own three line feeds and nowhere else
  have hlines : lines (stat client).reply.message.toList =
      [dropReturn "FTP server status:".toList, dropReturn ("Connected from ".toList ++ (toString client.peer).toList),
        dropReturn ("Logged in as ".toList ++ (client.user.getD "-").toList), "End of status.".toList] := by
    have hfirst : OneLine "FTP server status:" := oneLine_literal rfl
    have hlast : OneLine "End of status." := oneLine_literal rfl
    have hsecond : '\n' ∉ "Connected from ".toList ++ (toString client.peer).toList := by
      rw [List.mem_append, not_or]
      exact ⟨show OneLine "Connected from " from oneLine_literal rfl, hpeer⟩
    have hthird : '\n' ∉ "Logged in as ".toList ++ (client.user.getD "-").toList := by
      rw [List.mem_append, not_or]
      exact ⟨show OneLine "Logged in as " from oneLine_literal rfl, hname⟩
    rw [hmessage, Reply.lines_append hfirst, Reply.lines_append hsecond, Reply.lines_append hthird,
      Reply.lines_of_notMem hlast]
    rfl
  refine ⟨⟨show 100 ≤ 211 ∧ 211 ≤ 999 by decide, ?_, ?_⟩, show 200 ≤ 211 by decide, nofun⟩
  · rw [hlines]
    refine List.forall_mem_cons.2 ⟨?_, List.forall_mem_singleton.2 ?_⟩
    · exact Reply.beginsWithCode_dropReturn (c := 'C') (by decide) _
    · exact Reply.beginsWithCode_dropReturn (c := 'L') (by decide) _
  · rw [hlines]
    intro hfew
    exact absurd hfew (show ¬4 < 2 by decide)

/-- `PASV`, with the address that it tells or without one. -/
theorem isFinal_pasv (bind : DataChannel.Binder) (ports : List UInt16) (client : Client) :
    (pasv bind ports client).IsFinal := by
  unfold pasv
  split
  · exact isFinal_fail (by decide) (oneLine_literal rfl)
  split
  · exact isFinal_failPlainly (by decide)
  split
  · next text htext =>
    have hopening : OneLine "Entering Passive Mode " := oneLine_literal rfl
    have htext := oneLine_append hopening (oneLine_passiveText htext)
    exact isFinal_succeed (by decide) (oneLine_append htext (oneLine_literal rfl))
  · exact isFinal_fail (by decide) (oneLine_literal rfl)

/-- `EPSV`, which tells no more than a port. -/
theorem isFinal_epsv (bind : DataChannel.Binder) (ports : List UInt16) (client : Client) :
    (epsv bind ports client).IsFinal := by
  unfold epsv
  split
  · exact isFinal_failPlainly (by decide)
  · next here client' _ =>
    have hopening : OneLine "Entering Extended Passive Mode (|||" := oneLine_literal rfl
    have htext := oneLine_append hopening (oneLine_toString here.port.toNat)
    exact isFinal_succeed (by decide) (oneLine_append htext (oneLine_literal rfl))

/-- What `PORT` and `EPRT` have in common once their argument has been read. -/
theorem isFinal_activate (client : Client) {verb : String} (hverb : OneLine verb)
    (target : Except TransferFault Endpoint) : (activate client verb target).IsFinal := by
  have hcode (fault : TransferFault) : 200 ≤ fault.replyCode ∧ fault.replyCode ≤ 999 := by
    cases fault <;> exact ⟨Nat.le_of_ble_eq_true rfl, Nat.le_of_ble_eq_true rfl⟩
  have hopening : OneLine "Illegal " := oneLine_literal rfl
  unfold activate
  split
  · exact isFinal_succeed (by decide) (oneLine_append hverb (oneLine_literal rfl))
  · exact isFinal_fail (hcode _) (oneLine_append (oneLine_append hopening hverb) (oneLine_literal rfl))

/-- `PORT` and `EPRT`, with an argument or without one. -/
theorem isFinal_activateFrom (client : Client) {verb : String} (hverb : OneLine verb)
    (read : String → Except TransferFault Endpoint) (argument : Option String) :
    (activateFrom client verb read argument).IsFinal := by
  unfold activateFrom
  split <;> exact isFinal_activate client hverb _

/-- `USER`. The only reply of the control connection that quotes an argument. -/
theorem isFinal_user (credentials : Credentials) (client : Client) {argument : Option String}
    (hargument : ∀ text ∈ argument, OneLine text) : (user credentials client argument).IsFinal := by
  have hopening : OneLine "User name okay, need password for " := oneLine_literal rfl
  unfold user
  split
  · exact isFinal_fail (by decide) (oneLine_literal rfl)
  · next name =>
    split
    · have htext := oneLine_append hopening (hargument name rfl)
      exact isFinal_succeed (by decide) (oneLine_append htext (oneLine_literal rfl))
    · exact isFinal_fail (by decide) (oneLine_literal rfl)

/-- `PASS`, which never quotes what it was given. -/
theorem isFinal_pass (credentials : Credentials) (client : Client) (argument : Option String) :
    (pass credentials client argument).IsFinal := by
  unfold pass
  split
  · exact isFinal_succeed (by decide) (oneLine_literal rfl)
  split
  · exact isFinal_fail (by decide) (oneLine_literal rfl)
  split
  · exact isFinal_succeed (by decide) (oneLine_literal rfl)
  · exact isFinal_fail (show 200 ≤ 530 ∧ 530 ≤ 999 by decide) (oneLine_literal rfl)

/-- `TYPE`, whose replies are fixed. -/
theorem isFinal_type (client : Client) (argument : Option String) : (type client argument).IsFinal := by
  unfold type
  split
  · exact isFinal_fail (by decide) (oneLine_literal rfl)
  split
  · exact isFinal_succeed (by decide) (oneLine_literal rfl)
  split
  · exact isFinal_succeed (by decide) (oneLine_literal rfl)
  · exact isFinal_fail (by decide) (oneLine_literal rfl)

/-- `MODE` and `STRU`, which accept one letter each. -/
theorem isFinal_onlyAccept (client : Client) (accepted : Char) {message : String} (hmessage : OneLine message)
    (argument : Option String) : (onlyAccept client accepted message argument).IsFinal := by
  unfold onlyAccept
  split
  · exact isFinal_failPlainly (by decide)
  split
  · exact isFinal_succeed (by decide) hmessage
  · exact isFinal_fail (by decide) (oneLine_literal rfl)

/-- `OPTS`, whose replies are fixed. -/
theorem isFinal_opts (client : Client) (argument : Option String) : (opts client argument).IsFinal := by
  unfold opts
  split
  · exact isFinal_failPlainly (by decide)
  split
  · exact isFinal_succeed (by decide) (oneLine_literal rfl)
  · exact isFinal_fail (by decide) (oneLine_literal rfl)

/-- **Every command of the control connection but `QUIT` sends one framed final reply and goes on**, if the argument and
the client's name are one-line texts. -/
theorem isFinal_make (settings : ControlSettings) (bind : DataChannel.Binder) {client : Client}
    {command : ControlCommand} (hquit : command ≠ .quit) {argument : Option String}
    (huser : ∀ name ∈ client.user, OneLine name) (hargument : ∀ text ∈ argument, OneLine text) :
    (make settings bind client command argument).IsFinal := by
  cases command with
  | user => exact isFinal_user settings.credentials client hargument
  | pass => exact isFinal_pass settings.credentials client argument
  | stat => exact isFinal_stat huser
  | pasv => exact isFinal_pasv bind settings.dataPorts client
  | epsv => exact isFinal_epsv bind settings.dataPorts client
  | port =>
    have hverb : OneLine "PORT" := oneLine_literal rfl
    exact isFinal_activateFrom client hverb _ argument
  | eprt =>
    have hverb : OneLine "EPRT" := oneLine_literal rfl
    exact isFinal_activateFrom client hverb _ argument
  | quit => exact absurd rfl hquit
  | noop => exact isFinal_succeed (by decide) (oneLine_literal rfl)
  | syst => exact isFinal_succeed (by decide) (oneLine_literal rfl)
  | abor => exact isFinal_succeed (by decide) (oneLine_literal rfl)
  | feat =>
    refine ⟨?_, show 200 ≤ 211 by decide, nofun⟩
    -- the lines between the first and the last are indented
    show Reply.IsFramed ⟨ReplyCode.systemStatus, _⟩
    decide
  | type => exact isFinal_type client argument
  | mode => exact isFinal_onlyAccept client 'S' (oneLine_literal rfl) argument
  | stru => exact isFinal_onlyAccept client 'F' (oneLine_literal rfl) argument
  | opts => exact isFinal_opts client argument

end Decision

end FtpIntake
