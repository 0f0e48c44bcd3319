import FtpIntake.Help
import FtpIntake.Proofs.Request.Normal
import FtpIntake.Proofs.Text.Pieces

/-!
# What help is given on

The verbs of an index are put in their places one by one, and the summary is laid out from the sorted list. Nothing is
lost on the way: whoever cuts the summary into lines, and these into words, has the verbs again, in order.

* **`HelpIndex.pairwise_verbs`** and **`HelpIndex.mem_ofList`**: the verbs are in strictly increasing order, and are
  those that were given.
* **`HelpIndex.isLaidOut_rows`**: all rows are full but the last one, and none is empty.
* **`HelpIndex.summary_eq`** and **`HelpIndex.splitAt_summary`**: how the summary is written and read.
* **`HelpIndex.mem_served_iff`**: help is given on the verbs of the commands that are not refused.

Sorting is by code points, as for texts in general. A verb may be given twice and is listed once.
-/

namespace FtpIntake

open Text

/-- The message shows how one command is written. -/
def IsSyntaxLine (message : String) : Prop :=
  "Syntax: ".toList <+: message.toList

/-- Every usage text of the table begins with the same word, and is one line. -/
theorem isSyntaxLine_of_usage? {verb usage : String} (h : usage? verb = some usage) : IsSyntaxLine usage := by
  unfold usage? at h
  split at h <;> cases h <;> exact List.isPrefixOf_iff_prefix.1 rfl

namespace HelpIndex

/-! ## The sorted verbs

The index is made by insertion, one verb after the other. An insertion keeps the list sorted and without repetitions,
so the fold over all verbs does. -/

/-- A verb that is put into its place is there, and so are the others. One that is there already is not put in twice.
-/
theorem mem_insertVerb {verb v : String} {verbs : List String} :
    v ∈ insertVerb verb verbs ↔ v = verb ∨ v ∈ verbs := by
  induction verbs with
  | nil => simp [insertVerb]
  | cons w rest ih =>
    rw [insertVerb]
    split
    · exact List.mem_cons
    · split
      · next heq => simp [heq]
      · rw [List.mem_cons, ih, List.mem_cons]
        exact or_left_comm

/-- A verb that is put in its place leaves the list in strictly increasing order. -/
theorem pairwise_insertVerb {verb : String} {verbs : List String} (h : verbs.Pairwise (· < ·)) :
    (insertVerb verb verbs).Pairwise (· < ·) := by
  induction h with
  | nil => exact List.pairwise_singleton _ _
  | @cons v rest hbefore hrest ih =>
    rw [insertVerb]
    split
    · next hlt =>
      refine .cons (List.forall_mem_cons.2 ⟨hlt, fun w hw => ?_⟩) (.cons hbefore hrest)
      exact String.lt_trans hlt (hbefore w hw)
    · next hnlt =>
      split
      · exact .cons hbefore hrest
      · next hne =>
        refine .cons (fun w hw => ?_) ih
        rcases mem_insertVerb.1 hw with rfl | hw
        · -- neither before the first verb of the list nor equal to it
          by_contra hle
          exact hne (String.le_antisymm (String.not_lt.1 hle) (String.not_lt.1 hnlt))
        · exact hbefore w hw

/-- The verbs of an index are sorted, and none is there twice. Induction on those that were given. -/
theorem pairwise_verbs (given : List String) : (ofList given).verbs.Pairwise (· < ·) := by
  show (given.foldr insertVerb []).Pairwise (· < ·)
  induction given with
  | nil => exact .nil
  | cons verb rest ih => exact pairwise_insertVerb ih

/-- They are just those that were given. -/
theorem mem_ofList {given : List String} {verb : String} : verb ∈ (ofList given).verbs ↔ verb ∈ given := by
  show verb ∈ given.foldr insertVerb [] ↔ verb ∈ given
  induction given with
  | nil => rfl
  | cons v rest ih => rw [List.foldr_cons, mem_insertVerb, ih, List.mem_cons]

/-! ## The layout of the summary

Rows of eight are cut off as long as there is anything left. So all rows but the last are full. -/

/-- Rows of eight verbs each, but for the last one, which may have fewer but is not empty. -/
structure IsLaidOut (rows : List (List String)) (verbs : List String) : Prop where
  flatten : rows.flatten = verbs
  full : ∀ row ∈ rows.dropLast, row.length = 8
  last : ∀ row ∈ rows.getLast?, 1 ≤ row.length ∧ row.length ≤ 8

/-- Only of no verbs are there no rows. -/
theorem rows_eq_nil_iff {verbs : List String} : rows verbs = [] ↔ verbs = [] := by
  rw [rows]
  split <;> simp [*]

/-- **The rows are full but for the last one, and none is empty.** The first row takes as many verbs as a row has, and
the rest is laid out in the same way. -/
theorem isLaidOut_rows (verbs : List String) : IsLaidOut (rows verbs) verbs := by
  fun_induction rows verbs with
  | case1 => exact ⟨rfl, nofun, nofun⟩
  | case2 verbs hne ih =>
    have hsome : 1 ≤ (verbs.take verbsPerLine).length ∧ (verbs.take verbsPerLine).length ≤ 8 := by
      have hpos := List.length_pos_iff.2 hne
      simp only [List.length_take, verbsPerLine]
      omega
    by_cases hmore : rows (verbs.drop verbsPerLine) = []
    · -- the only row is the last one
      have hall : verbs.take verbsPerLine = verbs :=
        List.take_of_length_le (List.drop_eq_nil_iff.1 (rows_eq_nil_iff.1 hmore))
      rw [hmore]
      exact ⟨by simpa using hall, nofun, by simpa using hsome⟩
    · have hlong : verbsPerLine < verbs.length := by
        rw [rows_eq_nil_iff, List.drop_eq_nil_iff] at hmore
        omega
      refine ⟨?_, ?_, ?_⟩
      · rw [List.flatten_cons, ih.flatten, List.take_append_drop]
      · rw [List.dropLast_cons_of_ne_nil hmore]
        refine List.forall_mem_cons.2 ⟨?_, ih.full⟩
        rw [List.length_take, Nat.min_eq_left (Nat.le_of_lt hlong)]
        rfl
      · rw [List.getLast?_cons_of_ne_nil hmore]
        exact ih.last

/-- A row has a verb in it, be it full or the last one. -/
theorem IsLaidOut.ne_nil {rows : List (List String)} {verbs : List String} (h : IsLaidOut rows verbs) :
    ∀ row ∈ rows, row ≠ [] := by
  rintro row hrow rfl
  have hrows : rows ≠ [] := List.ne_nil_of_mem hrow
  rw [← List.dropLast_append_getLast hrows, List.mem_append, List.mem_singleton] at hrow
  rcases hrow with hrow | hrow
  · exact absurd (h.full [] hrow) (by decide)
  · exact absurd (h.last [] (hrow ▸ List.getLast?_eq_some_getLast hrows)).1 (by decide)

/-- The line before the verbs and the line after them. -/
def opening : String := "The following commands are supported."
/-- The last line of the summary. -/
def closing : String := "End of help."

/-- The lines of the summary. -/
def summaryLines (rows : List (List String)) : List String :=
  opening :: rows.map " ".intercalate ++ [closing]

/-- Lines that are ended one by one, and a last line, are put together with line feeds between them. -/
theorem join_append (lines : List String) (last : String) :
    String.join (lines.map (· ++ "\n")) ++ last = "\n".intercalate (lines ++ [last]) := by
  induction lines with
  | nil => simp
  | cons line lines ih =>
    rw [List.map_cons, String.join_cons, String.append_assoc, ih, List.cons_append,
      String.intercalate_cons_of_ne_nil (by simp)]

/-- The summary is its lines with line feeds between them. -/
theorem summary_eq (index : HelpIndex) : index.summary = "\n".intercalate (summaryLines (rows index.verbs)) := by
  have hmap : (rows index.verbs).map (fun row => " ".intercalate row ++ "\n") =
      ((rows index.verbs).map " ".intercalate).map (· ++ "\n") := by rw [List.map_map]; rfl
  rw [summaryLines, List.cons_append, String.intercalate_cons_of_ne_nil (by simp), ← join_append, ← hmap,
    ← String.append_assoc]
  rfl

/-! ## Reading the summary

The other way round, a client that cuts the summary at line feeds, and a row at its blanks, has the verbs again in
their order. Verbs without white space are needed for this. -/

/-- Verbs without white space are found again in the line they are written on. -/
theorem splitAt_line {row : List String} (hne : row ≠ [])
    (h : ∀ verb ∈ row, ∀ c ∈ verb.toList, isBlank c = false) :
    splitAt ' ' (" ".intercalate row).toList = row.map String.toList := by
  obtain ⟨verb, rest, rfl⟩ := List.exists_cons_of_ne_nil hne
  rw [String.toList_intercalate, List.map_cons]
  refine splitAt_intercalate ?_
  rw [← List.map_cons]
  refine List.forall_mem_map.2 fun v hv hspace => ?_
  exact absurd (h v hv ' ' hspace) (by decide)

/-- A row of words without blanks is one line. -/
theorem feed_notMem_line {row : List String} (h : ∀ verb ∈ row, ∀ c ∈ verb.toList, isBlank c = false) :
    '\n' ∉ (" ".intercalate row).toList := by
  intro hfeed
  rw [String.toList_intercalate] at hfeed
  rcases mem_intercalate hfeed with hfeed | ⟨piece, hpiece, hfeed⟩
  · exact absurd hfeed (by decide)
  · obtain ⟨verb, hverb, rfl⟩ := List.mem_map.1 hpiece
    exact absurd (h verb hverb '\n' hfeed) (by decide)

/-- **The summary falls apart into its lines**, since no verb has a line feed in it. -/
theorem splitAt_summary {index : HelpIndex} (h : ∀ verb ∈ index.verbs, ∀ c ∈ verb.toList, isBlank c = false) :
    splitAt '\n' index.summary.toList = (summaryLines (rows index.verbs)).map String.toList := by
  have hrows : ∀ row ∈ rows index.verbs, '\n' ∉ (" ".intercalate row).toList := by
    intro row hrow
    refine feed_notMem_line fun verb hverb => h verb ?_
    exact (isLaidOut_rows index.verbs).flatten ▸ List.mem_flatten_of_mem hrow hverb
  rw [summary_eq, String.toList_intercalate, summaryLines, List.cons_append, List.map_cons]
  refine splitAt_intercalate ?_
  rw [← List.map_cons]
  refine List.forall_mem_map.2 (List.forall_mem_cons.2 ⟨by decide, ?_⟩)
  refine List.forall_mem_append.2 ⟨List.forall_mem_map.2 hrows, ?_⟩
  exact List.forall_mem_singleton.2 (by decide)

/-! ## The answer to a request for help

The argument is trimmed and raised before it is looked up, so a client may ask in any case. -/

/-- The verb that a client asks about. -/
def asked (text : String) : String :=
  String.ofList (Request.upperCase (trim text.toList))

/-- A client that asks about a verb of the index is shown how this is written. -/
def Describes (index : HelpIndex) (argument : Option String) (usage : String) : Prop :=
  ∃ text ∈ argument, asked text ∈ index.verbs ∧ usage? (asked text) = some usage

/-- What is looked up is the trimmed argument, and only among the verbs of the index. -/
theorem describes_iff {index : HelpIndex} {argument : Option String} {usage : String} :
    (argument.bind fun verb => index.usageFor? (String.ofList (trim verb.toList))) = some usage ↔
      index.Describes argument usage := by
  rw [Option.bind_eq_some_iff]
  refine exists_congr fun text => and_congr_right fun _ => ?_
  rw [usageFor?, String.toList_ofList, ← asked, Option.ite_none_right_eq_some]

/-- A verb of the index is answered by its usage. -/
theorem replyFor_of_describes {index : HelpIndex} {argument : Option String} {usage : String}
    (h : index.Describes argument usage) : index.replyFor argument = ⟨214, usage⟩ := by
  rw [replyFor, describes_iff.2 h]

/-- Anything else is answered by the summary. -/
theorem replyFor_of_not_describes {index : HelpIndex} {argument : Option String}
    (h : ¬∃ usage, index.Describes argument usage) : index.replyFor argument = ⟨214, index.summary⟩ := by
  rw [replyFor, Option.eq_none_iff_forall_ne_some.2 fun usage husage => h ⟨usage, describes_iff.1 husage⟩]

/-- The two cannot be confused, because the summary begins with another word. -/
theorem not_isSyntaxLine_summary (index : HelpIndex) : ¬IsSyntaxLine index.summary := by
  intro h
  have hfirst : index.summary.toList.head? = some 'S' := by
    obtain ⟨rest, hrest⟩ := h
    rw [← hrest]
    rfl
  rw [summary_eq, summaryLines, List.cons_append, String.intercalate_cons_of_ne_nil (by simp)] at hfirst
  simp [opening] at hfirst

/-! ## The verbs that are served

The index that the server uses is made of its table of commands. Those that are refused are in the table and not in
the index. -/

/-- **Help is given on the verbs of the commands that are served**, written in capitals. -/
theorem mem_served_iff {verb : String} :
    verb ∈ served.verbs ↔
      (∀ c ∈ verb.toList, c.isLower = false) ∧
        ∃ command, Command.ofVerb? verb = some command ∧ command.isReject = false := by
  have hupper : ∀ row ∈ Command.table, row.1.toList.any Char.isLower = false := by decide
  have honce : ∀ row ∈ Command.table, Command.table.lookup row.1 = some row.2 := by decide
  -- a verb without lower case letters is looked up as it stands
  have hraised : (∀ c ∈ verb.toList, c.isLower = false) → Command.ofVerb? verb = Command.table.lookup verb := by
    intro h
    rw [Command.ofVerb?, Request.upperCase_of_forall h, String.ofList_toList]
  rw [served, mem_ofList, Command.servedVerbs, List.mem_map]
  constructor
  · rintro ⟨row, hrow, rfl⟩
    obtain ⟨hrow, hserved⟩ := List.mem_filter.1 hrow
    have hcapitals : ∀ c ∈ row.1.toList, c.isLower = false :=
      fun c hc => Bool.eq_false_iff.2 (List.any_eq_false.1 (hupper row hrow) c hc)
    exact ⟨hcapitals, row.2, (hraised hcapitals).trans (honce row hrow), by simpa using hserved⟩
  · rintro ⟨hcapitals, command, hcommand, hserved⟩
    rw [hraised hcapitals, List.lookup_eq_some_iff] at hcommand
    -- a row that is found is a row of the table
    obtain ⟨before, after, htable, -⟩ := hcommand
    refine ⟨(verb, command), List.mem_filter.2 ⟨?_, by simpa using hserved⟩, rfl⟩
    rw [htable]
    exact List.mem_append_right _ List.mem_cons_self

/--
**Help on any verbs without white space.** The index has the given verbs, each once and in strictly increasing order.
The summary is one line that opens it, the verbs in order, in rows of eight of which only the last may be shorter, and
one line that closes it; cut at line feeds and spaces it gives the verbs back. The answer to a request is a syntax line
just if the argument, trimmed and in capitals, is a verb of the index that has one, and the summary otherwise. The verbs
that the server gives help on are those of the commands it does not refuse.
-/
theorem help_laws (given : List String) (h : ∀ verb ∈ given, ∀ c ∈ verb.toList, isBlank c = false) :
    let index := ofList given
    index.verbs.Pairwise (· < ·) ∧ (∀ verb, verb ∈ index.verbs ↔ verb ∈ given) ∧
      (∃ rows, IsLaidOut rows index.verbs ∧ index.summary = "\n".intercalate (summaryLines rows) ∧
        splitAt '\n' index.summary.toList = (summaryLines rows).map String.toList ∧
        ∀ row ∈ rows, splitAt ' ' (" ".intercalate row).toList = row.map String.toList) ∧
      (∀ argument, (index.replyFor argument).code = 214 ∧
        (IsSyntaxLine (index.replyFor argument).message ↔ ∃ usage, index.Describes argument usage) ∧
        (∀ usage, index.Describes argument usage → (index.replyFor argument).message = usage) ∧
        (¬IsSyntaxLine (index.replyFor argument).message → (index.replyFor argument).message = index.summary)) ∧
      ∀ verb, verb ∈ served.verbs ↔
        (∀ c ∈ verb.toList, c.isLower = false) ∧
          ∃ command, Command.ofVerb? verb = some command ∧ command.isReject = false := by
  intro index
  have hwords : ∀ verb ∈ index.verbs, ∀ c ∈ verb.toList, isBlank c = false :=
    fun verb hverb => h verb (mem_ofList.1 hverb)
  have hlayout := isLaidOut_rows index.verbs
  refine ⟨pairwise_verbs given, fun verb => mem_ofList,
    ⟨rows index.verbs, hlayout, summary_eq index, splitAt_summary hwords, fun row hrow => ?_⟩, fun argument => ?_,
    fun verb => mem_served_iff⟩
  · refine splitAt_line (hlayout.ne_nil row hrow) fun verb hverb => hwords verb ?_
    exact hlayout.flatten ▸ List.mem_flatten_of_mem hrow hverb
  · -- the two kinds of reply are told apart by what is looked up
    by_cases hdescribes : ∃ usage, index.Describes argument usage
    · obtain ⟨usage, husage⟩ := hdescribes
      have hsyntax : IsSyntaxLine usage := by
        obtain ⟨text, -, -, husage⟩ := husage
        exact isSyntaxLine_of_usage? husage
      rw [replyFor_of_describes husage]
      refine ⟨rfl, ⟨fun _ => ⟨usage, husage⟩, fun _ => hsyntax⟩, fun usage' husage' => ?_,
        fun hnot => absurd hsyntax hnot⟩
      exact congrArg Reply.message ((replyFor_of_describes husage).symm.trans (replyFor_of_describes husage'))
    · rw [replyFor_of_not_describes hdescribes]
      have hsummary := not_isSyntaxLine_summary index
      exact ⟨rfl, ⟨fun hsyntax => absurd hsyntax hsummary, fun husage => absurd husage hdescribes⟩,
        fun usage husage => absurd ⟨usage, husage⟩ hdescribes, fun _ => rfl⟩

/-- Ten verbs of which one comes twice, so that the second row has a single verb. -/
theorem help_laws_of_ten :
    let given := ["STOR", "CWD", "XPWD", "HELP", "CWD", "MKD", "RMD", "LIST", "NLST", "ABOR"]
    let index := ofList given
    (∀ verb ∈ given, ∀ c ∈ verb.toList, isBlank c = false) ∧ index.verbs.Pairwise (· < ·) ∧
      index.verbs = ["ABOR", "CWD", "HELP", "LIST", "MKD", "NLST", "RMD", "STOR", "XPWD"] ∧
      (∃ rows, IsLaidOut rows index.verbs ∧
        splitAt '\n' index.summary.toList = (summaryLines rows).map String.toList) ∧
      (index.replyFor (some " stor\t")).message = "Syntax: STOR <sp> <pathname>" ∧
      ¬IsSyntaxLine (index.replyFor (some "RETR")).message ∧
      "STOR" ∈ served.verbs ∧ "stor" ∉ served.verbs := by
  intro given index
  have hany : ∀ verb ∈ given, verb.toList.any isBlank = false := by decide
  have h : ∀ verb ∈ given, ∀ c ∈ verb.toList, isBlank c = false :=
    fun verb hverb c hc => Bool.eq_false_iff.2 (List.any_eq_false.1 (hany verb hverb) c hc)
  obtain ⟨hsorted, hmem, ⟨rows, hrows, -, hlines, -⟩, hreply, hserved⟩ := help_laws given h
  have hverbs : index.verbs = ["ABOR", "CWD", "HELP", "LIST", "MKD", "NLST", "RMD", "STOR", "XPWD"] := by decide
  refine ⟨h, hsorted, hverbs, ⟨rows, hrows, hlines⟩, ?_, fun hsyntax => ?_, ?_, fun hserves => ?_⟩
  · exact (hreply _).2.2.1 _ ⟨" stor\t", rfl, (hmem _).2 (by decide), by decide⟩
  · obtain ⟨usage, text, ⟨⟩, hretr, -⟩ := (hreply _).2.1.1 hsyntax
    exact absurd ((hmem _).1 hretr) (by decide)
  · have hcapitals : "STOR".toList.any Char.isLower = false := by decide
    refine (hserved _).2 ⟨fun c hc => Bool.eq_false_iff.2 (List.any_eq_false.1 hcapitals c hc), .store, ?_, rfl⟩
    decide
  · exact absurd (((hserved _).1 hserves).1 's' (by decide)) (by decide)

end HelpIndex

end FtpIntake
