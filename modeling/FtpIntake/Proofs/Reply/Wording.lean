import FtpIntake.NegativeReply
import FtpIntake.Proofs.Exchange.Transfer
import FtpIntake.Proofs.Text.Pieces

/-!
# The wordings of failures

A wording is made of words and of at most one placeholder. To fill it is meant to copy a path or a message to where the
placeholder stands. But the path is filled in first, and the message then into all that there is by that time: where the
path brings a message placeholder along, it is taken for one of the wording.

* **`NegativeReply.fillVerbatim`** fills a wording piece by piece and does not look at what it has filled in.
* **`NegativeReply.text_of_names_path`** is what becomes of a wording that names the path.
* **`NegativeReply.text_eq_verbatim_iff`** says for which failures the two agree, and which replies to `STOR` hold the
  path that they are about.

The order of the two replacements is what matters. A placeholder for a path in a message does no harm, because no
wording has both and the path is replaced first.
-/

namespace FtpIntake

namespace NegativeReply

open Text

/-! ## Pieces

What a wording means is said with pieces: words that are copied, and places where a text is put. A text that was put
in is not looked at again. -/

/-- What a wording is made of: characters of its own, and places for a path or a message. -/
inductive Piece where
  | word (c : Char)
  | path
  | message
  deriving DecidableEq

/-- The pieces of a wording. -/
def pieces : List Char → List Piece
  | [] => []
  | '\x7b' :: 'p' :: 'a' :: 't' :: 'h' :: '\x7d' :: rest => .path :: pieces rest
  | '\x7b' :: 'm' :: 'e' :: 's' :: 's' :: 'a' :: 'g' :: 'e' :: '\x7d' :: rest => .message :: pieces rest
  | c :: rest => .word c :: pieces rest

/-- What stands for a piece. -/
def Piece.filled (path message : List Char) : Piece → List Char
  | .word c => [c]
  | .path => path
  | .message => message

/-- A wording with a path and a message in their places. They are copied, and nothing in them is a placeholder. -/
def fillVerbatim (wording path message : List Char) : List Char :=
  (pieces wording).flatMap (Piece.filled path message)

variable {path message before after wording : List Char}

/-- Words in front of the first brace are pieces of their own. -/
theorem pieces_append (h : '\x7b' ∉ before) : pieces (before ++ wording) = before.map .word ++ pieces wording := by
  induction before with
  | nil => rfl
  | cons c before ih =>
    rw [List.mem_cons, not_or] at h
    have hc : pieces (c :: (before ++ wording)) = .word c :: pieces (before ++ wording) := by
      rw [pieces] <;> grind
    rw [List.cons_append, hc, ih h.2, List.map_cons, List.cons_append]

/-- Words are filled in as they are. -/
theorem flatMap_filled_word (path message before : List Char) :
    (before.map .word).flatMap (Piece.filled path message) = before := by
  rw [List.flatMap_map]
  exact List.flatMap_singleton' before

/-! ## The shape of a wording

The statement is about all wordings of the table, and they have three shapes only: without a place, with one for the
path, and with one for the message. So the table is looked at once, and then the shapes. -/

/-- Words without braces. -/
def Plain (words : List Char) : Prop :=
  '\x7b' ∉ words ∧ '\x7d' ∉ words

instance (words : List Char) : Decidable (Plain words) :=
  inferInstanceAs (Decidable (_ ∧ _))

/-- A wording is plain, or it has one placeholder between plain words. -/
inductive Shape : List Char → Prop where
  | plain {words : List Char} (h : Plain words) : Shape words
  | path {before after : List Char} (hbefore : Plain before) (hafter : Plain after) :
      Shape (before ++ (pathPlaceholder ++ after))
  | message {before after : List Char} (hbefore : Plain before) (hafter : Plain after) :
      Shape (before ++ (messagePlaceholder ++ after))

/-- A wording that names the path in the middle of plain words. -/
theorem Shape.of_path {wording : String} (before after : String) (h : wording = before ++ ("\x7bpath\x7d" ++ after))
    (hbefore : Plain before.toList) (hafter : Plain after.toList) : Shape wording.toList := by
  rw [h, String.toList_append, String.toList_append]
  exact .path hbefore hafter

/-- A wording that names the message. -/
theorem Shape.of_message {wording : String} (before after : String)
    (h : wording = before ++ ("\x7bmessage\x7d" ++ after)) (hbefore : Plain before.toList)
    (hafter : Plain after.toList) : Shape wording.toList := by
  rw [h, String.toList_append, String.toList_append]
  exact .message hbefore hafter

/-- **Every wording of the table has one of the three shapes.** -/
theorem shape_of_wording {code : Nat} {topic wording : String} (h : wording? code topic = some wording) :
    Shape wording.toList := by
  unfold wording? at h
  split at h
  · -- the wordings of an upload, by their codes
    split at h <;> cases h
    · exact .plain (by decide)
    · exact .plain (by decide)
    · exact .of_path "Service shutting down, upload of " " abandoned." rfl (by decide) (by decide)
    · exact .of_path "Data connection closed, upload of " " aborted." rfl (by decide) (by decide)
    · exact .of_path "" ": Local error in processing." rfl (by decide) (by decide)
  · split at h
    · cases h
      exact .of_message "" ": Not a valid file name." rfl (by decide) (by decide)
    · split at h <;> cases h
      exact .of_path "" ": Permission denied." rfl (by decide) (by decide)

/-! ## Pieces of a shape

How each of the three shapes falls into pieces. -/

/-- A plain wording has no placeholder among its pieces. -/
theorem pieces_plain (h : Plain wording) : pieces wording = wording.map .word := by
  have hpieces := @pieces_append wording [] h.1
  rwa [List.append_nil, show pieces [] = [] from rfl, List.append_nil] at hpieces

/-- A wording that names the path has it once. -/
theorem pieces_path (hbefore : Plain before) (hafter : Plain after) :
    pieces (before ++ (pathPlaceholder ++ after)) = before.map .word ++ .path :: after.map .word := by
  rw [pieces_append hbefore.1, show pieces (pathPlaceholder ++ after) = .path :: pieces after from rfl,
    pieces_plain hafter]

/-- A wording that names the message has it once, and no path. -/
theorem pieces_message (hbefore : Plain before) (hafter : Plain after) :
    pieces (before ++ (messagePlaceholder ++ after)) = before.map .word ++ .message :: after.map .word := by
  rw [pieces_append hbefore.1, show pieces (messagePlaceholder ++ after) = .message :: pieces after from rfl,
    pieces_plain hafter]

/-! ## Filling a shape

The text is made by two replacements one after the other, first of the path and then of the message. In a wording with
a place for the path the second one goes over the path as well, and this is the only case in which filling is not
verbatim. -/

/-- What has a brace is not found in plain words. -/
theorem Plain.replaceAll_eq {pattern replacement : List Char} (h : Plain before) (hbrace : '\x7b' ∈ pattern) :
    replaceAll pattern replacement before = before :=
  replaceAll_of_not_isInfix fun hoccurs => h.1 (hoccurs.subset hbrace)

/-- Nothing is filled into a plain wording. -/
theorem fill_plain (h : Plain wording) : fill wording path message = wording := by
  rw [fill, h.replaceAll_eq (by decide), h.replaceAll_eq (by decide)]

/-- **The path is searched for message placeholders** when it has taken its place. -/
theorem fill_path (hbefore : Plain before) (hafter : Plain after) :
    fill (before ++ (pathPlaceholder ++ after)) path message =
      before ++ (replaceAll messagePlaceholder message path ++ after) := by
  rw [fill, replaceAll_append_left (by rfl) hbefore.1, replaceAll_pattern_append (by decide),
    hafter.replaceAll_eq (by decide), replaceAll_append_left (by rfl) hbefore.1,
    replaceAll_append_right (by rfl) hafter.2]

/-- Where only the message is named, the two replacements do what they are meant to. -/
theorem fill_message (hbefore : Plain before) (hafter : Plain after) :
    fill (before ++ (messagePlaceholder ++ after)) path message = before ++ (message ++ after) := by
  -- the first replacement finds nothing: the only brace opens the placeholder of the message
  have hpath : replaceAll pathPlaceholder path (messagePlaceholder ++ after) = messagePlaceholder ++ after := by
    have hrest : '\x7b' ∉ "message\x7d".toList ++ after := by
      simp only [List.mem_append, not_or]
      exact ⟨by decide, hafter.1⟩
    have hother : ¬pathPlaceholder <+: '\x7b' :: ("message\x7d".toList ++ after) := by
      intro hbegins
      have hsecond : "path\x7d".toList <+: "message\x7d".toList ++ after := (List.cons_prefix_cons.1 hbegins).2
      exact absurd (List.cons_prefix_cons.1 hsecond).1 (by decide)
    show replaceAll pathPlaceholder path ('\x7b' :: ("message\x7d".toList ++ after)) = _
    rw [replaceAll_cons hother, replaceAll_of_not_isInfix fun hoccurs => hrest (hoccurs.subset (by decide))]
    rfl
  rw [fill, replaceAll_append_left (by rfl) hbefore.1, hpath, replaceAll_append_left (by rfl) hbefore.1,
    replaceAll_pattern_append (by decide), hafter.replaceAll_eq (by decide)]

theorem fillVerbatim_plain (h : Plain wording) : fillVerbatim wording path message = wording := by
  rw [fillVerbatim, pieces_plain h, flatMap_filled_word]

theorem fillVerbatim_path (hbefore : Plain before) (hafter : Plain after) :
    fillVerbatim (before ++ (pathPlaceholder ++ after)) path message = before ++ (path ++ after) := by
  rw [fillVerbatim, pieces_path hbefore hafter, List.flatMap_append, List.flatMap_cons, flatMap_filled_word,
    flatMap_filled_word, Piece.filled]

theorem fillVerbatim_message (hbefore : Plain before) (hafter : Plain after) :
    fillVerbatim (before ++ (messagePlaceholder ++ after)) path message = before ++ (message ++ after) := by
  rw [fillVerbatim, pieces_message hbefore hafter, List.flatMap_append, List.flatMap_cons, flatMap_filled_word,
    flatMap_filled_word, Piece.filled]

/-- Where the path is copied and where it is not. -/
theorem fill_eq_fillVerbatim_iff (h : Shape wording) :
    fill wording path message = fillVerbatim wording path message ↔
      (.path ∈ pieces wording → ¬messagePlaceholder <:+: path ∨ message = messagePlaceholder) := by
  cases h with
  | plain h => simp [fill_plain h, fillVerbatim_plain h, pieces_plain h]
  | path hbefore hafter =>
    rw [fill_path hbefore hafter, fillVerbatim_path hbefore hafter, pieces_path hbefore hafter,
      List.append_right_inj, List.append_left_inj, replaceAll_eq_self_iff (by decide)]
    simp
  | message hbefore hafter =>
    rw [fill_message hbefore hafter, fillVerbatim_message hbefore hafter, pieces_message hbefore hafter]
    simp

/-! ## The text of a failure

A failure chooses its wording by its code and topic. The general statement about shapes is carried over to what it has
chosen. -/

/-- The wording that a failure is put into, if it has one. -/
def selected? (n : NegativeReply) : Option String :=
  n.topic.bind (wording? n.code)

/-- What a failure is meant to say in a wording. -/
def verbatim (n : NegativeReply) (wording : String) : String :=
  String.ofList (fillVerbatim wording.toList n.pathText.toList n.messageText.toList)

/-- A failure with a wording of its own says what is filled into it. -/
theorem text_of_selected {n : NegativeReply} {wording : String} (h : n.selected? = some wording) :
    n.text = String.ofList (fill wording.toList n.pathText.toList n.messageText.toList) := by
  rw [text, show n.topic.bind (wording? n.code) = some wording from h]

/-- So its wording has one of the three shapes. -/
theorem shape_of_selected {n : NegativeReply} {wording : String} (h : n.selected? = some wording) :
    Shape wording.toList := by
  obtain ⟨topic, -, hwording⟩ := Option.bind_eq_some_iff.1 h
  exact shape_of_wording hwording

theorem text_of_names_path {n : NegativeReply} {wording : String} (h : n.selected? = some wording)
    (hpath : .path ∈ pieces wording.toList) :
    ∃ before after, Plain before ∧ Plain after ∧ wording.toList = before ++ (pathPlaceholder ++ after) ∧
      n.text.toList =
        before ++ (replaceAll messagePlaceholder n.messageText.toList n.pathText.toList ++ after) := by
  have hshape := shape_of_selected h
  rw [text_of_selected h, String.toList_ofList]
  generalize wording.toList = words at hshape hpath ⊢
  cases hshape with
  | plain hplain => simp [pieces_plain hplain] at hpath
  | @path before after hbefore hafter => exact ⟨before, after, hbefore, hafter, rfl, fill_path hbefore hafter⟩
  | message hbefore hafter => simp [pieces_message hbefore hafter] at hpath

/-- **Filling is verbatim** unless the wording names the path and the path holds a message placeholder, for which
something else is filled in. -/
theorem text_eq_iff_of_selected {n : NegativeReply} {wording : String} (h : n.selected? = some wording) :
    n.text = n.verbatim wording ↔
      (.path ∈ pieces wording.toList →
        ¬messagePlaceholder <:+: n.pathText.toList ∨ n.messageText.toList = messagePlaceholder) := by
  rw [text_of_selected h, verbatim, String.ofList_inj]
  exact fill_eq_fillVerbatim_iff (shape_of_selected h)

/-- A failure without a message says its path just if no message placeholder is in it. One that is in it is lost, and so
are its braces. -/
theorem path_infix_text_iff {n : NegativeReply} {wording : String} (h : n.selected? = some wording)
    (hpath : .path ∈ pieces wording.toList) (hmessage : n.messageText = "") :
    n.pathText.toList <:+: n.text.toList ↔ ¬messagePlaceholder <:+: n.pathText.toList := by
  obtain ⟨before, after, hbefore, hafter, -, htext⟩ := text_of_names_path h hpath
  rw [htext, hmessage]
  constructor
  · intro hoccurs hplaceholder
    have hlost := count_replaceAll_nil_lt (show '\x7b' ∈ messagePlaceholder by decide) hplaceholder
    have hcount := hoccurs.sublist.count_le '\x7b'
    rw [List.count_append, List.count_append, List.count_eq_zero.2 hbefore.1, List.count_eq_zero.2 hafter.1] at hcount
    simp only [String.toList_empty] at hcount
    omega
  · intro hfree
    rw [replaceAll_of_not_isInfix hfree]
    exact ⟨before, after, by simp⟩

/-- The codes of uploads whose wording names the path. -/
theorem code_of_names_path {code : Nat} {wording : String} (h : wording? code uploadTopic = some wording)
    (hpath : .path ∈ pieces wording.toList) : code ∈ [421, 426, 451] := by
  unfold wording? at h
  rw [if_pos rfl] at h
  split at h <;> cases h
  · exact absurd hpath (by decide)
  · exact absurd hpath (by decide)
  all_goals decide

end NegativeReply

/-! ## The failures of an upload

The failures of `STOR` that name a path name its target, which is what the client has chosen. With a placeholder as
the name of a file it makes the reply say something else. -/

namespace Exchange

open NegativeReply

variable {σ : Type}

/-- What is refused before an upload is not about a path. -/
theorem path_notMem_of_storeTarget_eq_error {x : Exchange σ} {argument : Option String} {failure : NegativeReply}
    {wording : String} (h : x.storeTarget argument = .error failure) (hselected : failure.selected? = some wording) :
    .path ∉ pieces wording.toList := by
  rcases x.storeTarget_cases argument with
    ⟨-, heq⟩ | ⟨text, -, ⟨-, heq⟩ | ⟨-, -, heq⟩ | ⟨-, -, -, heq⟩⟩ <;> rw [heq] at h <;> cases h
  · cases hselected
    decide
  · cases hselected
  · cases hselected
    decide

/-- A reply to `STOR` whose code has a wording that names the path is about the path that the argument leads to. -/
theorem storeReply_of_names_path [Pipeline σ] (x : Exchange σ) (settings : StoreSettings) (argument : Option String)
    {wording : String} (h : wording? (x.storeReply settings argument).1.code uploadTopic = some wording)
    (hpath : .path ∈ pieces wording.toList) :
    ∃ text, argument = some text ∧
      (x.storeReply settings argument).1 =
        storeFailure (x.storeReply settings argument).1.code (x.lookup text) := by
  obtain ⟨before, calls, hstored, -⟩ := x.stored_storeReply settings argument
  have hcode := code_of_names_path h hpath
  have htext {target : Path} (htarget : x.storeTarget argument = .ok target) :
      ∃ text, argument = some text ∧ target = x.lookup text := by
    obtain ⟨text, hargument, hlookup, -⟩ := eq_of_storeTarget_eq_ok htarget
    exact ⟨text, hargument, hlookup⟩
  generalize (x.storeReply settings argument).1 = reply at hstored hcode ⊢
  cases hstored with
  | @refused failure htarget =>
    have hrefused := code_of_storeTarget_eq_error htarget
    -- a target that is refused has another code
    simp only [toReply, List.mem_cons, List.not_mem_nil, or_false] at hrefused hcode
    omega
  | notOpened => exact absurd hcode (show 425 ∉ [421, 426, 451] by decide)
  | abandoned htarget =>
    obtain ⟨text, hargument, rfl⟩ := htext htarget
    exact ⟨text, hargument, rfl⟩
  | @received target _ _ _ outcome htarget =>
    obtain ⟨text, hargument, rfl⟩ := htext htarget
    refine ⟨text, hargument, ?_⟩
    cases hending : outcome.ending with
    | complete received =>
      rw [hending] at hcode
      exact absurd hcode (show 226 ∉ [421, 426, 451] by decide)
    | connectionLost => rfl
    | localError => rfl

end Exchange

namespace NegativeReply

open Exchange Text

/--
**When the words of a failure are its wording, filled in.** A failure that has a wording says it with the path and the
message copied to their places, except where the wording names the path and a message placeholder is in the path: that
one is filled in as well, and the path is copied just if the message is the placeholder itself.

So a reply to `STOR` whose wording names the path is about the path that the argument leads to, and holds it character
for character just if no message placeholder is in it. Failures that are found before the upload are not about a path.
-/
theorem text_eq_verbatim_iff (n : NegativeReply) :
    (∀ wording, n.selected? = some wording →
      (n.text = n.verbatim wording ↔
        (.path ∈ pieces wording.toList →
          ¬messagePlaceholder <:+: n.pathText.toList ∨ n.messageText.toList = messagePlaceholder))) ∧
      ∀ {σ : Type} [Pipeline σ] (x : Exchange σ) (settings : StoreSettings) (argument : Option String),
        let reply := (x.storeReply settings argument).1
        (∀ failure wording, x.storeTarget argument = .error failure → failure.selected? = some wording →
          .path ∉ pieces wording.toList) ∧
        ∀ wording, wording? reply.code uploadTopic = some wording → .path ∈ pieces wording.toList →
          ∃ text, argument = some text ∧ reply = storeFailure reply.code (x.lookup text) ∧
            ((toString (x.lookup text)).toList <:+: reply.message.toList ↔
              ¬messagePlaceholder <:+: (toString (x.lookup text)).toList) := by
  refine ⟨fun wording h => text_eq_iff_of_selected h, fun {σ} _ x settings argument => ?_⟩
  intro reply
  refine ⟨fun failure wording => path_notMem_of_storeTarget_eq_error, fun wording hwording hpath => ?_⟩
  obtain ⟨text, hargument, hreply⟩ := x.storeReply_of_names_path settings argument hwording hpath
  refine ⟨text, hargument, hreply, ?_⟩
  -- the reply is the text of a failure about this path, with no message
  let failure : NegativeReply := ⟨reply.code, uploadTopic, none, x.lookup text⟩
  have hselected : failure.selected? = some wording := hwording
  have hsaid : reply.message = failure.text := congrArg Reply.message hreply
  have habout : failure.pathText = toString (x.lookup text) := rfl
  have hmessage : failure.messageText = "" := rfl
  rw [hsaid, ← habout]
  exact path_infix_text_iff hselected hpath hmessage

/-- Braces in a path do no harm by themselves. -/
theorem text_eq_verbatim_iff_of_braces :
    let x : Exchange Memory :=
      { client :=
          { peer := ⟨.v4 .loopback, 40000⟩, here := ⟨.v4 .loopback, 2121⟩, channel := .active ⟨.v4 .loopback, 40001⟩ },
        tree := Tree.empty, surroundings := {}, pipeline := {},
        circumstances := { dial := .connected (.v4 .loopback) {} } }
    let reply := (x.storeReply ⟨8192, 100, 5⟩ (some "\x7b\x7bpath\x7d \x7bmess\x7d")).1
    let n : NegativeReply := ⟨421, uploadTopic, none, x.lookup "\x7b\x7bpath\x7d \x7bmess\x7d"⟩
    let wording := "Service shutting down, upload of \x7bpath\x7d abandoned."
    n.selected? = some wording ∧ n.text = n.verbatim wording ∧
      wording? reply.code uploadTopic = some wording ∧ .path ∈ pieces wording.toList ∧
      (toString (x.lookup "\x7b\x7bpath\x7d \x7bmess\x7d")).toList <:+: reply.message.toList := by
  intro x reply n wording
  have hselected : n.selected? = some wording := by decide
  have hpath : .path ∈ pieces wording.toList := by decide
  have hfree : ¬messagePlaceholder <:+: n.pathText.toList := fun hoccurs =>
    absurd (hoccurs.subset (show 'g' ∈ messagePlaceholder by decide)) (by decide)
  have hcode : wording? reply.code uploadTopic = some wording := by rfl
  obtain ⟨-, hreply⟩ := (text_eq_verbatim_iff n).2 x ⟨8192, 100, 5⟩ (some "\x7b\x7bpath\x7d \x7bmess\x7d")
  obtain ⟨text, htext, -, hoccurs⟩ := hreply wording hcode hpath
  obtain rfl := Option.some.inj htext
  exact ⟨hselected, ((text_eq_verbatim_iff n).1 wording hselected).2 fun _ => .inl hfree, hcode, hpath, hoccurs.2 hfree⟩

/-- It is not true of all failures that they say their wording, filled in. The path of this upload brings a message
placeholder along, and the client is told of another path. -/
theorem text_ne_verbatim_of_placeholder :
    let x : Exchange Memory :=
      { client :=
          { peer := ⟨.v4 .loopback, 40000⟩, here := ⟨.v4 .loopback, 2121⟩, channel := .active ⟨.v4 .loopback, 40001⟩ },
        tree := Tree.empty, surroundings := { slot := ⟨some 0⟩ }, pipeline := {},
        circumstances := { dial := .connected (.v4 .loopback) { ending := some .connectionReset } } }
    let reply := (x.storeReply ⟨8192, 100, 5⟩ (some "\x7bmessage\x7d.txt")).1
    let n : NegativeReply := ⟨426, uploadTopic, none, x.lookup "\x7bmessage\x7d.txt"⟩
    let wording := "Data connection closed, upload of \x7bpath\x7d aborted."
    reply = n.toReply ∧ n.selected? = some wording ∧
      n.verbatim wording = "Data connection closed, upload of /\x7bmessage\x7d.txt aborted." ∧
      n.text = "Data connection closed, upload of /.txt aborted." ∧ n.text ≠ n.verbatim wording := by
  intro x reply n wording
  have hselected : n.selected? = some wording := by decide
  have hverbatim : n.verbatim wording = "Data connection closed, upload of /\x7bmessage\x7d.txt aborted." := by decide
  have hpath : n.pathText.toList = ['/'] ++ (messagePlaceholder ++ ".txt".toList) := by decide
  have hfree : ¬messagePlaceholder <:+: ".txt".toList := fun hoccurs => absurd hoccurs.length_le (by decide)
  -- what was filled in for the path is looked at once more
  have hlost : replaceAll messagePlaceholder n.messageText.toList n.pathText.toList = "/.txt".toList := by
    rw [hpath, replaceAll_append_left (by rfl) (by decide), replaceAll_pattern_append (by decide),
      replaceAll_of_not_isInfix hfree]
    rfl
  have hwording : wording.toList =
      "Data connection closed, upload of ".toList ++ (pathPlaceholder ++ " aborted.".toList) := by decide
  have htext : n.text = "Data connection closed, upload of /.txt aborted." := by
    rw [text_of_selected hselected, hwording, fill_path (by decide) (by decide), hlost]
    rfl
  refine ⟨rfl, hselected, hverbatim, htext, ?_⟩
  rw [htext, hverbatim]
  decide

end NegativeReply

end FtpIntake
