import FtpIntake.Proofs.Connection.Ways
import FtpIntake.Proofs.Exchange.Transfer

/-!
# What a request does to the directories

A client has a directory of its own in a tree that is everybody's. A request may change either of them, and the codes of
its replies say whether it did.

* **`Deed`** is what is remembered of a request: where the client was, what it asked for, and what it was told. This is
  enough to tell whether the request has made a path or spared it.
* **`Exchange.Attended`** is what one request does to the tree and to the client's directory, with the codes that the
  client is told. **`Exchange.attended_take`** says so of every request of a client that is logged in.
-/

namespace FtpIntake

/-! ## What is told of a request

A deed is the request with the place it came from and the codes of its replies. By the codes alone one can tell
whether a removal was done. -/

/-- What has happened to the tree of a server. -/
inductive Deed where
  | cleared
  /-- A request of a client that was logged in and in a directory, with the codes of the replies to it. -/
  | executed (directory : Path) (request : Request) (codes : List Nat)
  deriving DecidableEq

namespace Deed

/-- It was `MKD`, and its argument has led to the path. -/
def Makes (p : Path) : Deed → Prop
  | .cleared => False
  | .executed directory request _ =>
    Command.ofVerb? request.verb = some .makeDirectory ∧
      ∃ text, request.argument = some text ∧ directory.resolve text = p

/-- It was no `RMD` that was confirmed and whose argument has led to the path or to one above it. -/
def Spares (p : Path) : Deed → Prop
  | .cleared => False
  | .executed directory request codes =>
    Command.ofVerb? request.verb = some .removeDirectory → codes = [250] →
      ∀ text, request.argument = some text → (directory.resolve text).isAncestorOf p = false

end Deed

namespace Exchange

variable {σ : Type}

/-! ## One request

`Attended` has one clause for each kind of request that has to do with directories. It is shown for the commands one
by one, and then carried over to the line. -/

/-- What the execution of a request does to the tree and to the client's directory. -/
structure Attended (x : Exchange σ) (r : Request) (codes : List Nat) (x' : Exchange σ) : Prop where
  tree : ∀ p, p ∈ x'.tree ↔
    Deed.Makes p (.executed x.client.cursor.current r codes) ∨
      (p ∈ x.tree ∧ Deed.Spares p (.executed x.client.cursor.current r codes))
  entered : Command.ofVerb? r.verb = some .changeDirectory → ∀ text, r.argument = some text →
    ((x.lookup text ∈ x.tree ∧ codes = [250]) ∨ (x.lookup text ∉ x.tree ∧ codes = [550])) ∧
      (codes = [250] → x'.client.cursor.current = x.lookup text)
  described : Command.ofVerb? r.verb = some .size ∨ Command.ofVerb? r.verb = some .modificationTime →
    ∀ text, r.argument = some text →
      (x.lookup text ∈ x.tree ∧ codes = [213]) ∨ (x.lookup text ∉ x.tree ∧ codes = [550])
  removed : Command.ofVerb? r.verb = some .removeDirectory → ∀ text, r.argument = some text →
    ((x.lookup text ≠ Path.root ∧ x.lookup text ∈ x.tree) ∧ codes = [250]) ∨
      (¬(x.lookup text ≠ Path.root ∧ x.lookup text ∈ x.tree) ∧ codes = [550])
  moved : x'.client.cursor ≠ x.client.cursor → codes = [250] ∧
    (Command.ofVerb? r.verb = some .changeDirectory ∨ Command.ofVerb? r.verb = some .changeToParent)
  refused : (∃ code ∈ codes, code ∈ [501, 502, 550]) → Steady x x'

/-- Where one code is for a condition and another for its failure, the codes tell which of the two it was. -/
theorem codes_iff_of_answered {condition : Prop} {codes : List Nat} {yes no : Nat} (hne : yes ≠ no)
    (h : (condition ∧ codes = [yes]) ∨ (¬condition ∧ codes = [no])) :
    (codes = [yes] ↔ condition) ∧ (codes = [no] ↔ ¬condition) := by
  rcases h with ⟨hcondition, rfl⟩ | ⟨hcondition, rfl⟩
  · have hcodes : [yes] ≠ [no] := fun heq => hne (List.head_eq_of_cons_eq heq)
    exact ⟨iff_of_true rfl hcondition, iff_of_false hcodes (not_not_intro hcondition)⟩
  · have hcodes : [no] ≠ [yes] := fun heq => hne (List.head_eq_of_cons_eq heq).symm
    exact ⟨iff_of_false hcodes hcondition, iff_of_true rfl hcondition⟩

/-- A request that leaves tree and directory alone, and is none of those that are about directories. -/
theorem attended_of_steady {x x' : Exchange σ} {r : Request} {codes : List Nat} (h : Steady x x')
    (hother : ∀ command, Command.ofVerb? r.verb = some command → command.needsArgument = false) :
    Attended x r codes x' := by
  -- every command that is about directories needs an argument, so this request is none of them
  have hnot {command : Command} (hneeds : command.needsArgument = true) : Command.ofVerb? r.verb ≠ some command :=
    fun hverb => Bool.false_ne_true ((hother command hverb).symm.trans hneeds)
  refine ⟨fun p => ?_, fun hverb => absurd hverb (hnot rfl), fun hverb => ?_, fun hverb => absurd hverb (hnot rfl),
    fun hmoved => absurd h.cursor hmoved, fun _ => h⟩
  · rw [h.tree]
    constructor
    · intro hmem
      exact .inr ⟨hmem, fun hverb => absurd hverb (hnot rfl)⟩
    · rintro (⟨hverb, -⟩ | ⟨hmem, -⟩)
      · exact absurd hverb (hnot rfl)
      · exact hmem
  · rcases hverb with hverb | hverb
    · exact absurd hverb (hnot rfl)
    · exact absurd hverb (hnot rfl)

theorem Answered.mem_tree_iff {x y : Exchange σ} {command : Command} {argument : Option String} {reply : Reply}
    (h : Answered x command argument y reply) (p : Path) :
    p ∈ y.tree ↔ (command = .makeDirectory ∧ ∃ text, argument = some text ∧ x.lookup text = p) ∨
      (p ∈ x.tree ∧ (command = .removeDirectory → reply.code = 250 →
        ∀ text, argument = some text → (x.lookup text).isAncestorOf p = false)) := by
  cases h with
  | made argument =>
    show p ∈ (x.tree.create (x.lookup argument)).2 ↔ _
    rw [Tree.mem_create]
    constructor
    · rintro (rfl | hmem)
      · exact .inl ⟨rfl, argument, rfl, rfl⟩
      · exact .inr ⟨hmem, nofun⟩
    · rintro (⟨-, text, htext, rfl⟩ | ⟨hmem, -⟩)
      · cases htext
        exact .inl rfl
      · exact .inr hmem
  | removed argument hdelete =>
    show p ∈ (x.tree.delete (x.lookup argument)).2 ↔ _
    rw [Tree.mem_delete, hdelete]
    simp
  | rootKept | notRemoved =>
    -- an `RMD` that is refused spares everything
    show p ∈ x.tree ↔ _
    constructor
    · intro hmem
      exact .inr ⟨hmem, fun _ hcode => absurd hcode (show 550 ≠ 250 by decide)⟩
    · rintro (⟨hcommand, -⟩ | ⟨hmem, -⟩)
      · cases hcommand
      · exact hmem
  | _ =>
    show p ∈ x.tree ↔ _
    simp

/-- A command that is refused leaves tree and directory alone. -/
theorem Answered.steady_of_refused {x y : Exchange σ} {command : Command} {argument : Option String} {reply : Reply}
    (h : Answered x command argument y reply) (hcode : reply.code ∈ [501, 502, 550]) : Steady x y := by
  cases h with
  | made => exact absurd hcode (show 257 ∉ [501, 502, 550] by decide)
  | removed => exact absurd hcode (show 250 ∉ [501, 502, 550] by decide)
  | entered => exact absurd hcode (show 250 ∉ [501, 502, 550] by decide)
  | climbed => exact absurd hcode (show 250 ∉ [501, 502, 550] by decide)
  | _ => exact ⟨rfl, rfl⟩

theorem attended_of_answered {x y : Exchange σ} {r : Request} {command : Command} {reply : Reply}
    (hverb : Command.ofVerb? r.verb = some command) (h : Answered x command r.argument y reply) :
    Attended x r [reply.code] (y.answer reply).2 := by
  have hanswer : Steady y (y.answer reply).2 := Steady.answer ⟨rfl, rfl⟩ reply
  -- each part of the statement names a verb, so the command is known there
  have hcommand {other : Command} (hother : Command.ofVerb? r.verb = some other) : command = other :=
    Option.some.inj (hverb.symm.trans hother)
  obtain ⟨verb, argument⟩ := r
  refine ⟨fun p => ?_, fun hother text htext => ?_, fun hother text htext => ?_, fun hother text htext => ?_,
    fun hmoved => ?_, fun ⟨code, hmem, hcode⟩ => ?_⟩
  · -- which paths exist: what the command does to the tree is what its deed says
    rw [hanswer.tree, h.mem_tree_iff p]
    simp only [Deed.Makes, Deed.Spares, hverb, Option.some.injEq, List.cons.injEq, and_true]
    rfl
  · obtain rfl := hcommand hother
    cases htext
    rw [hanswer.cursor]
    cases h with
    | entered argument hmem => exact ⟨.inl ⟨hmem, rfl⟩, fun _ => rfl⟩
    | notEntered argument hmissing =>
      have hcodes : [550] ≠ [250] := by decide
      exact ⟨.inr ⟨hmissing, rfl⟩, fun hcode => absurd hcode hcodes⟩
  · cases htext
    rcases hother with hother | hother
    · obtain rfl := hcommand hother
      cases h with
      | sized argument hmem => exact .inl ⟨hmem, rfl⟩
      | notSized argument hmissing => exact .inr ⟨hmissing, rfl⟩
    · obtain rfl := hcommand hother
      cases h with
      | dated argument hmem => exact .inl ⟨hmem, rfl⟩
      | notDated argument hmissing => exact .inr ⟨hmissing, rfl⟩
  · obtain rfl := hcommand hother
    cases htext
    cases h with
    | removed argument hdelete => exact .inl ⟨Tree.delete_fst.1 hdelete, rfl⟩
    | rootKept argument hroot => exact .inr ⟨fun hboth => hboth.1 hroot, rfl⟩
    | notRemoved argument hmissing => exact .inr ⟨fun hboth => hmissing hboth.2, rfl⟩
  · -- two rules move the client, those of CWD and of CDUP
    rw [hanswer.cursor] at hmoved
    cases h with
    | entered => exact ⟨rfl, .inl hverb⟩
    | climbed => exact ⟨rfl, .inr hverb⟩
    | _ => exact absurd rfl hmoved
  · obtain rfl := List.mem_singleton.1 hmem
    exact (h.steady_of_refused hcode).answer reply

variable [Pipeline σ]

/-- **What a request of a client that is logged in does to the tree and to the client's directory.** -/
theorem attended_dispatch (x : Exchange σ) (service : Service) (r : Request) (hin : x.client.loggedIn = true) :
    ∃ added, (x.dispatch service r).2.history = x.history ++ added ∧
      Attended x r (codesOf added) (x.dispatch service r).2 := by
  have hway := x.dispatched service r
  generalize x.dispatch service r = result at hway
  cases hway with
  | unknown hverb =>
    have hreset : Steady x x.reset := ⟨rfl, rfl⟩
    refine ⟨_, history_reset_answer x x.client _, attended_of_steady (hreset.answer _) fun command hcommand => ?_⟩
    cases hverb.symm.trans hcommand
  | refused hverb hout => exact Bool.noConfusion (hin.symm.trans hout)
  | @controlled command hverb =>
    have hcursor := (Decision.make_client_frame service.control x.circumstances.bind x.client command r.argument).2
    have hdecided : Steady x ({ x with
        client := (Decision.make service.control x.circumstances.bind x.client command r.argument).client } :
          Exchange σ).reset := ⟨rfl, hcursor⟩
    rw [control_snd]
    refine ⟨_, history_reset_answer x _ _, attended_of_steady (hdecided.answer _) fun other hother => ?_⟩
    cases hverb.symm.trans hother
    rfl
  | @ran command hverb hcontrol =>
    have hnone (hneeds : command.needsArgument = false) (other : Command)
        (hother : Command.ofVerb? r.verb = some other) : other.needsArgument = false := by
      cases hverb.symm.trans hother
      exact hneeds
    cases htransfers : command.transfers with
    | false =>
      obtain ⟨y, reply, hanswered, hrun⟩ := exists_answered x service.store r.argument hcontrol htransfers
      refine ⟨[.stateReset, .replyQueued reply], ?_, ?_⟩
      · rw [hrun, hanswered.history_eq]
      · rw [hrun]
        exact attended_of_answered hverb hanswered
    | true =>
      -- a listing and an upload look at the tree, but leave it as it is
      cases command with
      | list form =>
        obtain ⟨added, hlisted, hsends, hsteady⟩ := sends_list x form r.argument
        exact ⟨_, hsends.history, attended_of_steady hsteady (hnone rfl)⟩
      | store =>
        obtain ⟨before, calls, reply, hstored, hsends, hsteady⟩ := sends_store x service.store r.argument
        exact ⟨_, hsends.history, attended_of_steady hsteady (hnone rfl)⟩
      | _ => exact Bool.noConfusion htransfers

theorem attended_take {x : Exchange σ} {service : Service} {input : Input} {r : Request}
    (hexecuted : input.executed? service = some r) (hin : x.client.loggedIn = true) :
    ∃ added, (x.take service input).2.history = x.history ++ added ∧
      Attended x r (codesOf added) (x.take service input).2 := by
  rcases x.take_cases service input with ⟨line, hline, heq⟩ | ⟨hnone, -⟩
  · obtain rfl : Request.ofLine line = r := Option.some.inj (hline.symm.trans hexecuted)
    obtain ⟨added, hhistory, hattended⟩ := attended_dispatch (x.begun line) service (Request.ofLine line) hin
    -- logging the line has touched neither the tree nor the place of the client
    have hrefused (h : ∃ code ∈ codesOf added, code ∈ [501, 502, 550]) :
        Steady x ((x.begun line).dispatch service (Request.ofLine line)).2 :=
      ⟨(hattended.refused h).tree, (hattended.refused h).cursor⟩
    rw [heq]
    refine ⟨.logged (LogRecord.executed (toString x.client.peer) line) :: added, ?_, hattended.tree, hattended.entered,
      hattended.described, hattended.removed, hattended.moved, hrefused⟩
    rw [hhistory, (x.writes_begun line).history, List.append_assoc]
    rfl
  · cases hnone.symm.trans hexecuted

/-- What is not executed, and what a client says that is not logged in, is nothing to the tree. -/
theorem tree_take_of_none {x : Exchange σ} {service : Service} {input : Input}
    (h : input.executed? service = none ∨ x.client.loggedIn = false) : (x.take service input).2.tree = x.tree := by
  rcases h with hexecuted | hout
  · rcases x.take_cases service input with ⟨line, hline, -⟩ | ⟨-, heq | heq⟩
    · cases hline.symm.trans hexecuted
    · rw [heq]
    · rw [heq, answer_snd]
  · exact (untouched_take service input hout).tree

end Exchange

end FtpIntake
