import FtpIntake.Proofs.Connection.Ways
import FtpIntake.Proofs.Exchange.Transfer
import FtpIntake.Proofs.Path
import Mathlib.Data.List.Basic

/-!
# Where the characters of a name come from

An uploaded unit is labelled with the name of its target and with the directory above it. The target is looked up from
the client's place in the tree, so it can have characters that the upload itself did not name: those of directories
that somebody has made. Only the argument of `STOR` is searched for control characters, and that of `MKD` is not.

* **`Labelled`** says of a record that every unit in it that was committed was given its labels right before, and that
  the target they were read off consists of characters with a property.
* **`Exchange.Spelled`** says so of everything that a name can come from: the tree, the client's place and the record.
* **`Spelled.run`** and **`Spelled.take`** keep it over every line, if the property holds of all characters that are no
  control characters and of the argument of every `MKD`.

The record is part of the invariant because a commit is told by its calls, and the labels come before it. A work
session that is not committed may have any labels.
-/

namespace FtpIntake

open Text Upload

variable {P : Char → Prop}

/-! ## Labels

A label is what an upload writes into its unit before it commits it. The grammar of an upload's calls says that the
two labels come right before the commit, and from which path they are made. -/

/-- Whenever a commit succeeds, the calls right before it have labelled the unit, from a path of such characters. -/
def Labelled (P : Char → Prop) (effects : List Effect) : Prop :=
  ∀ earlier later, effects = earlier ++ .called ⟨.commit, true⟩ :: later →
    ∃ before unit target, earlier = before ++ (succeeded (finishing unit target)).map .called ∧ target.MadeOf P

/-- A record without a commit has nothing to say. -/
theorem labelled_of_notMem {effects : List Effect} (h : .called ⟨.commit, true⟩ ∉ effects) : Labelled P effects := by
  intro earlier later heq
  rw [heq] at h
  exact absurd (List.mem_append_right _ List.mem_cons_self) h

/-- Two records, each with its own commits and their labels. -/
theorem Labelled.append {a b : List Effect} (ha : Labelled P a) (hb : Labelled P b) : Labelled P (a ++ b) := by
  intro earlier later heq
  rcases List.append_eq_append_iff.1 heq with ⟨rest, rfl, hrest⟩ | ⟨rest, rfl, hrest⟩
  · -- the commit is in the second part, and so are the labels before it
    obtain ⟨before, unit, target, rfl, htarget⟩ := hb rest later hrest
    exact ⟨a ++ before, unit, target, (List.append_assoc _ _ _).symm, htarget⟩
  · cases rest with
    | nil =>
      obtain ⟨before, unit, target, heq', htarget⟩ := hb [] later hrest.symm
      refine ⟨earlier ++ before, unit, target, ?_, htarget⟩
      rw [List.append_assoc, ← heq', List.append_nil]
    | cons effect rest =>
      obtain ⟨rfl, rfl⟩ := List.cons.inj hrest
      exact ha earlier rest rfl

/-- **An upload labels its unit before it commits it.** -/
theorem Upload.Transcript.labelled {target : Path} {reads : List Bytes} {fault : Option IoKind}
    {calls : List CallRecord} {outcome : UploadOutcome} (h : Transcript target reads fault calls outcome)
    (htarget : target.MadeOf P) : Labelled P (calls.map .called) := by
  by_cases hcommit : ⟨.commit, true⟩ ∈ calls
  · obtain ⟨received, rfl⟩ := h.commit_mem_iff.1 hcommit
    cases h with
    | committed unit hfault =>
      intro earlier later heq
      -- the commit is the last call, and there is no other commit before it
      have hopen := (keepsOpen_written unit reads).append (keepsOpen_finishing unit target)
      have honce : Effect.called ⟨.commit, true⟩ ∉
          (succeeded (begun unit ++ writes unit reads ++ finishing unit target)).map .called := by
        intro hmem
        obtain ⟨record, hrecord, hsame⟩ := List.mem_map.1 hmem
        cases hsame
        exact hopen.commit_notMem true hrecord
      rw [List.map_append] at heq
      obtain ⟨rfl, -, -⟩ := (List.append_cons_inj_of_notMem honce List.not_mem_nil).1 heq
      refine ⟨(succeeded (begun unit ++ writes unit reads)).map .called, unit, target, ?_, htarget⟩
      rw [succeeded_append, List.map_append]
  · refine labelled_of_notMem fun hmem => ?_
    obtain ⟨record, hrecord, hsame⟩ := List.mem_map.1 hmem
    cases hsame
    exact hcommit hrecord

/-! ## Everything a name can come from

Names come in with the argument of `MKD`, stay in the tree, and get from there into the place of a client. They leave
by the labels of a commit. -/

/-- The characters that the request puts into the tree have the property: those of its argument, if it is `MKD`. -/
def Request.Spells (P : Char → Prop) (r : Request) : Prop :=
  Command.ofVerb? r.verb = some .makeDirectory → ∀ text ∈ r.argument, ∀ c ∈ text.toList, P c

namespace Exchange

variable {σ : Type} {x x' : Exchange σ}

/-- The tree, the client's place and the labels of committed units consist of characters with the property. -/
structure Spelled (P : Char → Prop) (x : Exchange σ) : Prop where
  tree : ∀ p ∈ x.tree, p.MadeOf P
  place : x.client.cursor.current.MadeOf P
  labelled : Labelled P x.history

/-- What leaves the tree and the client's place alone has to keep the labels right and nothing else. -/
theorem Spelled.steady (h : Spelled P x) (hsteady : Steady x x') {added : List Effect}
    (hhistory : x'.history = x.history ++ added) (hadded : Labelled P added) : Spelled P x' := by
  refine ⟨?_, ?_, ?_⟩
  · rw [hsteady.tree]
    exact h.tree
  · rw [hsteady.cursor]
    exact h.place
  · rw [hhistory]
    exact h.labelled.append hadded

/-- An effect that calls nothing is no label and no commit. -/
theorem Spelled.note (h : Spelled P x) (effect : Effect) (hquiet : effect ≠ .called ⟨.commit, true⟩)
    (hsteady : Steady x x') (heffects : x'.effects = effect :: x.effects) : Spelled P x' := by
  have hhistory : x'.history = x.history ++ [effect] := by
    rw [history, heffects, List.reverse_cons]
    rfl
  refine h.steady hsteady hhistory (labelled_of_notMem ?_)
  rw [List.mem_singleton]
  exact hquiet.symm

/-- Clearing the state changes none of the three. -/
theorem Spelled.reset (h : Spelled P x) : Spelled P x.reset :=
  h.note .stateReset nofun ⟨rfl, rfl⟩ rfl

theorem Spelled.closeChannel (h : Spelled P x) : Spelled P x.closeChannel :=
  h.note .channelClosed nofun ⟨rfl, rfl⟩ rfl

/-- Nor does a reply, which is no commit. -/
theorem Spelled.answer (h : Spelled P x) (r : Reply) : Spelled P (x.answer r).2 := by
  refine h.note (.replyQueued r) nofun (Steady.answer ⟨rfl, rfl⟩ r) ?_
  rw [answer_snd]

/-! ### Commands

Only two kinds of commands do anything here: those that make or enter directories, and uploads. -/

/-- A command without a transfer makes a directory that its argument spells, and goes to directories that exist. -/
theorem Spelled.answered (h : Spelled P x) {y : Exchange σ} {command : Command} {argument : Option String}
    {reply : Reply} (hanswered : Answered x command argument y reply)
    (hspells : command = .makeDirectory → ∀ text ∈ argument, ∀ c ∈ text.toList, P c) : Spelled P y := by
  refine ⟨?_, ?_, ?_⟩
  · -- a tree that is kept, one with a path more, and one with some paths fewer
    rcases hanswered.tree with htree | ⟨raw, hcommand, hraw, htree⟩ | ⟨q, htree⟩ <;> rw [htree] <;> intro p hp
    · exact h.tree p hp
    · rcases Tree.mem_create.1 hp with rfl | hp
      · exact h.place.resolve (hspells hcommand raw hraw)
      · exact h.tree p hp
    · exact h.tree p (Tree.mem_delete.1 hp).1
  · rcases hanswered.cursor with hcursor | ⟨raw, -, hmem, hcursor⟩
    · rw [hcursor]
      exact h.place
    · rw [hcursor]
      exact h.tree _ hmem
  · rw [hanswered.writes.history]
    exact h.labelled.append (labelled_of_notMem (by simp))

/-- **An upload goes where its argument leads from the client's place.** The argument is free of control characters, so
the place is the only thing that can have brought one in. -/
theorem Spelled.store [Pipeline σ] (h : Spelled P x) (hplain : ∀ c, isControl c = false → P c)
    (settings : StoreSettings) (argument : Option String) : Spelled P (x.store settings argument).2 := by
  obtain ⟨before, calls, reply, hstored, hsends, hsteady⟩ := sends_store x settings argument
  have hlabels : Labelled P (calls.map .called) := by
    cases hstored with
    | received htarget hopen hwait hcalls =>
      -- the target is looked up from the client's place, by an argument without control characters
      obtain ⟨text, rfl, rfl, hclean⟩ := eq_of_storeTarget_eq_ok htarget
      refine hcalls.labelled ?_
      exact h.place.resolve fun c hc => hplain c (hclean c hc)
    | _ => exact labelled_of_notMem List.not_mem_nil
  have hbefore : Labelled P before := by
    refine labelled_of_notMem fun hmem => ?_
    exact hstored.called_notMem _ hmem _ rfl
  refine h.steady hsteady hsends.history (((hbefore.append hlabels).append ?_).append ?_)
  · exact labelled_of_notMem (by simp)
  · exact labelled_of_notMem (by simp)

/-- Nor does a listing. -/
theorem Spelled.list (h : Spelled P x) (form : ListingForm) (argument : Option String) :
    Spelled P (x.list form argument).2 := by
  obtain ⟨added, hlisted, hsends, hsteady⟩ := sends_list x form argument
  refine h.steady hsteady hsends.history (labelled_of_notMem ?_)
  generalize (x.list form argument).1 = result at hlisted
  cases hlisted <;> simp

/-- **Every command keeps to the spelling.** -/
theorem Spelled.run [Pipeline σ] (h : Spelled P x) (hplain : ∀ c, isControl c = false → P c)
    (settings : StoreSettings) {command : Command} {argument : Option String} (hcontrol : command.isControl = false)
    (hspells : command = .makeDirectory → ∀ text ∈ argument, ∀ c ∈ text.toList, P c) :
    Spelled P (x.run settings command argument).2 := by
  cases htransfers : command.transfers with
  | false =>
    obtain ⟨y, reply, hanswered, hrun⟩ := exists_answered x settings argument hcontrol htransfers
    rw [hrun]
    exact (h.answered hanswered hspells).answer reply
  | true =>
    cases command with
    | list form => exact h.list form argument
    | store => exact h.store hplain settings argument
    | _ => exact Bool.noConfusion htransfers

/-- Nor does a control command. -/
theorem Spelled.control (h : Spelled P x) (settings : ControlSettings) (command : ControlCommand)
    (argument : Option String) : Spelled P (x.control settings command argument).2 := by
  obtain ⟨-, hcursor⟩ := Decision.make_client_frame settings x.circumstances.bind x.client command argument
  have hplace : Path.MadeOf P
      (Decision.make settings x.circumstances.bind x.client command argument).client.cursor.current := by
    rw [hcursor]
    exact h.place
  have hdecided : Spelled P { x with
      client := (Decision.make settings x.circumstances.bind x.client command argument).client } :=
    ⟨h.tree, hplace, h.labelled⟩
  rw [control_snd]
  exact hdecided.reset.answer _

/-! ### Lines

The record of the line itself is no label, and what is refused at the gate does nothing. -/

variable [Pipeline σ]

/-- A request adds names only by `MKD`, and commits only by `STOR`. -/
theorem Spelled.dispatch (h : Spelled P x) (hplain : ∀ c, isControl c = false → P c) (service : Service)
    {r : Request} (hspells : r.Spells P) : Spelled P (x.dispatch service r).2 := by
  have hway := x.dispatched service r
  generalize x.dispatch service r = result at hway
  cases hway with
  | unknown => exact h.reset.answer _
  | refused => exact h.reset.answer _
  | @controlled command => exact h.control service.control command r.argument
  | ran hverb hcontrol =>
    refine h.run hplain service.store hcontrol fun hcommand => ?_
    rw [hcommand] at hverb
    exact hspells hverb

/-- **Every line keeps to the spelling.** -/
theorem Spelled.take (h : Spelled P x) (hplain : ∀ c, isControl c = false → P c) (service : Service) {input : Input}
    (hspells : ∀ r ∈ input.executed? service, r.Spells P) : Spelled P (x.take service input).2 := by
  have hway := x.taken service input
  generalize x.take service input = result at hway
  cases hway with
  | finished => exact h
  | failed => exact h
  | garbled => exact h
  | tooLong => exact h.answer Reply.tooLong
  | blank => exact h
  | @executed bytes line _ _ _ hexecuted =>
    have hbegun : Spelled P (x.begun line) := h.note (.logged _) nofun ⟨rfl, rfl⟩ rfl
    exact hbegun.dispatch hplain service (hspells _ hexecuted)

end Exchange

end FtpIntake
