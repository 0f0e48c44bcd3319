import FtpIntake.Exchange.Run
import FtpIntake.Proofs.Exchange.Record

/-!
# What a command without a transfer does

A command that neither belongs to the control connection nor transfers anything clears the client's state, changes the
tree or the client's place at most, and sends one reply.

* **`Exchange.Answered`** has one rule for each way through each of these commands, with the exchange as it stands when
  the reply is sent and with the reply itself.
* **`exists_answered`** says that every run of such a command takes one of the ways and then answers. What holds of all
  of these commands is read off the rules.

The rules tell a condition and its outcome, so a statement on one command is a case of one or two rules. A new command
without a transfer is a new rule and one more case of `exists_answered`.
-/

namespace FtpIntake

/-- Whether a command sends or receives something over a data connection. -/
def Command.transfers : Command → Bool
  | .list _ | .store => true
  | _ => false

/-- Whether a command has nothing to do without an argument. -/
def Command.needsArgument : Command → Bool
  | .makeDirectory | .removeDirectory | .changeDirectory | .size | .modificationTime => true
  | _ => false

namespace Exchange

variable {σ : Type}

/-- The client's place in the tree, changed. -/
def place (x : Exchange σ) (current : Path) : Exchange σ :=
  { x with client := { x.client with cursor := ⟨current⟩ } }

/-- The reply of `CWD` and `CDUP`. -/
def arrival (current : Path) : Reply :=
  ⟨ReplyCode.fileActionOkay, "Directory changed to " ++ toString current⟩

/-- The ways through the commands without a transfer: the exchange when it sends its reply, and the reply. -/
inductive Answered (x : Exchange σ) : Command → Option String → Exchange σ → Reply → Prop where
  | unargued {command : Command} (hneeds : command.needsArgument = true) :
      Answered x command none x.reset Reply.argumentError
  | made (argument : String) :
      Answered x .makeDirectory (some argument) { x.reset with tree := (x.tree.create (x.lookup argument)).2 }
        ⟨ReplyCode.pathnameCreated, "\"" ++ toString (x.lookup argument) ++ "\" directory created."⟩
  | removed (argument : String) (hdelete : (x.tree.delete (x.lookup argument)).1 = true) :
      Answered x .removeDirectory (some argument) { x.reset with tree := (x.tree.delete (x.lookup argument)).2 }
        ⟨ReplyCode.fileActionOkay, "Directory removed."⟩
  | rootKept (argument : String) (hroot : x.lookup argument = Path.root) :
      Answered x .removeDirectory (some argument) x.reset
        ⟨ReplyCode.actionNotTaken, "The root directory cannot be removed."⟩
  | notRemoved (argument : String) (hmissing : x.lookup argument ∉ x.tree) :
      Answered x .removeDirectory (some argument) x.reset (Reply.noSuchDirectory argument)
  | entered (argument : String) (hmem : x.lookup argument ∈ x.tree) :
      Answered x .changeDirectory (some argument) (x.reset.place (x.lookup argument)) (arrival (x.lookup argument))
  | notEntered (argument : String) (hmissing : x.lookup argument ∉ x.tree) :
      Answered x .changeDirectory (some argument) x.reset (Reply.noSuchDirectory argument)
  | climbed (argument : Option String) (hmem : x.lookup ".." ∈ x.tree) :
      Answered x .changeToParent argument (x.reset.place (x.lookup "..")) (arrival (x.lookup ".."))
  | stayed (argument : Option String) (hmissing : x.lookup ".." ∉ x.tree) :
      Answered x .changeToParent argument x.reset (arrival x.client.cursor.current)
  | printed (argument : Option String) :
      Answered x .printDirectory argument x.reset
        ⟨ReplyCode.pathnameCreated, "\"" ++ toString x.client.cursor.current ++ "\" is current directory."⟩
  | sized (argument : String) (hmem : x.lookup argument ∈ x.tree) :
      Answered x .size (some argument) x.reset
        ⟨ReplyCode.fileStatus, toString (Entry.facts ⟨x.lookup argument⟩).size⟩
  | notSized (argument : String) (hmissing : x.lookup argument ∉ x.tree) :
      Answered x .size (some argument) x.reset (Reply.noSuchDirectory argument)
  | dated (argument : String) (hmem : x.lookup argument ∈ x.tree) :
      Answered x .modificationTime (some argument) x.reset
        ⟨ReplyCode.fileStatus, String.ofList (DateTime.ofSeconds (x.circumstances.clock 0)).compactChars⟩
  | notDated (argument : String) (hmissing : x.lookup argument ∉ x.tree) :
      Answered x .modificationTime (some argument) x.reset (Reply.noSuchDirectory argument)
  | helped (argument : Option String) :
      Answered x .help argument x.reset (HelpIndex.served.replyFor argument)
  | rejected (text : String) (argument : Option String) :
      Answered x (.reject text) argument x.reset ⟨ReplyCode.commandNotImplemented, text⟩

/-! ## Every command takes one of the ways

The ways are rules with the condition on which each is taken. That there is no other is shown command by command. -/

/-- A client moves to a directory that there is. -/
theorem move_of_mem {x : Exchange σ} {argument : String} (h : x.lookup argument ∈ x.tree) :
    x.reset.move argument = (true, x.reset.place (x.lookup argument)) := by
  have hmove : x.client.cursor.move x.tree argument = (true, ⟨x.lookup argument⟩) :=
    Cursor.move_eq_true_iff.2 ⟨h, rfl⟩
  show ((x.client.cursor.move x.tree argument).1, x.reset.place (x.client.cursor.move x.tree argument).2.current) = _
  rw [hmove]

/-- To any other it does not. -/
theorem move_of_notMem {x : Exchange σ} {argument : String} (h : x.lookup argument ∉ x.tree) :
    x.reset.move argument = (false, x.reset) := by
  have hmove : x.client.cursor.move x.tree argument = (false, x.client.cursor) := Cursor.move_snd_of_notMem h
  show ((x.client.cursor.move x.tree argument).1, x.reset.place (x.client.cursor.move x.tree argument).2.current) = _
  rw [hmove]
  rfl

/-- `RMD` removes a directory, or it was the root, or there was none. -/
theorem exists_answered_removeDirectory (x : Exchange σ) (argument : String) :
    ∃ y reply, Answered x .removeDirectory (some argument) y reply ∧
      x.reset.removeDirectory argument = y.answer reply := by
  have hdelete := x.tree.delete_fst (p := x.lookup argument)
  cases hresult : x.tree.delete (x.lookup argument) with
  | mk gone tree =>
    rw [hresult] at hdelete
    have htree : (x.tree.delete (x.lookup argument)).2 = tree := by rw [hresult]
    have hreset : x.reset.tree.delete (x.reset.lookup argument) = (gone, tree) := hresult
    simp only [removeDirectory, hreset]
    -- a removal fails for two reasons, which have different replies
    cases gone with
    | true =>
      refine ⟨_, _, .removed argument (by rw [hresult]), ?_⟩
      rw [htree]
    | false =>
      by_cases hroot : (x.lookup argument).isRoot
      · refine ⟨_, _, .rootKept argument (Path.isRoot_iff.1 hroot), ?_⟩
        exact if_pos hroot
      · have hmissing : x.lookup argument ∉ x.tree := fun hmem =>
          Bool.false_ne_true (hdelete.2 ⟨fun heq => hroot (Path.isRoot_iff.2 heq), hmem⟩)
        refine ⟨_, _, .notRemoved argument hmissing, ?_⟩
        exact if_neg hroot

/-- `CWD` goes to a directory, or there is none. -/
theorem exists_answered_changeDirectory (x : Exchange σ) (argument : String) :
    ∃ y reply, Answered x .changeDirectory (some argument) y reply ∧
      x.reset.changeDirectory argument = y.answer reply := by
  unfold changeDirectory
  by_cases hmem : x.lookup argument ∈ x.tree
  · rw [move_of_mem hmem]
    exact ⟨_, _, .entered argument hmem, rfl⟩
  · rw [move_of_notMem hmem]
    exact ⟨_, _, .notEntered argument hmem, rfl⟩

theorem exists_answered_changeToParent (x : Exchange σ) (argument : Option String) :
    ∃ y reply, Answered x .changeToParent argument y reply ∧ x.changeToParent = y.answer reply := by
  unfold changeToParent
  by_cases hmem : x.lookup ".." ∈ x.tree
  · rw [move_of_mem hmem]
    exact ⟨_, _, .climbed argument hmem, rfl⟩
  · rw [move_of_notMem hmem]
    exact ⟨_, _, .stayed argument hmem, rfl⟩

/-- **Every command without a transfer takes one of the ways**, and then sends its one reply. -/
theorem exists_answered [Pipeline σ] (x : Exchange σ) (settings : StoreSettings) {command : Command}
    (argument : Option String) (hcontrol : command.isControl = false) (htransfers : command.transfers = false) :
    ∃ y reply, Answered x command argument y reply ∧ x.run settings command argument = y.answer reply := by
  cases command with
  | control command => exact Bool.noConfusion hcontrol
  | list form => exact Bool.noConfusion htransfers
  | store => exact Bool.noConfusion htransfers
  | makeDirectory =>
    cases argument with
    | none => exact ⟨_, _, .unargued rfl, rfl⟩
    | some argument => exact ⟨_, _, .made argument, rfl⟩
  | removeDirectory =>
    cases argument with
    | none => exact ⟨_, _, .unargued rfl, rfl⟩
    | some argument => exact exists_answered_removeDirectory x argument
  | changeDirectory =>
    cases argument with
    | none => exact ⟨_, _, .unargued rfl, rfl⟩
    | some argument => exact exists_answered_changeDirectory x argument
  | changeToParent => exact exists_answered_changeToParent x argument
  | printDirectory => exact ⟨_, _, .printed argument, rfl⟩
  | size =>
    cases argument with
    | none => exact ⟨_, _, .unargued rfl, rfl⟩
    | some argument =>
      by_cases hmem : x.lookup argument ∈ x.tree
      · exact ⟨_, _, .sized argument hmem, if_pos (Tree.contains_iff.2 hmem)⟩
      · exact ⟨_, _, .notSized argument hmem, if_neg fun h => hmem (Tree.contains_iff.1 h)⟩
  | modificationTime =>
    cases argument with
    | none => exact ⟨_, _, .unargued rfl, rfl⟩
    | some argument =>
      by_cases hmem : x.lookup argument ∈ x.tree
      · exact ⟨_, _, .dated argument hmem, if_pos (Tree.contains_iff.2 hmem)⟩
      · exact ⟨_, _, .notDated argument hmem, if_neg fun h => hmem (Tree.contains_iff.1 h)⟩
  | help => exact ⟨_, _, .helped argument, rfl⟩
  | reject text => exact ⟨_, _, .rejected text argument, rfl⟩

/-! ## What the ways have in common

Read off the rules, so that nobody has to look into the commands for it. -/

/-- Before its reply such a command has cleared the client's state, and has nothing else on record. -/
theorem Answered.writes {x y : Exchange σ} {command : Command} {argument : Option String} {reply : Reply}
    (h : Answered x command argument y reply) : Writes x y [.stateReset] := by
  cases h <;> exact (writes_reset x).of_eq rfl rfl

theorem Answered.history_eq {x y : Exchange σ} {command : Command} {argument : Option String} {reply : Reply}
    (h : Answered x command argument y reply) :
    (y.answer reply).2.history = x.history ++ [.stateReset, .replyQueued reply] := by
  rw [history_answer, h.writes.history, List.append_assoc]
  rfl

/-- The client stays where it is, or goes to a directory that its argument or `..` leads to. -/
theorem Answered.cursor {x y : Exchange σ} {command : Command} {argument : Option String} {reply : Reply}
    (h : Answered x command argument y reply) :
    y.client.cursor = x.client.cursor ∨
      ∃ raw, (argument = some raw ∨ raw = "..") ∧ x.lookup raw ∈ x.tree ∧ y.client.cursor.current = x.lookup raw := by
  cases h with
  | entered argument hmem => exact .inr ⟨argument, .inl rfl, hmem, rfl⟩
  | climbed argument hmem => exact .inr ⟨"..", .inr rfl, hmem, rfl⟩
  | _ => exact .inl rfl

/-- The tree stays as it is, gains the directory that the argument of `MKD` leads to, or loses some. -/
theorem Answered.tree {x y : Exchange σ} {command : Command} {argument : Option String} {reply : Reply}
    (h : Answered x command argument y reply) :
    y.tree = x.tree ∨
      (∃ raw, command = .makeDirectory ∧ argument = some raw ∧ y.tree = (x.tree.create (x.lookup raw)).2) ∨
      ∃ p, y.tree = (x.tree.delete p).2 := by
  cases h with
  | made argument => exact .inr (.inl ⟨argument, rfl, rfl, rfl⟩)
  | removed argument => exact .inr (.inr ⟨_, rfl⟩)
  | _ => exact .inl rfl

theorem Answered.code {x y : Exchange σ} {command : Command} {argument : Option String} {reply : Reply}
    (h : Answered x command argument y reply) : 200 ≤ reply.code ∧ reply.code ≤ 999 := by
  have hhelp : (HelpIndex.served.replyFor argument).code = 214 := by
    unfold HelpIndex.replyFor
    split <;> rfl
  cases h with
  | helped => omega
  | _ => exact ⟨Nat.le_of_ble_eq_true rfl, Nat.le_of_ble_eq_true rfl⟩

end Exchange

end FtpIntake
