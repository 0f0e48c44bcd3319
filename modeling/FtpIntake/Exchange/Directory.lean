import FtpIntake.Exchange.Basic
import FtpIntake.Help

/-!
# Directory commands

The commands that make, remove, enter and describe directories, and the two that only talk. Each of them clears
the client's state once and sends one reply.
-/

namespace FtpIntake.Exchange

variable {σ : Type}

/-- Runs a command that needs an argument. Without one the command says so and does nothing else. -/
def withArgument (x : Exchange σ) (argument : Option String)
    (run : Exchange σ → String → Sent × Exchange σ) : Sent × Exchange σ :=
  match argument with
  | none => x.reset.answer Reply.argumentError
  | some argument => run x.reset argument

/-- `MKD`. A directory that exists already is reported like a new one. -/
def makeDirectory (x : Exchange σ) (argument : String) : Sent × Exchange σ :=
  let target := x.lookup argument
  -- whether the directory is new is not told
  { x with tree := (x.tree.create target).2 }.answer
    ⟨ReplyCode.pathnameCreated, "\"" ++ toString target ++ "\" directory created."⟩

/-- `RMD`. -/
def removeDirectory (x : Exchange σ) (argument : String) : Sent × Exchange σ :=
  let target := x.lookup argument
  match x.tree.delete target with
  | (true, tree) => { x with tree }.answer ⟨ReplyCode.fileActionOkay, "Directory removed."⟩
  | (false, _) =>
    -- the tree refuses the root and what is missing alike; the replies do not
    if target.isRoot then
      x.answer ⟨ReplyCode.actionNotTaken, "The root directory cannot be removed."⟩
    else x.answer (Reply.noSuchDirectory argument)

/-- The reply that names the directory a client has gone to. -/
def directoryChanged (x : Exchange σ) : Reply :=
  ⟨ReplyCode.fileActionOkay, "Directory changed to " ++ toString x.client.cursor.current⟩

/-- The exchange after the client has tried to go somewhere, and whether it got there. -/
def move (x : Exchange σ) (argument : String) : Bool × Exchange σ :=
  let (moved, cursor) := x.client.cursor.move x.tree argument
  (moved, { x with client := { x.client with cursor } })

/-- `CWD`. -/
def changeDirectory (x : Exchange σ) (argument : String) : Sent × Exchange σ :=
  match x.move argument with
  | (true, x) => x.answer x.directoryChanged
  | (false, x) => x.answer (Reply.noSuchDirectory argument)

/-- `CDUP`. It reports the client's directory also when the parent is gone and the client has stayed. -/
def changeToParent (x : Exchange σ) : Sent × Exchange σ :=
  let (_, x) := x.reset.move ".."
  x.answer x.directoryChanged

/-- `PWD`. -/
def printDirectory (x : Exchange σ) : Sent × Exchange σ :=
  x.reset.answer
    ⟨ReplyCode.pathnameCreated, "\"" ++ toString x.client.cursor.current ++ "\" is current directory."⟩

/-- Answers with a fact about an existing directory. -/
def describe (x : Exchange σ) (argument : String) (fact : String) : Sent × Exchange σ :=
  if x.tree.contains (x.lookup argument) then x.answer ⟨ReplyCode.fileStatus, fact⟩
  else x.answer (Reply.noSuchDirectory argument)

/-- `SIZE`. -/
def size (x : Exchange σ) (argument : String) : Sent × Exchange σ :=
  x.describe argument (toString (Entry.facts ⟨x.lookup argument⟩).size)

/-- `MDTM`. No times are stored, so every directory was modified just now. -/
def modificationTime (x : Exchange σ) (argument : String) : Sent × Exchange σ :=
  x.describe argument (String.ofList (DateTime.ofSeconds (x.circumstances.clock 0)).compactChars)

/-- `HELP`. -/
def help (x : Exchange σ) (argument : Option String) : Sent × Exchange σ :=
  x.reset.answer (HelpIndex.served.replyFor argument)

/-- A command that is refused. -/
def reject (x : Exchange σ) (text : String) : Sent × Exchange σ :=
  x.reset.answer ⟨ReplyCode.commandNotImplemented, text⟩

end FtpIntake.Exchange
