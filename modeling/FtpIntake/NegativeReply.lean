import FtpIntake.Path
import FtpIntake.Reply

/-!
# Negative replies

A command that fails says why: a code, an optional topic that selects a wording, a message of its own, and the
path it was about. `NegativeReply.toReply` finds the words. A code and topic with a wording of their own use
that; otherwise the message stands, and without a message the general text of the code.

A wording may hold the placeholders `{path}` and `{message}`. The path is filled in first, so a message
placeholder that the path itself brings along is filled in as well.
-/

namespace FtpIntake

open Text

/-- Why a command failed, before it is put into words. -/
structure NegativeReply where
  code : Nat
  topic : Option String
  message : Option String
  path : Option Path

namespace NegativeReply

/-- The topic of uploads. -/
def uploadTopic : String := "STOR"

/-- The topic of an upload whose target is no file name. -/
def invalidNameTopic : String := "STOR.invalid"

/-- The topic of an upload whose target must not be written. -/
def permissionTopic : String := "STOR.permission"

/-- The wording of a code and a topic, if they have one. -/
def wording? (code : Nat) (topic : String) : Option String :=
  if topic = uploadTopic then
    match code with
    | 501 => some "Syntax error in parameters or arguments."
    | 425 => some "Can't open data connection."
    | 421 => some "Service shutting down, upload of \x7bpath\x7d abandoned."
    | 426 => some "Data connection closed, upload of \x7bpath\x7d aborted."
    | 451 => some "\x7bpath\x7d: Local error in processing."
    | _ => none
  else if topic = invalidNameTopic ∧ code = ReplyCode.actionNotTaken then
    some "\x7bmessage\x7d: Not a valid file name."
  else if topic = permissionTopic ∧ code = ReplyCode.actionNotTaken then
    some "\x7bpath\x7d: Permission denied."
  else none

/-- What stands for the path in a wording. -/
def pathPlaceholder : List Char := "\x7bpath\x7d".toList

/-- What stands for the message in a wording. -/
def messagePlaceholder : List Char := "\x7bmessage\x7d".toList

/-- Fills a wording with a path and then with a message. -/
def fill (wording path message : List Char) : List Char :=
  replaceAll messagePlaceholder message (replaceAll pathPlaceholder path wording)

/-- The failure's own message, or nothing. -/
def messageText (n : NegativeReply) : String :=
  n.message.getD ""

/-- The text of the path, or the message where there is no path. -/
def pathText (n : NegativeReply) : String :=
  match n.path with
  | some path => path.toString
  | none => n.messageText

/-- The words of the reply. -/
def text (n : NegativeReply) : String :=
  match n.topic.bind (wording? n.code) with
  | some wording => String.ofList (fill wording.toList n.pathText.toList n.messageText.toList)
  | none => if n.messageText.isEmpty then ReplyCode.defaultMessage n.code else n.messageText

/-- The reply that reports the failure. -/
def toReply (n : NegativeReply) : Reply :=
  ⟨n.code, n.text⟩

/-- The failure on one line: the code and the words. -/
protected def toString (n : NegativeReply) : String :=
  toString n.code ++ " " ++ n.text

end NegativeReply

end FtpIntake
