import FtpIntake.Text.Numeral
import FtpIntake.Text.Pieces

/-!
# Replies

A `Reply` is a three-digit code and a message. `Reply.wire` is its form on the control connection: one line with
the code and a space in front, or, when the message has several lines, the code and a hyphen on the first line,
the code and a space on the last one, and the lines between as they are. Every line ends in a carriage return
and a line feed.
-/

namespace FtpIntake

open Text

/-! ## Codes -/

namespace ReplyCode

abbrev fileStatusOkay : Nat := 150
abbrev okay : Nat := 200
abbrev systemStatus : Nat := 211
abbrev fileStatus : Nat := 213
abbrev helpMessage : Nat := 214
abbrev systemType : Nat := 215
abbrev ready : Nat := 220
abbrev closingControlConnection : Nat := 221
abbrev dataConnectionOpen : Nat := 225
abbrev closingDataConnection : Nat := 226
abbrev enteringPassiveMode : Nat := 227
abbrev enteringExtendedPassiveMode : Nat := 229
abbrev loggedIn : Nat := 230
abbrev fileActionOkay : Nat := 250
abbrev pathnameCreated : Nat := 257
abbrev passwordRequired : Nat := 331
abbrev serviceNotAvailable : Nat := 421
abbrev cannotOpenDataConnection : Nat := 425
abbrev transferAborted : Nat := 426
abbrev localError : Nat := 451
abbrev commandUnrecognized : Nat := 500
abbrev argumentError : Nat := 501
abbrev commandNotImplemented : Nat := 502
abbrev badSequence : Nat := 503
abbrev parameterNotImplemented : Nat := 504
abbrev notLoggedIn : Nat := 530
abbrev actionNotTaken : Nat := 550

/-- The general text of a code, for replies that have nothing more to say. Most codes have none. -/
def defaultMessage : Nat → String
  | 150 => "File status okay; about to open data connection."
  | 226 => "Closing data connection."
  | 421 => "Service not available, closing control connection."
  | 425 => "Can't open data connection."
  | 426 => "Connection closed; transfer aborted."
  | 451 => "Requested action aborted: local error in processing."
  | 500 => "Syntax error, command unrecognized."
  | 501 => "Syntax error in parameters or arguments."
  | 502 => "Command not implemented."
  | 503 => "Bad sequence of commands."
  | 530 => "Not logged in."
  | 550 => "Requested action not taken."
  | _ => ""

end ReplyCode

/-! ## Replies and their wire form -/

/-- One answer on the control connection. -/
structure Reply where
  code : Nat
  message : String
  deriving DecidableEq

namespace Reply

/-- The reply with a code's general text. -/
def ofCode (code : Nat) : Reply := ⟨code, ReplyCode.defaultMessage code⟩

/-- Ends every line on the wire. -/
def lineEnd : List Char := ['\r', '\n']

/-- A line that ends a reply: the code, a space and the text. -/
def finalLine (code : Nat) (text : List Char) : List Char :=
  numeral code ++ ' ' :: text ++ lineEnd

/-- A line that opens a reply of several lines: the code, a hyphen and the text. -/
def openingLine (code : Nat) (text : List Char) : List Char :=
  numeral code ++ '-' :: text ++ lineEnd

/-- The characters sent for a message with the given lines, when there are at least two of them. -/
def severalLines (code : Nat) (first : List Char) (between : List (List Char)) (last : List Char) :
    List Char :=
  openingLine code first ++ between.flatMap (· ++ lineEnd) ++ finalLine code last

/-- The characters sent for a reply. A message of fewer than two lines is sent as it stands. -/
def wireChars (r : Reply) : List Char :=
  match lines r.message.toList with
  | first :: second :: rest =>
    severalLines r.code first (second :: rest).dropLast ((second :: rest).getLastD [])
  | _ => finalLine r.code r.message.toList

/-- The text sent for a reply. -/
def wire (r : Reply) : String :=
  String.ofList r.wireChars

/-- The text of a one-line reply whose message is not cut into lines. -/
def singleLine (r : Reply) : String :=
  String.ofList (finalLine r.code r.message.toList)

end Reply

end FtpIntake
