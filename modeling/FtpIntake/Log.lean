import FtpIntake.Text.Blank

/-!
# Log records

What the server writes to its log about connections and commands. The argument of `PASS` is never written out:
the record shows the verb and four asterisks.
-/

namespace FtpIntake

open Text

/-- How serious a record is. -/
inductive LogLevel where
  | info
  | error
  deriving DecidableEq

/-- One entry of the log. -/
structure LogRecord where
  level : LogLevel
  text : String
  deriving DecidableEq

namespace LogRecord

/-- Whether a word is `PASS` in any case. -/
def isPassWord (word : List Char) : Bool :=
  word.map Char.toLower == ['p', 'a', 's', 's']

/--
The part of a command line that may be shown. A line without a blank holds no argument and is shown whole, and
so is every line whose first word is not `PASS`.
-/
def redact (line : List Char) : List Char :=
  let line := dropLineEnd line
  if (afterFirstBlank line).isSome && isPassWord (firstWord line) then
    firstWord line ++ [' ', '*', '*', '*', '*']
  else line

/-- The record of a new connection. -/
def connected (client : String) : LogRecord :=
  ⟨.info, "Client connected: " ++ client⟩

/-- The record of a command line that is about to be executed. -/
def executed (client line : String) : LogRecord :=
  ⟨.info, "Client " ++ client ++ " executed: " ++ String.ofList (redact line.toList)⟩

end LogRecord

end FtpIntake
