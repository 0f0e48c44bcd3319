import FtpIntake.Text.Blank

/-!
# Requests

A `Request` is a command line taken apart: a verb in upper case and, if there is one, an argument.
`Request.ofLine` reads it off a line as it came over the control connection, with or without its line end, and
`Request.line` writes a line that is read back as the same request.
-/

namespace FtpIntake

open Text

/-- A verb and its argument. -/
structure Request where
  verb : String
  argument : Option String
  deriving DecidableEq

namespace Request

/-- Raises ASCII letters and leaves every other character alone. -/
def upperCase (s : List Char) : List Char :=
  s.map Char.toUpper

/-- The request of a verb, in any case, and an argument that is kept as it is. -/
def make (verb : String) (argument : Option String) : Request :=
  ⟨String.ofList (upperCase verb.toList), argument⟩

/-- The verb of a line: its first word, after the white space in front. -/
def verbOf (line : List Char) : List Char :=
  upperCase (firstWord (trimStart (dropLineEnd line)))

/-- The argument of a line: what follows the blank after the verb, trimmed, unless nothing is left of it. -/
def argumentOf (line : List Char) : Option (List Char) :=
  (afterFirstBlank (trimStart (dropLineEnd line))).bind fun rest =>
    if (trim rest).isEmpty then none else some (trim rest)

/-- Reads a command line. -/
def ofLine (line : String) : Request where
  verb := String.ofList (verbOf line.toList)
  argument := (argumentOf line.toList).map String.ofList

/-- Writes a command line: the verb, a space and the argument if there is one, and the line end. -/
def line (r : Request) : String :=
  match r.argument with
  | none => r.verb ++ "\r\n"
  | some argument => r.verb ++ " " ++ argument ++ "\r\n"

end Request

end FtpIntake
