import FtpIntake.Decimal.Literal
import FtpIntake.Setting.KeyPath

/-!
# Settings from the environment

A variable whose name begins with the server's prefix, in any case, is a setting. The rest of the name is the name of
the setting, in lower case; a doubled underscore leads into a table. What the text of the variable looks like decides
the type of the setting.
-/

namespace FtpIntake

open Text

namespace Setting

/-- The setting that the text of a variable stands for. -/
def ofText (value : String) : Setting :=
  let word := value.toList.map Char.toLower
  if word = "true".toList then .boolean true
  else if word = "false".toList then .boolean false
  else
    match readSigned64 value.toList, Binary64.ofText? value.toList with
    | some n, _ => .integer n
    | none, some x => .real x
    | none, none => .text value

end Setting

namespace Settings

/-- What the names of the server's variables begin with, in lower case. -/
def environmentPrefix : List Char := "listen_ftp_".toList

/-- A character of a name in lower case. The Kelvin sign is the one character outside ASCII whose lower case is a letter
of ASCII. All the others may stay as they are, because no field has one in its name. -/
def lowerNameChar (c : Char) : Char :=
  if c = '\u212a' then 'k' else c.toLower

/-- The setting of a variable, if it is one of the server's. -/
def ofVariable? (name value : String) : Option (String × Setting) :=
  let name := name.toList.map lowerNameChar
  if environmentPrefix.isPrefixOf name then
    some (String.ofList (replaceAll "__".toList ".".toList (name.drop environmentPrefix.length)),
      Setting.ofText value)
  else none

/-- The settings of the server's variables. Of several with one name the last one counts. -/
def ofEnvironment (environment : List (String × String)) : Settings :=
  (environment.filterMap (fun (name, value) => ofVariable? name value)).foldl
    (fun settings (name, value) => settings.put name value) []

end Settings

end FtpIntake
