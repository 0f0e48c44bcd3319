import FtpIntake.Decimal.Shortest
import FtpIntake.Fault
import FtpIntake.Setting.Fields
import FtpIntake.Text.Quoted

/-!
# Settings

What a source of the configuration says: a tree of named values whose types are those of the source, not of the
configuration. A setting that the configuration needs as a whole number or as a text is converted as far as that makes
sense; `Setting.toNat` and `Setting.toText` state what does.
-/

namespace FtpIntake

open Text

/-- A configured value. -/
inductive Setting where
  /-- A place that nothing was written to, such as a skipped item of a sequence. -/
  | missing
  | boolean (value : Bool)
  | integer (value : Int)
  | real (value : Binary64)
  | text (value : String)
  | sequence (items : List Setting)
  | table (fields : List (String × Setting))

/-- Named settings. -/
abbrev Settings := Fields Setting

namespace Setting

/-! ## The parts of a setting -/

/-- The named values of a table. Every other setting has none. -/
def fields : Setting → Settings
  | .table fields => fields
  | _ => []

/-- The items of a sequence. Every other setting has none. -/
def items : Setting → List Setting
  | .sequence items => items
  | _ => []

/-! ## Conversion -/

/-- What a setting is called when it is of no use. -/
def label : Setting → String
  | .missing => "unit value"
  | .boolean value => "boolean `" ++ (if value then "true" else "false") ++ "`"
  | .integer value => "integer 64 bit `" ++ toString value ++ "`"
  | .real value => "floating point `" ++ String.ofList value.text ++ "`"
  | .text value => "string " ++ String.ofList (quoted value.toList)
  | .sequence _ => "sequence"
  | .table _ => "map"

/-- The words for yes and no, in lower case. -/
def truthOf? (word : String) : Option Bool :=
  if word ∈ ["true", "on", "yes"] then some true
  else if word ∈ ["false", "off", "no"] then some false
  else none

/--
The whole number that a setting stands for. A number with a fraction is rounded, and kept in range. A yes counts one
and a no nothing. Otherwise a text has to be an unsigned numeral.
-/
def toNat : Setting → Except ConfigFault Nat
  | .integer value =>
    if 0 ≤ value then .ok value.toNat
    else .error (.wrongType (label (.integer value)) "an unsigned 64 bit or less integer")
  | .real value => .ok (value.toNat maxUnsigned64)
  | .boolean value => .ok value.toNat
  | .text value =>
    -- the words for yes and no come first, then the numerals
    match truthOf? (String.ofList (value.toList.map Char.toLower)), readUnsigned maxUnsigned64 value.toList with
    | some truth, _ => .ok truth.toNat
    | none, some n => .ok n
    | none, none => .error (.wrongType (label (.text value)) "an integer")
  | setting => .error (.wrongType setting.label "an integer")

/-- The text that a setting stands for. Numbers and truth values are written out. -/
def toText : Setting → Except ConfigFault String
  | .text value => .ok value
  | .boolean value => .ok (if value then "true" else "false")
  | .integer value => .ok (toString value)
  | .real value => .ok (String.ofList value.text)
  | setting => .error (.wrongType setting.label "a string")

end Setting

end FtpIntake
