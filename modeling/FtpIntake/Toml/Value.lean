import FtpIntake.Setting.Basic
import FtpIntake.Toml.Moment

/-!
# Values of a TOML document

A value as it is written, and the setting that it stands for. A table is the list of its pairs; whether they go together
is only asked when the setting is needed, and so is whether a date is one.

One name is reserved for dates. A table that begins with it is the date that stands behind it as a text, and the other
pairs of that table do not count. `Pairs.table?` states the rule.
-/

namespace FtpIntake.Toml

/-- A value as it is written. -/
inductive Value where
  /-- A number, a truth value or a text. -/
  | plain (setting : Setting)
  | date (text : List Char)
  | array (items : List Value)
  /-- A table: one between braces, or one that dotted keys made. -/
  | table (dotted : Bool) (pairs : List (String × Value))

/-- Pairs of a name and a value, in the order in which they are written. -/
abbrev Pairs := Fields Value

/-- Adds a pair under a dotted key. The names before the last one lead through tables that dotted keys made. -/
def Pairs.add (pairs : Pairs) (key : List String) (value : Value) : Option Pairs :=
  match key with
  | [] => none
  | [name] => some (pairs ++ [(name, value)])
  | name :: key =>
    match pairs.get? name with
    | none => (Pairs.add [] key value).map fun inner => pairs ++ [(name, .table true inner)]
    -- a table between braces is closed; only one that dotted keys made can be added to
    | some (.table true inner) => (Pairs.add inner key value).map fun inner => pairs.put name (.table true inner)
    | some _ => none

/-! ## The setting of a value -/

/-- The name that is reserved for dates. -/
def dateName : String := "$__toml_private_datetime"

/-- The setting that the text of a date stands for: the same date, written the canonical way. -/
def dateSetting? (text : List Char) : Option Setting :=
  (Moment.ofText? text).map fun moment => .text (String.ofList moment.text)

/-- The date that a value gives behind the reserved name, which only a text does. -/
def Value.namedDate? : Value → Option Setting
  | .plain (.text text) => dateSetting? text.toList
  | _ => none

mutual

/-- The setting that a value stands for. -/
def Value.setting? : Value → Option Setting
  | .plain setting => some setting
  | .date text => dateSetting? text
  | .array items => (Value.settings? items).map .sequence
  | .table _ pairs => Pairs.table? [] pairs

/-- The settings that values stand for. -/
def Value.settings? : List Value → Option (List Setting)
  | [] => some []
  | value :: rest => do return (← value.setting?) :: (← Value.settings? rest)

/-- The table that pairs make together with the fields found before them. No name may come twice. If nothing was found
before the reserved name, the table is a date instead. -/
def Pairs.table? (found : Settings) : List (String × Value) → Option Setting
  | [] => some (.table found)
  | (name, value) :: rest =>
    -- only in the first place is the name reserved
    if found.isEmpty ∧ name = dateName then value.namedDate?
    else if (found.get? name).isSome then none
    else do Pairs.table? (found.put name (← value.setting?)) rest

end

end FtpIntake.Toml
