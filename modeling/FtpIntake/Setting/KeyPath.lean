import FtpIntake.Setting.Basic
import FtpIntake.Text.Pieces

/-!
# Where a setting is written to

A name at the top of a source may lead into a table or a sequence: `limits.clients` is the field `clients` of the
table `limits`, and `hosts[0]` the first item of the sequence `hosts`. On the way, whatever is no table becomes one
where a field is named, and whatever is no sequence where an item is.

A table that is written to a place does not replace what is there. Its fields are written to the place one by one.
-/

namespace FtpIntake

open Text

namespace Setting

/-! ## Writing to a field -/

mutual

/-- Writes a setting to a field. -/
def assign (name : String) (value : Setting) (target : Setting) : Setting :=
  match value with
  -- field by field, so what is there already stays unless it is named
  | .table entries =>
    .table (target.fields.put name (assignAll entries ((target.fields.get? name).getD (.table []))))
  | value => .table (target.fields.put name value)

/-- Writes each of some settings to its field. -/
def assignAll (entries : List (String × Setting)) (target : Setting) : Setting :=
  match entries with
  | [] => target
  | (name, value) :: rest => assignAll rest (assign name value target)

end

/-! ## Writing to an item -/

/-- The position that an index names in a sequence of a given length. Negative ones count from the end. -/
def position (length : Nat) (index : Int) : Nat :=
  -- a negative index beyond the front is the first item
  if 0 ≤ index then index.toNat else length - index.natAbs

/-- Changes an item. The sequence grows as far as needed. -/
def changeItem (index : Int) (change : Setting → Setting) (target : Setting) : Setting :=
  let items := target.items
  let i := position items.length index
  -- what is skipped is written as missing
  let items := items ++ List.replicate (i + 1 - items.length) .missing
  .sequence (items.modify i change)

end Setting

/-- One step towards a place in a tree of settings. -/
inductive KeyStep where
  | field (name : String)
  | item (index : Int)
  deriving DecidableEq

/-- A place in a tree of settings: a field of the topmost table, and the steps from there. -/
structure KeyPath where
  name : String
  steps : List KeyStep
  deriving DecidableEq

namespace KeyPath

/-! ## Reading

A name is read as a path if it is built like one, and is a plain name otherwise. -/

/-- The characters of a name. -/
def isNameChar (c : Char) : Bool :=
  c.isAlphanum || c == ' ' || c == '_' || c == '-'

/-- Reads an index between brackets, blanks around it allowed. -/
def readIndex (s : List Char) : Option Int :=
  let isSpace := fun c => c == ' ' || c == '\t'
  let s := dropEndWhile isSpace (s.dropWhile isSpace)
  match s with
  | '+' :: _ => none
  | s => readSigned64 s

/-- Reads the steps that follow the first name. -/
def readSteps (s : List Char) : Option (List KeyStep) :=
  match s with
  | [] => some []
  | '.' :: r =>
    let name := r.takeWhile isNameChar
    if name.isEmpty then none
    else (readSteps (r.dropWhile isNameChar)).map (.field (String.ofList name) :: ·)
  | '[' :: r =>
    -- an index that is not closed spoils the whole path, not only this step
    if r.contains ']' then
      match readIndex (r.takeWhile (· != ']')) with
      | some index => (readSteps ((r.dropWhile (· != ']')).drop 1)).map (.item index :: ·)
      | none => none
    else none
  | _ :: _ => none
termination_by s.length
decreasing_by
  · have := (List.dropWhile_sublist isNameChar (l := r)).length_le
    simp only [List.length_cons]
    omega
  · have := (List.dropWhile_sublist (· != ']') (l := r)).length_le
    simp only [List.length_drop, List.length_cons]
    omega

/-- The place that a name stands for. A name that is not built as a path is the plain name of a field. -/
def ofString (s : String) : KeyPath :=
  let name := s.toList.takeWhile isNameChar
  match readSteps (s.toList.dropWhile isNameChar) with
  -- a path has to begin with a name
  | some steps => if name.isEmpty then ⟨s, []⟩ else ⟨String.ofList name, steps⟩
  | none => ⟨s, []⟩

/-! ## Writing

Each step goes one level down, and makes there what it needs. -/

/-- Writes a setting to a place below a target. -/
def writeSteps (step : KeyStep) (steps : List KeyStep) (value : Setting) (target : Setting) : Setting :=
  match step, steps with
  | .field name, [] => Setting.assign name value target
  -- an item is replaced, also by a table
  | .item index, [] => Setting.changeItem index (fun _ => value) target
  | .field name, next :: rest =>
    .table (target.fields.put name (writeSteps next rest value ((target.fields.get? name).getD .missing)))
  | .item index, next :: rest => Setting.changeItem index (writeSteps next rest value) target

/-- Writes a setting to a place. -/
def write (path : KeyPath) (value : Setting) (settings : Settings) : Settings :=
  (writeSteps (.field path.name) path.steps value (.table settings)).fields

end KeyPath

/-- Writes each setting of a source to the place that its name stands for. -/
def Settings.writeAll (source settings : Settings) : Settings :=
  source.foldl (fun settings (name, value) => (KeyPath.ofString name).write value settings) settings

end FtpIntake
