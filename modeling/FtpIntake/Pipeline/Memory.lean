import FtpIntake.Pipeline.Basic

/-!
# The pipeline in memory

Keeps committed units in a list, in the order of the commits. Units are numbered across all work sessions from 1
on, so a work session's own units have increasing numbers in the order in which it created them.
-/

namespace FtpIntake

/-- A unit of work. Its content is kept as the pieces that were written, the last one first. -/
structure FlowUnit where
  id : UnitId
  pieces : List Bytes := []
  attributes : List (String × String) := []
  relationship : Option String := none
  deriving DecidableEq

namespace FlowUnit

/-- Everything written to the unit, in order. -/
def content (u : FlowUnit) : Bytes :=
  u.pieces.reverse.flatten

/-- How many bytes the unit holds. -/
def size (u : FlowUnit) : Nat :=
  u.content.length

/-- The value of an attribute. -/
def attribute? (u : FlowUnit) (key : String) : Option String :=
  u.attributes.lookup key

/-- Appends bytes. -/
def append (u : FlowUnit) (bytes : Bytes) : FlowUnit :=
  { u with pieces := bytes :: u.pieces }

/-- Sets an attribute; an earlier value is replaced. -/
def setAttribute (u : FlowUnit) (key value : String) : FlowUnit :=
  { u with attributes := (key, value) :: u.attributes.filter fun row => row.1 != key }

/-- Routes the unit; an earlier route is replaced. -/
def route (u : FlowUnit) (relationship : String) : FlowUnit :=
  { u with relationship := some relationship }

@[simp] theorem content_append (u : FlowUnit) (bytes : Bytes) :
    (u.append bytes).content = u.content ++ bytes := by
  simp [content, append]

@[simp] theorem attribute?_setAttribute (u : FlowUnit) (key value k : String) :
    (u.setAttribute key value).attribute? k = if k = key then some value else u.attribute? k := by
  simp only [attribute?, setAttribute, List.lookup_cons]
  by_cases h : k = key
  · simp [h]
  · have hk : (k == key) = false := by simpa using h
    simp only [hk, h, if_false]
    induction u.attributes with
    | nil => rfl
    | cons row rows ih =>
      obtain ⟨a, b⟩ := row
      by_cases ha : a = key
      · have : (k == a) = false := by simpa [ha] using h
        simpa [ha, List.lookup_cons, hk] using ih
      · simp only [List.filter_cons, bne_iff_ne, ne_eq, ha, not_false_eq_true, if_true, List.lookup_cons, ih]

end FlowUnit

/-- The state of the pipeline. -/
structure Memory where
  lastUnit : UnitId := 0
  worksOpened : Nat := 0
  rollbacks : Nat := 0
  committed : List FlowUnit := []
  /-- The open work sessions with their units, oldest unit first. -/
  openWorks : List (WorkId × List FlowUnit) := []

namespace Memory

instance : Inhabited Memory := ⟨{}⟩

/-- The units of an open work session. -/
def unitsOf (m : Memory) (work : WorkId) : List FlowUnit :=
  (m.openWorks.lookup work).getD []

/-- Whether a work session has been opened and has not ended. -/
def isOpen (m : Memory) (work : WorkId) : Bool :=
  (m.openWorks.lookup work).isSome

/-- Replaces the units of a work session. -/
def setUnits (m : Memory) (work : WorkId) (units : List FlowUnit) : Memory :=
  { m with openWorks := m.openWorks.map fun row => if row.1 = work then (work, units) else row }

/-- Forgets a work session and its units without counting a rollback. -/
def drop (m : Memory) (work : WorkId) : Memory :=
  { m with openWorks := m.openWorks.filter fun row => row.1 != work }

/-- Opens a work session. -/
def openWork (m : Memory) : WorkId × Memory :=
  (m.worksOpened,
    { m with worksOpened := m.worksOpened + 1, openWorks := (m.worksOpened, []) :: m.openWorks })

/-- Creates an empty unit in a work session. -/
def createUnit (m : Memory) (work : WorkId) : UnitId × Memory :=
  let id := m.lastUnit + 1
  -- numbers are given across work sessions and never again
  (id, { m.setUnits work (m.unitsOf work ++ [{ id := id }]) with lastUnit := id })

/-- Changes a unit that the work session created, or reports that it has no such unit. -/
def updateUnit (m : Memory) (work : WorkId) (unit : UnitId) (change : FlowUnit → FlowUnit) :
    Except PipelineFault Unit × Memory :=
  let units := m.unitsOf work
  -- only units of this work session are looked for, not those of others
  if units.any (·.id == unit) then
    (.ok (), m.setUnits work (units.map fun u => if u.id = unit then change u else u))
  else (.error (.unknownUnit unit), m)

/-- Why a work session cannot be committed: its first unit without a relationship, if there is one. -/
def unroutedFault? (units : List FlowUnit) : Option PipelineFault :=
  (units.find? fun u => u.relationship.isNone).map fun u =>
    .commit ("unit " ++ toString u.id ++ " was not transferred to any relationship")

/-- Ends a work session and publishes its units, or none of them if one is not routed. -/
def commit (m : Memory) (work : WorkId) : Except PipelineFault Unit × Memory :=
  match unroutedFault? (m.unitsOf work) with
  -- a failed commit ends the work session too, and it is not counted as a rollback
  | some fault => (.error fault, m.drop work)
  | none => (.ok (), { m.drop work with committed := m.committed ++ m.unitsOf work })

/-- Ends a work session and throws its units away. -/
def rollback (m : Memory) (work : WorkId) : Memory :=
  { m.drop work with rollbacks := m.rollbacks + 1 }

/-- The committed units that were routed to a relationship, in commit order. -/
def committedTo (m : Memory) (relationship : String) : List FlowUnit :=
  m.committed.filter fun u => u.relationship == some relationship

instance : Pipeline Memory where
  openWork m := m.openWork
  createUnit work m := m.createUnit work
  write work unit bytes m := m.updateUnit work unit (·.append bytes)
  putAttribute work unit key value m := m.updateUnit work unit (·.setAttribute key value)
  transfer work unit relationship m := m.updateUnit work unit (·.route relationship)
  commit work m := m.commit work
  rollback work m := m.rollback work

end Memory

end FtpIntake
