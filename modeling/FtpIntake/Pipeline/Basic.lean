import FtpIntake.Fault

/-!
# Pipelines

Uploads are handed to a pipeline. A pipeline opens *work sessions*; in a work session units are created, filled
with bytes, given attributes and routed to a relationship, and nothing of it can be seen downstream until the
work session is committed. A rollback throws its units away.

`Pipeline σ` says what a pipeline with the state `σ` answers to each call. Every call may fail except opening a
work session, creating a unit and rolling back. `PipelineCall` is a call as a value, for records of what was
called.
-/

namespace FtpIntake

/-- Contents, in order. -/
abbrev Bytes : Type := List UInt8

/-- Names a work session. -/
abbrev WorkId : Type := Nat

/-- Names a unit of work. -/
abbrev UnitId : Type := Nat

/-- The calls that work sessions understand, with the state of the pipeline as argument and result. -/
class Pipeline (σ : Type) where
  openWork : σ → WorkId × σ
  createUnit : WorkId → σ → UnitId × σ
  write : WorkId → UnitId → Bytes → σ → Except PipelineFault Unit × σ
  putAttribute : WorkId → UnitId → (key value : String) → σ → Except PipelineFault Unit × σ
  transfer : WorkId → UnitId → (relationship : String) → σ → Except PipelineFault Unit × σ
  commit : WorkId → σ → Except PipelineFault Unit × σ
  rollback : WorkId → σ → σ

/-- A call of a pipeline. -/
inductive PipelineCall where
  | openWork
  | createUnit (unit : UnitId)
  | write (unit : UnitId) (bytes : Bytes)
  | putAttribute (unit : UnitId) (key value : String)
  | transfer (unit : UnitId) (relationship : String)
  | commit
  | rollback
  deriving DecidableEq

/-- The relationship that every complete upload is routed to. -/
def successRelationship : String := "success"

/-- The attribute that holds the name of the stored entry. -/
def filenameAttribute : String := "filename"

/-- The attribute that holds the directory of the stored entry, with a slash at its end. -/
def pathAttribute : String := "path"

end FtpIntake
