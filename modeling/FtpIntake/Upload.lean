import FtpIntake.DataStream
import FtpIntake.NegativeReply

/-!
# Uploads

What happens to an upload once a work session can be had: a unit is created, everything that arrives on the data
connection is written to it, it is given its two attributes and its route, and the work session is committed.
A failure on the way rolls the work session back, except that a failed commit has ended it already.

Each stage has the data that the later ones need: the work session, the unit, how many bytes were received, and a chunk
that was read and is still to be written. The lemmas `step_opening` to `step_ended` say what a step does in each stage,
one for each way in which a read or a call can come out, and nothing else needs to look into `Upload.step`.

An `Upload` takes one step at a time, and each step makes at most one call of the pipeline, so that the steps of
several uploads on one pipeline can be interleaved. `UploadRun.finish` takes all of them in a row.
-/

namespace FtpIntake

/-- How an upload ends. -/
inductive UploadEnd where
  /-- Committed, with the number of bytes received. -/
  | complete (received : Nat)
  /-- The client's side of the data connection was lost. -/
  | connectionLost
  /-- Reading, the pipeline or the commit failed. -/
  | localError
  deriving DecidableEq

/-- Where an upload stands. `work` and `unit` are its work session and its unit. -/
inductive UploadStage where
  | opening
  | creating (work : WorkId)
  | reading (work : WorkId) (unit : UnitId) (received : Nat)
  | writing (work : WorkId) (unit : UnitId) (received : Nat) (chunk : Bytes)
  | naming (work : WorkId) (unit : UnitId) (received : Nat)
  | placing (work : WorkId) (unit : UnitId) (received : Nat)
  | routing (work : WorkId) (unit : UnitId) (received : Nat)
  | committing (work : WorkId) (received : Nat)
  | rollingBack (work : WorkId) (ending : UploadEnd)
  | ended (ending : UploadEnd)

/-- An upload in progress. -/
structure Upload where
  target : Path
  /-- How many bytes a read asks for. A read always asks for at least one. -/
  chunkSize : Nat
  stream : DataStream
  stage : UploadStage := .opening

/-- A call that an upload made, and whether it succeeded. -/
structure CallRecord where
  call : PipelineCall
  succeeded : Bool
  deriving DecidableEq

namespace Upload

/-- Whether a read failed because the connection was lost. -/
def isConnectionLoss : IoKind → Bool
  | .connectionReset | .connectionAborted | .brokenPipe | .unexpectedEof | .notConnected => true
  | _ => false

/-- How an upload ends whose data connection fails with the given kind. -/
def endOfReadFault (kind : IoKind) : UploadEnd :=
  if isConnectionLoss kind then .connectionLost else .localError

/-- The reply to the end of an upload. -/
def replyTo (target : Path) : UploadEnd → Reply
  | .complete received =>
    ⟨ReplyCode.closingDataConnection, "Transfer complete (" ++ toString received ++ " bytes)."⟩
  | .connectionLost =>
    (NegativeReply.mk ReplyCode.transferAborted NegativeReply.uploadTopic none target).toReply
  | .localError =>
    (NegativeReply.mk ReplyCode.localError NegativeReply.uploadTopic none target).toReply

/-- The bytes that are still to be read, which bound the number of steps that are left. -/
def unread (u : Upload) : Nat :=
  u.stream.content.length

variable {σ : Type} [Pipeline σ]

/-- The upload at another stage. -/
def toStage (u : Upload) (stage : UploadStage) : Upload :=
  { u with stage }

/-- The stage after a call that may fail: the next one, or `otherwise`. -/
def afterCall (u : Upload) (call : PipelineCall) (next otherwise : UploadStage)
    (result : Except PipelineFault Unit × σ) : Option CallRecord × Upload × σ :=
  match result with
  | (.ok (), s) => (some ⟨call, true⟩, u.toStage next, s)
  -- what kind of fault it was plays no part in what follows
  | (.error _, s) => (some ⟨call, false⟩, u.toStage otherwise, s)

/-- Takes one step: the call it makes, if any, the upload afterwards, and the pipeline afterwards. -/
def step (u : Upload) (s : σ) : Option CallRecord × Upload × σ :=
  match u.stage with
  | .opening =>
    let (work, s) := Pipeline.openWork s
    (some ⟨.openWork, true⟩, u.toStage (.creating work), s)
  | .creating work =>
    let (unit, s) := Pipeline.createUnit work s
    (some ⟨.createUnit unit, true⟩, u.toStage (.reading work unit 0), s)
  -- a read of nothing would look like the end of the data
  | .reading work unit received =>
    match u.stream.read (max u.chunkSize 1) with
    | (.bytes b bs, stream) =>
      (none, { u with stream, stage := .writing work unit received (b :: bs) }, s)
    | (.finished, stream) => (none, { u with stream, stage := .naming work unit received }, s)
    | (.failed kind, stream) =>
      (none, { u with stream, stage := .rollingBack work (endOfReadFault kind) }, s)
  | .writing work unit received chunk =>
    u.afterCall (.write unit chunk) (.reading work unit (received + chunk.length))
      (.rollingBack work .localError) (Pipeline.write work unit chunk s)
  | .naming work unit received =>
    u.afterCall (.putAttribute unit filenameAttribute u.target.fileName) (.placing work unit received)
      (.rollingBack work .localError)
      (Pipeline.putAttribute work unit filenameAttribute u.target.fileName s)
  | .placing work unit received =>
    u.afterCall (.putAttribute unit pathAttribute u.target.containerText) (.routing work unit received)
      (.rollingBack work .localError)
      (Pipeline.putAttribute work unit pathAttribute u.target.containerText s)
  | .routing work unit received =>
    u.afterCall (.transfer unit successRelationship) (.committing work received)
      (.rollingBack work .localError) (Pipeline.transfer work unit successRelationship s)
  -- no way leads from here to a rollback
  | .committing work received =>
    u.afterCall .commit (.ended (.complete received)) (.ended .localError) (Pipeline.commit work s)
  | .rollingBack work ending =>
    (some ⟨.rollback, true⟩, u.toStage (.ended ending), Pipeline.rollback work s)
  | .ended _ => (none, u, s)

/-! ### The steps, stage by stage -/

section Stages

variable {u : Upload} {work : WorkId} {unit : UnitId} {received : Nat}

/-- A work session is opened, which cannot fail. -/
theorem step_opening (h : u.stage = .opening) (s : σ) :
    u.step s =
      (some ⟨.openWork, true⟩, u.toStage (.creating (Pipeline.openWork s).1), (Pipeline.openWork s).2) := by
  rw [step, h]

/-- A unit is created in it, with a number that the pipeline gives. -/
theorem step_creating (h : u.stage = .creating work) (s : σ) :
    u.step s = (some ⟨.createUnit (Pipeline.createUnit work s).1, true⟩,
      u.toStage (.reading work (Pipeline.createUnit work s).1 0), (Pipeline.createUnit work s).2) := by
  rw [step, h]

/-- A read that gives bytes leads on to the write of these bytes. -/
theorem step_reading_bytes (h : u.stage = .reading work unit received) {b : UInt8} {bs : Bytes} {stream : DataStream}
    (hread : u.stream.read (max u.chunkSize 1) = (.bytes b bs, stream)) (s : σ) :
    u.step s = (none, { u with stream, stage := .writing work unit received (b :: bs) }, s) := by
  rw [step, h, hread]

/-- The end of the data is reached, and no call is made. -/
theorem step_reading_finished (h : u.stage = .reading work unit received)
    (hread : u.stream.read (max u.chunkSize 1) = (.finished, u.stream)) (s : σ) :
    u.step s = (none, u.toStage (.naming work unit received), s) := by
  rw [step, h, hread]
  rfl

/-- A read fails, and its kind decides how the upload will end. -/
theorem step_reading_failed (h : u.stage = .reading work unit received) {kind : IoKind}
    (hread : u.stream.read (max u.chunkSize 1) = (.failed kind, u.stream)) (s : σ) :
    u.step s = (none, u.toStage (.rollingBack work (endOfReadFault kind)), s) := by
  rw [step, h, hread]
  rfl

/-- What was read is written, and counted if it could be. -/
theorem step_writing {chunk : Bytes} (h : u.stage = .writing work unit received chunk) (s : σ) :
    u.step s = u.afterCall (.write unit chunk) (.reading work unit (received + chunk.length))
      (.rollingBack work .localError) (Pipeline.write work unit chunk s) := by
  rw [step, h]

/-- The unit is named after the last name of the target. -/
theorem step_naming (h : u.stage = .naming work unit received) (s : σ) :
    u.step s = u.afterCall (.putAttribute unit filenameAttribute u.target.fileName) (.placing work unit received)
      (.rollingBack work .localError)
      (Pipeline.putAttribute work unit filenameAttribute u.target.fileName s) := by
  rw [step, h]

/-- It is told the directory that the target is in. -/
theorem step_placing (h : u.stage = .placing work unit received) (s : σ) :
    u.step s = u.afterCall (.putAttribute unit pathAttribute u.target.containerText) (.routing work unit received)
      (.rollingBack work .localError)
      (Pipeline.putAttribute work unit pathAttribute u.target.containerText s) := by
  rw [step, h]

/-- It is routed to whoever takes what has arrived. -/
theorem step_routing (h : u.stage = .routing work unit received) (s : σ) :
    u.step s = u.afterCall (.transfer unit successRelationship) (.committing work received)
      (.rollingBack work .localError) (Pipeline.transfer work unit successRelationship s) := by
  rw [step, h]

/-- A failed commit has ended the work session, so that no rollback follows. -/
theorem step_committing (h : u.stage = .committing work received) (s : σ) :
    u.step s = u.afterCall .commit (.ended (.complete received)) (.ended .localError) (Pipeline.commit work s) := by
  rw [step, h]

/-- A rollback cannot fail. It ends the upload with what made it necessary. -/
theorem step_rollingBack {ending : UploadEnd} (h : u.stage = .rollingBack work ending) (s : σ) :
    u.step s = (some ⟨.rollback, true⟩, u.toStage (.ended ending), Pipeline.rollback work s) := by
  rw [step, h]

/-- An upload that has ended does nothing any more. -/
theorem step_ended {ending : UploadEnd} (h : u.stage = .ended ending) (s : σ) : u.step s = (none, u, s) := by
  rw [step, h]

end Stages

/-- A number of steps that is enough: two for each byte that is still to be read, and the ones around them. -/
def enough (u : Upload) : Nat :=
  -- a read and a write for each byte at worst
  2 * u.unread + 9

/-- How an upload that was run to its end has ended. -/
def ending (u : Upload) : UploadEnd :=
  match u.stage with
  | .ended ending => ending
  | _ => .localError

end Upload

/-! ## Running an upload by itself

What an exchange does with an upload: all of its steps in a row. -/

/-- An upload, its pipeline, and the calls it has made, the last one first. -/
structure UploadRun (σ : Type) where
  upload : Upload
  pipeline : σ
  calls : List CallRecord := []

namespace UploadRun

variable {σ : Type} [Pipeline σ]

/-- The run after one step. -/
def advance (r : UploadRun σ) : UploadRun σ :=
  let (call, upload, pipeline) := r.upload.step r.pipeline
  ⟨upload, pipeline, call.toList ++ r.calls⟩

/-- The run after a number of steps. -/
def after : Nat → UploadRun σ → UploadRun σ
  | 0, r => r
  | n + 1, r => after n r.advance

/-- The run after all of the upload's steps. -/
def finish (r : UploadRun σ) : UploadRun σ :=
  after r.upload.enough r

end UploadRun

end FtpIntake
