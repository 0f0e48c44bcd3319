import FtpIntake.Proofs.DataStream
import FtpIntake.Upload

/-!
# What the pipeline answers to an upload

The record that an upload keeps of its calls is worth something only if it is what the pipeline has been called, and
what it has answered. So the record can be played back: each call of it, made in turn in the upload's own work session,
is answered as the record says, and together they take the pipeline from where it was to where it is now. This holds of
any pipeline, also of one that answers at random.

* **`Pipeline.Answers`** is one call with its answer, and **`Pipeline.Replays`** is a whole record. Both keep account of
  the work session that is open: it comes from the call that opens it, and it is gone with the call that ends it.
* **`Upload.answers_step`** says that a step either makes no call, and then leaves the pipeline alone, or makes one and
  records its answer. It is the only place where the stages of an upload are looked at one by one.
* **`UploadRun.replays_after`** carries that over a whole run.
-/

namespace FtpIntake

/-- The work session that an upload has open. -/
def UploadStage.work? : UploadStage → Option WorkId
  | .opening | .ended _ => none
  | .creating work | .reading work _ _ | .writing work _ _ _ | .naming work _ _ | .placing work _ _
  | .routing work _ _ | .committing work _ | .rollingBack work _ => some work

/-! ## Records that can be played back

A call needs the work session that it is made in, and a record does not tell it. It is carried along: whoever plays
back a record begins without one and gets it from the first call. -/

namespace Pipeline

variable {σ : Type} [Pipeline σ]

/--
A call is made while the pipeline is in one state and a certain work session is open, if any. The pipeline answers as
the record says, and is then in another state, with another work session or none. Calls that cannot fail are recorded as
successful.
-/
inductive Answers : Option WorkId → σ → CallRecord → Option WorkId → σ → Prop where
  | openWork (s : σ) : Answers none s ⟨.openWork, true⟩ (some (openWork s).1) (openWork s).2
  | createUnit (work : WorkId) (s : σ) :
      Answers (some work) s ⟨.createUnit (createUnit work s).1, true⟩ (some work) (createUnit work s).2
  | write (work : WorkId) (unit : UnitId) (bytes : Bytes) (s : σ) :
      Answers (some work) s ⟨.write unit bytes, (write work unit bytes s).1.isOk⟩ (some work)
        (write work unit bytes s).2
  | putAttribute (work : WorkId) (unit : UnitId) (key value : String) (s : σ) :
      Answers (some work) s ⟨.putAttribute unit key value, (putAttribute work unit key value s).1.isOk⟩ (some work)
        (putAttribute work unit key value s).2
  | transfer (work : WorkId) (unit : UnitId) (relationship : String) (s : σ) :
      Answers (some work) s ⟨.transfer unit relationship, (transfer work unit relationship s).1.isOk⟩ (some work)
        (transfer work unit relationship s).2
  | commit (work : WorkId) (s : σ) :
      Answers (some work) s ⟨.commit, (commit work s).1.isOk⟩ none (commit work s).2
  | rollback (work : WorkId) (s : σ) : Answers (some work) s ⟨.rollback, true⟩ none (rollback work s)

/-- The calls of a record, made one after the other, are answered as it says. The last call comes last. -/
inductive Replays : Option WorkId → σ → List CallRecord → Option WorkId → σ → Prop where
  | nothing (work : Option WorkId) (s : σ) : Replays work s [] work s
  | oneMore {work work' work'' : Option WorkId} {s s' s'' : σ} {calls : List CallRecord} {record : CallRecord}
      (hcalls : Replays work s calls work' s') (hlast : Answers work' s' record work'' s'') :
      Replays work s (calls ++ [record]) work'' s''

/-- Without a call nothing happens to the pipeline. -/
theorem Replays.eq_of_nil {work work' : Option WorkId} {s s' : σ} (h : Replays work s [] work' s') : s' = s := by
  generalize hcalls : ([] : List CallRecord) = calls at h
  cases h with
  | nothing => rfl
  | oneMore => exact absurd hcalls (by simp)

end Pipeline

/-! ## One step

Each stage makes the call that it records, with the work session that it has, on the pipeline as it is at that moment.
-/

namespace Upload

variable {σ : Type} [Pipeline σ]

omit [Pipeline σ] in
/-- A call that may fail is recorded with its answer, and leaves the pipeline as the call has left it. Both of the
stages that it may lead to have the same work session. -/
theorem afterCall_eq (u : Upload) (call : PipelineCall) {next otherwise : UploadStage} (work : Option WorkId)
    (result : Except PipelineFault Unit × σ) (hnext : next.work? = work) (hotherwise : otherwise.work? = work) :
    (u.afterCall call next otherwise result).1 = some ⟨call, result.1.isOk⟩ ∧
      (u.afterCall call next otherwise result).2.1.stage.work? = work ∧
      (u.afterCall call next otherwise result).2.2 = result.2 := by
  obtain ⟨answer, s⟩ := result
  cases answer with
  | ok => exact ⟨rfl, hnext, rfl⟩
  | error fault => exact ⟨rfl, hotherwise, rfl⟩

/-- **A step makes at most one call, and the pipeline answers it as it is recorded.** One case for each stage. -/
theorem answers_step (u : Upload) (s : σ) :
    ((u.step s).1 = none ∧ (u.step s).2.1.stage.work? = u.stage.work? ∧ (u.step s).2.2 = s) ∨
      ∃ record, (u.step s).1 = some record ∧
        Pipeline.Answers u.stage.work? s record (u.step s).2.1.stage.work? (u.step s).2.2 := by
  -- the calls that may fail differ in what their answers are, and not in what becomes of these
  have fails {call : PipelineCall} {next otherwise : UploadStage} {result : Except PipelineFault Unit × σ}
      {before after : Option WorkId} (hstep : u.step s = u.afterCall call next otherwise result)
      (hnext : next.work? = after) (hotherwise : otherwise.work? = after)
      (hanswers : Pipeline.Answers before s ⟨call, result.1.isOk⟩ after result.2) :
      ∃ record, (u.step s).1 = some record ∧
        Pipeline.Answers before s record (u.step s).2.1.stage.work? (u.step s).2.2 := by
    obtain ⟨hrecord, hwork, hstate⟩ := u.afterCall_eq call after result hnext hotherwise
    rw [hstep, hrecord, hwork, hstate]
    exact ⟨_, rfl, hanswers⟩
  cases hstage : u.stage with
  | opening =>
    rw [step_opening hstage]
    exact .inr ⟨_, rfl, .openWork s⟩
  | creating work =>
    rw [step_creating hstage]
    exact .inr ⟨_, rfl, .createUnit work s⟩
  | reading work unit received =>
    left
    rcases u.stream.read_cases (max u.chunkSize 1) with
      ⟨first, rest, left, hread, -⟩ | ⟨-, -, hread⟩ | ⟨kind, -, -, hread⟩
    · rw [step_reading_bytes hstage hread]
      exact ⟨rfl, rfl, rfl⟩
    · rw [step_reading_finished hstage hread]
      exact ⟨rfl, rfl, rfl⟩
    · rw [step_reading_failed hstage hread]
      exact ⟨rfl, rfl, rfl⟩
  | writing work unit received chunk => exact .inr (fails (step_writing hstage s) rfl rfl (.write work unit chunk s))
  | naming work unit received =>
    refine .inr (fails (step_naming hstage s) rfl rfl ?_)
    exact .putAttribute work unit filenameAttribute u.target.fileName s
  | placing work unit received =>
    refine .inr (fails (step_placing hstage s) rfl rfl ?_)
    exact .putAttribute work unit pathAttribute u.target.containerText s
  | routing work unit received =>
    refine .inr (fails (step_routing hstage s) rfl rfl ?_)
    exact .transfer work unit successRelationship s
  | committing work received => exact .inr (fails (step_committing hstage s) rfl rfl (.commit work s))
  | rollingBack work ending =>
    rw [step_rollingBack hstage]
    exact .inr ⟨_, rfl, .rollback work s⟩
  | ended ending =>
    rw [step_ended hstage, hstage]
    exact .inl ⟨rfl, rfl, rfl⟩

end Upload

/-! ## All steps

One call more is one call more at the end of the record. -/

namespace UploadRun

variable {σ : Type} [Pipeline σ] {s : σ}

/-- The calls of a run are kept with the last one first. -/
theorem reverse_calls_advance (r : UploadRun σ) :
    r.advance.calls.reverse = r.calls.reverse ++ (r.upload.step r.pipeline).1.toList := by
  show ((r.upload.step r.pipeline).1.toList ++ r.calls).reverse = _
  cases (r.upload.step r.pipeline).1 <;> simp

/-- **The record of a run can be played back**, from where the pipeline was before its first call. Induction on the
steps. -/
theorem replays_after {r : UploadRun σ}
    (h : Pipeline.Replays none s r.calls.reverse r.upload.stage.work? r.pipeline) (n : Nat) :
    Pipeline.Replays none s (after n r).calls.reverse (after n r).upload.stage.work? (after n r).pipeline := by
  induction n generalizing r with
  | zero => exact h
  | succ n ih =>
    -- the first of the steps is added to the record, and the induction goes on from there
    refine ih ?_
    rw [reverse_calls_advance]
    show Pipeline.Replays none s _ (r.upload.step r.pipeline).2.1.stage.work? (r.upload.step r.pipeline).2.2
    rcases r.upload.answers_step r.pipeline with ⟨hnone, hwork, hstate⟩ | ⟨record, hrecord, hanswers⟩
    · -- a step without a call: neither the record nor the pipeline has changed
      rw [hnone, hwork, hstate]
      simpa using h
    · rw [hrecord]
      exact .oneMore h hanswers

end UploadRun

end FtpIntake
