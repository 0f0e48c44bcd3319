import FtpIntake.Proofs.Upload.Replay

/-!
# The calls of an upload

An upload drives a pipeline that it knows nothing about: every call that may fail can fail. Which calls an upload
makes, in which order, and how it ends depends on the reads of its stream and on the answers alone, so it is said here
once for all pipelines.

The calls are told newest first while the upload is in progress, and in their order when it is over. What they say of
the pipeline is `Pipeline.Replays`: made one after the other on the pipeline as it was before, they leave it as it is
after the upload, and each of them got the answer that was recorded. So a call that is in the record was made, and one
that is recorded as a success did succeed.

* **`Upload.Transcript`** is the grammar of the calls of a whole upload, one rule for each way of ending.
* **`Upload.Told`** relates an upload in progress to the calls it has made so far. `Told.step` keeps it over one step,
  whatever the pipeline answers, also when other uploads have used the pipeline in between.
* **`exists_ended_finish`** says that an upload run by itself does end, by a measure that each step lowers.
* **`transcript_finish`** puts the two together.

The grammar has three ends: a commit that has succeeded, a call that has failed, and a read that has failed. In each
of them the work session is ended once, by a commit or by a rollback, and nothing is called afterwards.
-/

namespace FtpIntake

/-- How an upload came out, with the cause. -/
inductive UploadOutcome where
  /-- A read failed. -/
  | readFailed (kind : IoKind)
  /-- The pipeline refused the call. -/
  | callFailed (call : PipelineCall)
  /-- The commit succeeded, and so many bytes had been received. -/
  | committed (received : Nat)
  deriving DecidableEq

/-- The end that an outcome leads to. -/
def UploadOutcome.ending : UploadOutcome → UploadEnd
  | .readFailed kind => Upload.endOfReadFault kind
  | .callFailed _ => .localError
  | .committed received => .complete received

/-- Whether the call ends a work session. -/
def PipelineCall.endsWork : PipelineCall → Bool
  | .commit | .rollback => true
  | _ => false

namespace Upload

/-! ## The grammar

A unit is created in a work session of its own and every read is written to it. A unit that is complete is given its
two attributes and its route. What comes after that is the end of the work session. -/

/-- The calls that begin an upload. -/
def begun (unit : UnitId) : List PipelineCall :=
  [.openWork, .createUnit unit]

/-- The calls that write what was read. -/
def writes (unit : UnitId) (reads : List Bytes) : List PipelineCall :=
  reads.map (.write unit)

/-- The calls that make a complete unit ready for the commit. -/
def finishing (unit : UnitId) (target : Path) : List PipelineCall :=
  [.putAttribute unit filenameAttribute target.fileName, .putAttribute unit pathAttribute target.containerText,
    .transfer unit successRelationship]

/-- The record of calls that all succeeded. -/
def succeeded (calls : List PipelineCall) : List CallRecord :=
  calls.map fun call => ⟨call, true⟩

@[simp] theorem succeeded_append (a b : List PipelineCall) : succeeded (a ++ b) = succeeded a ++ succeeded b :=
  List.map_append

/--
The calls of a whole upload to `target`, in order, when its reads give `reads` and then `fault`, or the end of the
stream where there is no fault. The last of them ends the work session.
-/
inductive Transcript (target : Path) (reads : List Bytes) (fault : Option IoKind) :
    List CallRecord → UploadOutcome → Prop where
  | readFailed (unit : UnitId) (kind : IoKind) (hfault : fault = some kind) :
      Transcript target reads fault (succeeded (begun unit ++ writes unit reads) ++ [⟨.rollback, true⟩])
        (.readFailed kind)
  | writeFailed (unit : UnitId) (before : List Bytes) (chunk : Bytes) (after : List Bytes)
      (hreads : reads = before ++ chunk :: after) :
      Transcript target reads fault
        (succeeded (begun unit ++ writes unit before) ++ [⟨.write unit chunk, false⟩, ⟨.rollback, true⟩])
        (.callFailed (.write unit chunk))
  | finishingFailed (unit : UnitId) (before : List PipelineCall) (call : PipelineCall) (after : List PipelineCall)
      (hfault : fault = none) (hcalls : finishing unit target = before ++ call :: after) :
      Transcript target reads fault
        (succeeded (begun unit ++ writes unit reads ++ before) ++ [⟨call, false⟩, ⟨.rollback, true⟩])
        (.callFailed call)
  | commitFailed (unit : UnitId) (hfault : fault = none) :
      Transcript target reads fault
        (succeeded (begun unit ++ writes unit reads ++ finishing unit target) ++ [⟨.commit, false⟩])
        (.callFailed .commit)
  | committed (unit : UnitId) (hfault : fault = none) :
      Transcript target reads fault
        (succeeded (begun unit ++ writes unit reads ++ finishing unit target) ++ [⟨.commit, true⟩])
        (.committed reads.flatten.length)

/-! ## The end of the work session

None of the calls that begin, fill or finish a unit ends its work session. -/

/-- Whether none of the calls ends a work session. -/
def KeepsOpen (calls : List PipelineCall) : Prop :=
  ∀ call ∈ calls, call.endsWork = false

/-- Calls that end no work session, one after the other. -/
theorem KeepsOpen.append {a b : List PipelineCall} (ha : KeepsOpen a) (hb : KeepsOpen b) : KeepsOpen (a ++ b) :=
  List.forall_mem_append.2 ⟨ha, hb⟩

theorem keepsOpen_written (unit : UnitId) (reads : List Bytes) : KeepsOpen (begun unit ++ writes unit reads) := by
  simp [KeepsOpen, begun, writes, or_imp, forall_and, PipelineCall.endsWork]

theorem keepsOpen_finishing (unit : UnitId) (target : Path) : KeepsOpen (finishing unit target) := by
  simp [KeepsOpen, finishing, PipelineCall.endsWork]

/-- The work session is still open after calls that keep it open, whether they succeed or not. -/
theorem KeepsOpen.of_mem_succeeded {calls : List PipelineCall} (h : KeepsOpen calls) {record : CallRecord}
    (hrecord : record ∈ succeeded calls) : record.call.endsWork = false := by
  obtain ⟨call, hcall, rfl⟩ := List.mem_map.1 hrecord
  exact h call hcall

/-- Among such calls there is no commit. -/
theorem KeepsOpen.commit_notMem {calls : List PipelineCall} (h : KeepsOpen calls) (succeeds : Bool) :
    ⟨.commit, succeeds⟩ ∉ succeeded calls :=
  fun hmem => Bool.noConfusion (h.of_mem_succeeded hmem)

/-- **A work session is ended once, by the last call.** -/
theorem Transcript.exists_last {target : Path} {reads : List Bytes} {fault : Option IoKind}
    {calls : List CallRecord} {outcome : UploadOutcome} (h : Transcript target reads fault calls outcome) :
    ∃ before last, calls = before ++ [last] ∧ last.call.endsWork = true ∧
      ∀ record ∈ before, record.call.endsWork = false := by
  -- a refused call is followed by the rollback, so all but the last two calls succeeded
  have refused {made : List PipelineCall} {call : PipelineCall} (hmade : KeepsOpen made)
      (hcall : call.endsWork = false) :
      ∀ record ∈ succeeded made ++ [⟨call, false⟩], record.call.endsWork = false := by
    intro record hrecord
    rcases List.mem_append.1 hrecord with hrecord | hrecord
    · exact hmade.of_mem_succeeded hrecord
    · rw [List.mem_singleton.1 hrecord]
      exact hcall
  cases h with
  | readFailed unit kind _ => exact ⟨_, _, rfl, rfl, fun record => (keepsOpen_written unit reads).of_mem_succeeded⟩
  | writeFailed unit before chunk after _ =>
    exact ⟨_, ⟨.rollback, true⟩, (List.append_assoc _ [_] [_]).symm, rfl, refused (keepsOpen_written unit before) rfl⟩
  | finishingFailed unit before call after _ hcalls =>
    have hfinishing := keepsOpen_finishing unit target
    rw [hcalls] at hfinishing
    have hopen := (keepsOpen_written unit reads).append fun c hc => hfinishing c (List.mem_append_left _ hc)
    exact ⟨_, ⟨.rollback, true⟩, (List.append_assoc _ [_] [_]).symm, rfl, refused hopen (hfinishing call (by simp))⟩
  | commitFailed unit _ =>
    have hopen := (keepsOpen_written unit reads).append (keepsOpen_finishing unit target)
    exact ⟨_, _, rfl, rfl, fun record => hopen.of_mem_succeeded⟩
  | committed unit _ =>
    have hopen := (keepsOpen_written unit reads).append (keepsOpen_finishing unit target)
    exact ⟨_, _, rfl, rfl, fun record => hopen.of_mem_succeeded⟩

/-- The commit has succeeded just if the outcome says so. -/
theorem Transcript.commit_mem_iff {target : Path} {reads : List Bytes} {fault : Option IoKind}
    {calls : List CallRecord} {outcome : UploadOutcome} (h : Transcript target reads fault calls outcome) :
    ⟨.commit, true⟩ ∈ calls ↔ ∃ received, outcome = .committed received := by
  -- the commit is the last call of a whole upload, and no other way of ending makes it and has it succeed
  cases h with
  | readFailed unit kind _ =>
    have := (keepsOpen_written unit reads).commit_notMem true
    simpa using this
  | writeFailed unit before chunk after _ =>
    have := (keepsOpen_written unit before).commit_notMem true
    simpa using this
  | finishingFailed unit before call after _ hcalls =>
    have hfinishing := keepsOpen_finishing unit target
    rw [hcalls] at hfinishing
    have := ((keepsOpen_written unit reads).append
      fun c hc => hfinishing c (List.mem_append_left _ hc)).commit_notMem true
    simpa using this
  | commitFailed unit _ =>
    have := ((keepsOpen_written unit reads).append (keepsOpen_finishing unit target)).commit_notMem true
    simpa using this
  | committed unit _ => simp

/-! ## One step

What an upload has done so far can be read off its stage: the reads that are behind it have been written, and the calls
before its next one have all succeeded. -/

/-- The reads that are ahead of an upload. -/
def reads (u : Upload) : List Bytes :=
  u.stream.reads (max u.chunkSize 1)

/-- What the stage of an upload says about the calls it has made since it stood at `start`. -/
def Stands (start : Upload) (calls : List CallRecord) (u : Upload) : Prop :=
  match u.stage with
  | .opening => calls = [] ∧ start.reads = u.reads
  | .creating _ => calls = succeeded [.openWork] ∧ start.reads = u.reads
  | .reading _ unit received =>
    ∃ before, start.reads = before ++ u.reads ∧ received = before.flatten.length ∧
      calls = succeeded (begun unit ++ writes unit before)
  | .writing _ unit received chunk =>
    ∃ before, start.reads = before ++ chunk :: u.reads ∧ received = before.flatten.length ∧
      calls = succeeded (begun unit ++ writes unit before)
  | .naming _ unit received =>
    start.stream.ending = none ∧ received = start.reads.flatten.length ∧
      calls = succeeded (begun unit ++ writes unit start.reads ++ [])
  | .placing _ unit received =>
    start.stream.ending = none ∧ received = start.reads.flatten.length ∧
      calls = succeeded (begun unit ++ writes unit start.reads ++ (finishing unit start.target).take 1)
  | .routing _ unit received =>
    start.stream.ending = none ∧ received = start.reads.flatten.length ∧
      calls = succeeded (begun unit ++ writes unit start.reads ++ (finishing unit start.target).take 2)
  | .committing _ received =>
    ∃ unit, start.stream.ending = none ∧ received = start.reads.flatten.length ∧
      calls = succeeded (begun unit ++ writes unit start.reads ++ finishing unit start.target)
  | .rollingBack _ ending =>
    ∃ outcome, ending = outcome.ending ∧
      Transcript start.target start.reads start.stream.ending (calls ++ [⟨.rollback, true⟩]) outcome
  | .ended ending =>
    ∃ outcome, ending = outcome.ending ∧
      Transcript start.target start.reads start.stream.ending calls outcome

/-- An upload has come from `start` by steps that made the given calls. -/
structure Told (start : Upload) (calls : List CallRecord) (u : Upload) : Prop where
  target : u.target = start.target
  chunkSize : u.chunkSize = start.chunkSize
  ending : u.stream.ending = start.stream.ending
  stands : Stands start calls u

/-- An upload that has not begun has made no calls. -/
theorem Told.begin {start : Upload} (h : start.stage = .opening) : Told start [] start :=
  ⟨rfl, rfl, rfl, by rw [Stands, h]; exact ⟨rfl, rfl⟩⟩

variable {σ : Type}

/-- A call that may fail succeeds and leads to the next stage, or it fails and leads to the other one. -/
theorem afterCall_cases (u : Upload) (call : PipelineCall) (next otherwise : UploadStage)
    (result : Except PipelineFault Unit × σ) :
    (∃ s, result.1 = .ok () ∧ u.afterCall call next otherwise result = (some ⟨call, true⟩, u.toStage next, s)) ∨
    (∃ fault s, result.1 = .error fault ∧
      u.afterCall call next otherwise result = (some ⟨call, false⟩, u.toStage otherwise, s)) := by
  obtain ⟨answer, s⟩ := result
  cases answer with
  | ok => exact .inl ⟨s, rfl, rfl⟩
  | error fault => exact .inr ⟨fault, s, rfl, rfl⟩

/-- A call that may fail keeps the account in both cases if each of the two stages does. -/
theorem Told.afterCall {start u : Upload} {calls : List CallRecord} {call : PipelineCall}
    {next otherwise : UploadStage} (h : Told start calls u) (result : Except PipelineFault Unit × σ)
    (hnext : Stands start (calls ++ [⟨call, true⟩]) (u.toStage next))
    (hotherwise : Stands start (calls ++ [⟨call, false⟩]) (u.toStage otherwise)) :
    Told start (calls ++ (u.afterCall call next otherwise result).1.toList)
      (u.afterCall call next otherwise result).2.1 := by
  rcases afterCall_cases u call next otherwise result with ⟨s, -, heq⟩ | ⟨_, s, -, heq⟩
  · rw [heq]
    exact ⟨h.target, h.chunkSize, h.ending, hnext⟩
  · rw [heq]
    exact ⟨h.target, h.chunkSize, h.ending, hotherwise⟩

/-- A call that finishes a unit is followed by the next one, or by the rollback. -/
theorem Told.afterFinishing {start u : Upload} {calls : List CallRecord} {work : WorkId} {unit : UnitId}
    {before after : List PipelineCall} {call : PipelineCall} {next : UploadStage} (h : Told start calls u)
    (result : Except PipelineFault Unit × σ) (hend : start.stream.ending = none)
    (hfinishing : finishing unit start.target = before ++ call :: after)
    (hcalls : calls = succeeded (begun unit ++ writes unit start.reads ++ before))
    (hnext : Stands start (succeeded (begun unit ++ writes unit start.reads ++ (before ++ [call])))
      (u.toStage next)) :
    Told start (calls ++ (u.afterCall call next (.rollingBack work .localError) result).1.toList)
      (u.afterCall call next (.rollingBack work .localError) result).2.1 := by
  refine h.afterCall result ?_ ⟨.callFailed call, rfl, ?_⟩
  · rw [hcalls, show [(⟨call, true⟩ : CallRecord)] = succeeded [call] from rfl, ← succeeded_append,
      List.append_assoc]
    exact hnext
  · rw [hcalls, List.append_assoc]
    exact .finishingFailed unit before call after hend hfinishing

/-- A read moves bytes from what is ahead of the upload to what is being written, or it finds the end. -/
theorem Told.step_reading [Pipeline σ] {start u : Upload} {calls : List CallRecord} {work : WorkId} {unit : UnitId}
    {received : Nat} (h : Told start calls u) (hstage : u.stage = .reading work unit received) (s : σ) :
    Told start (calls ++ (u.step s).1.toList) (u.step s).2.1 := by
  have hstands := h.stands
  unfold Stands at hstands
  rw [hstage] at hstands
  obtain ⟨before, hreads, hreceived, hcalls⟩ := hstands
  rcases u.stream.read_cases (max u.chunkSize 1) with
    ⟨first, rest, left, hread, -, hend, -⟩ | ⟨hcontent, hend, hread⟩ | ⟨kind, hcontent, hend, hread⟩
  · -- the chunk goes from the reads that are ahead to the one that is being written
    rw [step_reading_bytes hstage hread]
    have hahead : u.reads = (first :: rest) :: left.reads (max u.chunkSize 1) :=
      DataStream.reads_of_read_eq_bytes hread
    rw [hahead] at hreads
    refine ⟨h.target, h.chunkSize, hend.trans h.ending, before, hreads, hreceived, ?_⟩
    simpa using hcalls
  · -- nothing is ahead any more, so what has been written is everything
    rw [step_reading_finished hstage hread]
    have hahead : u.reads = [] := DataStream.reads_of_content_eq_nil hcontent
    rw [hahead, List.append_nil] at hreads
    subst hreads
    refine ⟨h.target, h.chunkSize, h.ending, h.ending.symm.trans hend, hreceived, ?_⟩
    simpa using hcalls
  · -- the reads end in a failure: the account is closed but for the rollback
    rw [step_reading_failed hstage hread]
    have hahead : u.reads = [] := DataStream.reads_of_content_eq_nil hcontent
    rw [hahead, List.append_nil] at hreads
    subst hreads
    refine ⟨h.target, h.chunkSize, h.ending, .readFailed kind, rfl, ?_⟩
    rw [show (none : Option CallRecord).toList = [] from rfl, List.append_nil, hcalls]
    exact .readFailed unit kind (h.ending.symm.trans hend)

/-- **One step keeps the account**, whatever the pipeline is and answers. One case for each stage. -/
theorem Told.step [Pipeline σ] {start u : Upload} {calls : List CallRecord} (h : Told start calls u) (s : σ) :
    Told start (calls ++ (u.step s).1.toList) (u.step s).2.1 := by
  have hstands := h.stands
  unfold Stands at hstands
  cases hstage : u.stage with
  | opening =>
    rw [hstage] at hstands
    obtain ⟨rfl, hreads⟩ := hstands
    rw [step_opening hstage]
    exact ⟨h.target, h.chunkSize, h.ending, rfl, hreads⟩
  | creating work =>
    rw [hstage] at hstands
    obtain ⟨rfl, hreads⟩ := hstands
    rw [step_creating hstage]
    exact ⟨h.target, h.chunkSize, h.ending, [], hreads, rfl, rfl⟩
  | reading work unit received => exact h.step_reading hstage s
  | writing work unit received chunk =>
    rw [hstage] at hstands
    obtain ⟨before, hreads, hreceived, hcalls⟩ := hstands
    rw [step_writing hstage]
    -- the chunk joins the reads that are behind, or it is the one whose write was refused
    refine h.afterCall _ ⟨before ++ [chunk], ?_, ?_, ?_⟩ ⟨.callFailed (.write unit chunk), rfl, ?_⟩
    · rw [hreads, List.append_assoc]
      rfl
    · rw [hreceived, List.flatten_append, List.length_append]
      simp
    · rw [hcalls]
      simp [writes, succeeded]
    · rw [hcalls, List.append_assoc]
      exact .writeFailed unit before chunk _ hreads
  | naming work unit received =>
    rw [hstage] at hstands
    obtain ⟨hend, hreceived, hcalls⟩ := hstands
    rw [step_naming hstage, h.target]
    exact h.afterFinishing _ hend rfl hcalls ⟨hend, hreceived, rfl⟩
  | placing work unit received =>
    rw [hstage] at hstands
    obtain ⟨hend, hreceived, hcalls⟩ := hstands
    rw [step_placing hstage, h.target]
    exact h.afterFinishing _ hend rfl hcalls ⟨hend, hreceived, rfl⟩
  | routing work unit received =>
    rw [hstage] at hstands
    obtain ⟨hend, hreceived, hcalls⟩ := hstands
    rw [step_routing hstage]
    exact h.afterFinishing _ hend rfl hcalls ⟨unit, hend, hreceived, rfl⟩
  | committing work received =>
    rw [hstage] at hstands
    obtain ⟨unit, hend, hreceived, hcalls⟩ := hstands
    subst hreceived
    rw [step_committing hstage]
    refine h.afterCall _ ⟨.committed _, rfl, ?_⟩ ⟨.callFailed .commit, rfl, ?_⟩
    · rw [hcalls]
      exact .committed unit hend
    · rw [hcalls]
      exact .commitFailed unit hend
  | rollingBack work ending =>
    rw [hstage] at hstands
    obtain ⟨outcome, hending, htranscript⟩ := hstands
    rw [step_rollingBack hstage]
    exact ⟨h.target, h.chunkSize, h.ending, outcome, hending, htranscript⟩
  | ended ending =>
    rw [hstage] at hstands
    obtain ⟨outcome, hending, htranscript⟩ := hstands
    rw [step_ended hstage]
    refine ⟨h.target, h.chunkSize, h.ending, ?_⟩
    unfold Stands
    rw [hstage]
    exact ⟨outcome, hending, by simpa using htranscript⟩

/-! ## All steps

Each read that gives bytes costs two steps, and all the other steps lead forward. -/

/-- How many steps an upload can still take. -/
def stepsLeft (u : Upload) : Nat :=
  match u.stage with
  | .opening => 2 * u.unread + 7
  | .creating _ => 2 * u.unread + 6
  | .reading _ _ _ => 2 * u.unread + 5
  | .writing _ _ _ _ => 2 * u.unread + 6
  | .naming _ _ _ => 4
  | .placing _ _ _ => 3
  | .routing _ _ _ => 2
  | .committing _ _ => 1
  | .rollingBack _ _ => 1
  | .ended _ => 0

/-- Only an upload that has ended can take no more steps. -/
theorem exists_ended_of_stepsLeft_eq_zero {u : Upload} (h : u.stepsLeft = 0) : ∃ ending, u.stage = .ended ending := by
  unfold stepsLeft at h
  split at h
  case h_10 ending hstage => exact ⟨ending, hstage⟩
  all_goals omega

/-- A call that may fail uses up a step in both cases if each of the two stages does. -/
theorem stepsLeft_afterCall_le {u : Upload} {n : Nat} {call : PipelineCall} {next otherwise : UploadStage}
    (result : Except PipelineFault Unit × σ) (hnext : (u.toStage next).stepsLeft ≤ n)
    (hotherwise : (u.toStage otherwise).stepsLeft ≤ n) :
    (u.afterCall call next otherwise result).2.1.stepsLeft ≤ n := by
  rcases afterCall_cases u call next otherwise result with ⟨s, -, heq⟩ | ⟨_, s, -, heq⟩
  · rw [heq]
    exact hnext
  · rw [heq]
    exact hotherwise

/-- **Each step uses up one of the steps that are left.** -/
theorem stepsLeft_step_le [Pipeline σ] (u : Upload) (s : σ) : (u.step s).2.1.stepsLeft ≤ u.stepsLeft - 1 := by
  cases hstage : u.stage with
  | opening =>
    rw [step_opening hstage]
    simp [stepsLeft, hstage, toStage, unread]
  | creating work =>
    rw [step_creating hstage]
    simp [stepsLeft, hstage, toStage, unread]
  | reading work unit received =>
    have hleft : u.stepsLeft = 2 * u.unread + 5 := by rw [stepsLeft, hstage]
    rw [hleft]
    -- a read that gives a chunk leaves fewer bytes, and a chunk has to be written next
    rcases u.stream.read_cases (max u.chunkSize 1) with
      ⟨first, rest, left, hread, -⟩ | ⟨-, -, hread⟩ | ⟨kind, -, -, hread⟩
    · rw [step_reading_bytes hstage hread]
      have hlt : left.content.length < u.stream.content.length := DataStream.length_content_lt_of_read hread
      show 2 * left.content.length + 6 ≤ 2 * u.stream.content.length + 5 - 1
      omega
    · rw [step_reading_finished hstage hread]
      show 4 ≤ 2 * u.unread + 5 - 1
      omega
    · rw [step_reading_failed hstage hread]
      show 1 ≤ 2 * u.unread + 5 - 1
      omega
  | writing work unit received chunk =>
    rw [step_writing hstage]
    refine stepsLeft_afterCall_le _ ?_ ?_ <;> simp [stepsLeft, hstage, toStage, unread]
  | naming work unit received =>
    rw [step_naming hstage]
    refine stepsLeft_afterCall_le _ ?_ ?_ <;> simp [stepsLeft, hstage, toStage]
  | placing work unit received =>
    rw [step_placing hstage]
    refine stepsLeft_afterCall_le _ ?_ ?_ <;> simp [stepsLeft, hstage, toStage]
  | routing work unit received =>
    rw [step_routing hstage]
    refine stepsLeft_afterCall_le _ ?_ ?_ <;> simp [stepsLeft, hstage, toStage]
  | committing work received =>
    rw [step_committing hstage]
    refine stepsLeft_afterCall_le _ ?_ ?_ <;> simp [stepsLeft, toStage]
  | rollingBack work ending =>
    rw [step_rollingBack hstage]
    simp [stepsLeft, toStage]
  | ended ending =>
    rw [step_ended hstage]
    simp [stepsLeft, hstage]

end Upload

/-! ## Running an upload by itself

An upload that nobody comes between takes its steps until it has ended. The measure bounds how many these are. -/

namespace UploadRun

open Upload

variable {σ : Type} [Pipeline σ]

/-- The run keeps the account. The calls of a run are kept with the last one first. -/
theorem told_after {start : Upload} {r : UploadRun σ} (h : Told start r.calls.reverse r.upload) (n : Nat) :
    Told start (after n r).calls.reverse (after n r).upload := by
  induction n generalizing r with
  | zero => exact h
  | succ n ih =>
    refine ih ?_
    rw [reverse_calls_advance]
    exact h.step r.pipeline

/-- Every step lowers the measure by one, as long as there is something left. -/
theorem stepsLeft_after_le (r : UploadRun σ) (n : Nat) : (after n r).upload.stepsLeft ≤ r.upload.stepsLeft - n := by
  induction n generalizing r with
  | zero => exact Nat.le_refl _
  | succ n ih =>
    calc (after n r.advance).upload.stepsLeft ≤ r.advance.upload.stepsLeft - n := ih r.advance
      _ ≤ (r.upload.stepsLeft - 1) - n := Nat.sub_le_sub_right (stepsLeft_step_le r.upload r.pipeline) n
      _ = r.upload.stepsLeft - (n + 1) := by omega

/-- **A run ends.** The number of steps that it is given is enough. -/
theorem exists_ended_finish (r : UploadRun σ) : ∃ ending, r.finish.upload.stage = .ended ending := by
  refine exists_ended_of_stepsLeft_eq_zero (Nat.le_zero.1 ?_)
  have henough : r.upload.stepsLeft ≤ r.upload.enough := by
    unfold Upload.stepsLeft Upload.enough
    split <;> omega
  calc r.finish.upload.stepsLeft ≤ r.upload.stepsLeft - r.upload.enough := stepsLeft_after_le r _
    _ = 0 := Nat.sub_eq_zero_of_le henough

/-- **The calls of an upload that is run by itself follow the grammar**, and it ends as they say. They have been made to
the pipeline and answered by it as they are recorded, and have brought it to where it is. -/
theorem transcript_finish {r : UploadRun σ} (hstage : r.upload.stage = .opening) (hcalls : r.calls = []) :
    ∃ outcome, Transcript r.upload.target r.upload.reads r.upload.stream.ending r.finish.calls.reverse outcome ∧
      r.finish.upload.ending = outcome.ending ∧
      Pipeline.Replays none r.pipeline r.finish.calls.reverse none r.finish.pipeline := by
  -- what the calls say of the upload, and what they say of the pipeline
  have htold : Told r.upload r.finish.calls.reverse r.finish.upload := by
    refine told_after ?_ _
    rw [hcalls]
    exact .begin hstage
  have hreplays : Pipeline.Replays none r.pipeline r.finish.calls.reverse r.finish.upload.stage.work?
      r.finish.pipeline := by
    refine replays_after ?_ _
    rw [hcalls, hstage]
    exact .nothing none r.pipeline
  obtain ⟨ending, hended⟩ := exists_ended_finish r
  have hstands := htold.stands
  unfold Stands at hstands
  rw [hended] at hstands hreplays
  obtain ⟨outcome, rfl, htranscript⟩ := hstands
  refine ⟨outcome, htranscript, ?_, hreplays⟩
  unfold Upload.ending
  rw [hended]

end UploadRun

end FtpIntake
