import FtpIntake.Exchange.Store
import FtpIntake.Proofs.Exchange.Basic
import FtpIntake.Proofs.Upload.Transcript

/-!
# What one `STOR` does

The record of a `STOR` has a fixed shape: the announcement and the opening of the data connection, if it comes to that,
then the calls of the pipeline, if it comes to those, and at the end one final reply, after which the client's state is
cleared and the data channel given up.

* **`Exchange.Stored`** has one rule for each way through the command.
* **`history_store`** says that every `STOR` takes one of these ways, whatever client, tree, slot, signal, stream and
  pipeline it meets.
* **`store_transcript`** is the contract with the pipeline: no call at all, or the calls of one upload, which end the
  work session once, and the code of the final reply tells which it was.
-/

namespace FtpIntake.Exchange

open Upload

variable {σ : Type}

/-- What the wait of a `STOR` for a factory comes to. -/
def factoryWait (x : Exchange σ) : Acquired FactoryId :=
  ((x.surroundings.applyAll x.circumstances.interim).acquire x.circumstances.waiting).1

/-- The effects of announcing an upload and opening its data connection. -/
def announced (target : Path) : List Effect :=
  [.replyQueued (announcement target), .channelOpened]

/-- A failure of `STOR` that is about its target. -/
def storeFailure (code : Nat) (target : Path) : Reply :=
  (NegativeReply.mk code NegativeReply.uploadTopic none target).toReply

/-- The ways through a `STOR`: what comes before the calls of the pipeline, these calls, and the final reply. -/
inductive Stored (x : Exchange σ) (settings : StoreSettings) (argument : Option String) :
    List Effect → List CallRecord → Reply → Prop where
  | refused {failure : NegativeReply} (htarget : x.storeTarget argument = .error failure) :
      Stored x settings argument [] [] failure.toReply
  | notOpened {target : Path} {fault : TransferFault} (htarget : x.storeTarget argument = .ok target)
      (hopen : x.client.channel.openWith x.circumstances.dial = .error fault) :
      Stored x settings argument (announced target) []
        (storeFailure ReplyCode.cannotOpenDataConnection target)
  | abandoned {target : Path} {stream : DataStream} (htarget : x.storeTarget argument = .ok target)
      (hopen : x.client.channel.openWith x.circumstances.dial = .ok stream)
      (hwait : ∀ factory, x.factoryWait ≠ .factory factory) :
      Stored x settings argument (announced target) [] (storeFailure ReplyCode.serviceNotAvailable target)
  | received {target : Path} {stream : DataStream} {factory : FactoryId} {calls : List CallRecord}
      {outcome : UploadOutcome} (htarget : x.storeTarget argument = .ok target)
      (hopen : x.client.channel.openWith x.circumstances.dial = .ok stream)
      (hwait : x.factoryWait = .factory factory)
      (hcalls : Transcript target (stream.reads (max settings.bufferSize 1)) stream.ending calls outcome) :
      Stored x settings argument (announced target) calls (replyTo target outcome.ending)

/-- What comes before the calls of the pipeline holds none of them. -/
theorem Stored.called_notMem {x : Exchange σ} {settings : StoreSettings} {argument : Option String}
    {before : List Effect} {calls : List CallRecord} {reply : Reply}
    (h : Stored x settings argument before calls reply) :
    ∀ effect ∈ before, ∀ record, effect ≠ .called record := by
  cases h with
  | refused => nofun
  | notOpened => simp [announced]
  | abandoned => simp [announced]
  | received => simp [announced]

/-! ## The steps before the upload

The announcement, the data connection and the factory. Each of them can end the command, and none calls the pipeline.
-/

/-- A `STOR` whose upload has been announced and whose data connection has been asked for. -/
def afterOpening (x : Exchange σ) (target : Path) : Exchange σ :=
  (x.announce target).note .channelOpened

theorem openChannel_announce (x : Exchange σ) (target : Path) :
    (x.announce target).openChannel = (x.client.channel.openWith x.circumstances.dial, x.afterOpening target) :=
  rfl

theorem history_afterOpening (x : Exchange σ) (target : Path) :
    (x.afterOpening target).history = x.history ++ announced target := by
  show (Effect.channelOpened :: .replyQueued (announcement target) :: x.effects).reverse = _
  rw [List.reverse_cons, List.reverse_cons, List.append_assoc]
  rfl

/-- Waiting for a factory leaves no trace, not in the pipeline either, and finds one if the wait says so. -/
theorem acquireFactory_cases (x : Exchange σ) (target : Path) :
    ∃ found y, (x.afterOpening target).acquireFactory = (found, y) ∧ y.history = (x.afterOpening target).history ∧
      y.pipeline = x.pipeline ∧
      ((∃ factory, x.factoryWait = .factory factory ∧ found = some factory) ∨
        ((∀ factory, x.factoryWait ≠ .factory factory) ∧ found = none)) := by
  have hwait : x.factoryWait =
      ((x.afterOpening target).surroundings.acquire (x.afterOpening target).circumstances.waiting).1 := rfl
  unfold acquireFactory
  rw [hwait]
  rcases (x.afterOpening target).surroundings.acquire (x.afterOpening target).circumstances.waiting with
    ⟨acquired, surroundings, rest⟩
  cases acquired with
  | factory f => exact ⟨_, _, rfl, rfl, rfl, .inl ⟨f, rfl, rfl⟩⟩
  | abandoned => exact ⟨_, _, rfl, rfl, rfl, .inr ⟨nofun, rfl⟩⟩
  | waiting => exact ⟨_, _, rfl, rfl, rfl, .inr ⟨nofun, rfl⟩⟩

/-! ## The code of the final reply

Which code reports which outcome. The five kinds of failure that mean a lost connection are listed once more, because
the contract names them. -/

/-- A target is refused with one of three codes. -/
theorem code_of_storeTarget_eq_error {x : Exchange σ} {argument : Option String} {failure : NegativeReply}
    (h : x.storeTarget argument = .error failure) : failure.code ∈ [501, 503, 550] := by
  unfold storeTarget at h
  cases argument with
  | none =>
    cases h
    decide
  | some argument =>
    simp only at h
    -- the order of the checks: negotiated, then the root or a control character, then the tree
    split at h
    · cases h
      exact show 503 ∈ [501, 503, 550] by decide
    · split at h
      · cases h
        exact show 550 ∈ [501, 503, 550] by decide
      · split at h
        · cases h
          exact show 550 ∈ [501, 503, 550] by decide
        · cases h

/-- The kinds of read failure that mean that the client's side of the data connection is lost. -/
def lossKinds : List IoKind :=
  [.connectionReset, .connectionAborted, .brokenPipe, .unexpectedEof, .notConnected]

theorem isConnectionLoss_iff (kind : IoKind) : isConnectionLoss kind = true ↔ kind ∈ lossKinds := by
  cases kind <;> decide

/-- The code that reports an outcome. -/
def outcomeCode : UploadOutcome → Nat
  | .committed _ => 226
  | .readFailed kind => if kind ∈ lossKinds then 426 else 451
  | .callFailed _ => 451

theorem code_replyTo (target : Path) (outcome : UploadOutcome) :
    (replyTo target outcome.ending).code = outcomeCode outcome := by
  cases outcome with
  | committed received => rfl
  | callFailed call => rfl
  -- only a failed read has two codes: a connection that is lost, and any other fault
  | readFailed kind =>
    show (replyTo target (endOfReadFault kind)).code = if kind ∈ lossKinds then 426 else 451
    unfold endOfReadFault
    by_cases h : kind ∈ lossKinds
    · rw [if_pos ((isConnectionLoss_iff kind).2 h), if_pos h]
      rfl
    · rw [if_neg (fun hloss => h ((isConnectionLoss_iff kind).1 hloss)), if_neg h]
      rfl

theorem outcomeCode_iff (outcome : UploadOutcome) :
    (outcomeCode outcome = 226 ↔ ∃ received, outcome = .committed received) ∧
      (outcomeCode outcome = 426 ↔ ∃ kind ∈ lossKinds, outcome = .readFailed kind) ∧
      (outcomeCode outcome = 451 ↔
        (¬∃ received, outcome = .committed received) ∧ ¬∃ kind ∈ lossKinds, outcome = .readFailed kind) := by
  cases outcome with
  | committed received => simp [outcomeCode]
  | callFailed call => simp [outcomeCode]
  | readFailed kind => by_cases h : kind ∈ lossKinds <;> simp [outcomeCode, h]

/-! ## The whole command

The ways of a `STOR` as rules, each with its record. The calls of the upload are in the record of one of them only. -/

variable [Pipeline σ]

/-- An upload that has found a factory makes the calls of one transcript and is answered accordingly. The pipeline
has answered these calls as they are recorded, and is where they have brought it. -/
theorem receive_of_found {x y : Exchange σ} {factory : FactoryId} (settings : StoreSettings) (target : Path)
    (stream : DataStream) (h : x.acquireFactory = (some factory, y)) :
    ∃ calls outcome,
      Transcript target (stream.reads (max settings.bufferSize 1)) stream.ending calls outcome ∧
      (x.receive settings target stream).1 = replyTo target outcome.ending ∧
      (x.receive settings target stream).2.history = y.history ++ calls.map .called ∧
      Pipeline.Replays none y.pipeline calls none (x.receive settings target stream).2.pipeline := by
  let run : UploadRun σ := { upload := { target, chunkSize := settings.bufferSize, stream }, pipeline := y.pipeline }
  obtain ⟨outcome, htranscript, hending, hreplays⟩ := UploadRun.transcript_finish (r := run) rfl rfl
  refine ⟨run.finish.calls.reverse, outcome, htranscript, ?_, ?_, ?_⟩
  · rw [receive, h, ← hending]
  · rw [receive, h]
    show (run.finish.calls.map Effect.called ++ y.effects).reverse = _
    rw [List.reverse_append, List.map_reverse]
    rfl
  · rw [receive, h]
    exact hreplays

/-- The reply of a `STOR` is decided on one of the ways, and what the command has done by then is recorded. On the ways
without a call the pipeline is left as it was. -/
theorem stored_storeReply (x : Exchange σ) (settings : StoreSettings) (argument : Option String) :
    ∃ before calls, Stored x settings argument before calls (x.storeReply settings argument).1 ∧
      (x.storeReply settings argument).2.history = x.history ++ before ++ calls.map .called ∧
      Pipeline.Replays none x.pipeline calls none (x.storeReply settings argument).2.pipeline := by
  unfold storeReply
  cases htarget : x.storeTarget argument with
  | error failure => exact ⟨[], [], .refused htarget, by simp, .nothing none x.pipeline⟩
  | ok target =>
    have hhistory := history_afterOpening x target
    simp only [openChannel_announce]
    cases hopen : x.client.channel.openWith x.circumstances.dial with
    | error fault =>
      exact ⟨announced target, [], .notOpened htarget hopen, by simpa using hhistory, .nothing none x.pipeline⟩
    | ok stream =>
      show ∃ before calls,
        Stored x settings argument before calls ((x.afterOpening target).receive settings target stream).1 ∧
          ((x.afterOpening target).receive settings target stream).2.history = _ ∧
          Pipeline.Replays none x.pipeline calls none ((x.afterOpening target).receive settings target stream).2.pipeline
      -- the announcement is out and the data connection open; what is left is the wait for a factory
      obtain ⟨found, y, hacquire, hy, hpipeline, ⟨factory, hwait, rfl⟩ | ⟨hwait, rfl⟩⟩ := acquireFactory_cases x target
      · obtain ⟨calls, outcome, htranscript, hreply, hcalls, hreplays⟩ :=
          receive_of_found settings target stream hacquire
        refine ⟨announced target, calls, ?_, ?_, hpipeline ▸ hreplays⟩
        · rw [hreply]
          exact .received htarget hopen hwait htranscript
        · rw [hcalls, hy, hhistory]
      · refine ⟨announced target, [], ?_, ?_, ?_⟩
        · -- no factory has come, so the pipeline has not been called
          rw [receive, hacquire]
          exact .abandoned htarget hopen hwait
        · rw [receive, hacquire, ← hhistory, ← hy]
          simp
        · rw [receive, hacquire, ← hpipeline]
          exact .nothing none y.pipeline

/-- The final reply and what comes after it have nothing to do with the pipeline. -/
theorem pipeline_store (x : Exchange σ) (settings : StoreSettings) (argument : Option String) :
    (x.store settings argument).2.pipeline = (x.storeReply settings argument).2.pipeline := by
  show ((x.storeReply settings argument).2.answer (x.storeReply settings argument).1).2.pipeline = _
  rw [answer_snd]

/-- **Every `STOR` takes one of the ways**, and then sends its one final reply, clears the client's state and gives up
the data channel, also when the control connection fails. -/
theorem history_store (x : Exchange σ) (settings : StoreSettings) (argument : Option String) :
    ∃ before calls reply, Stored x settings argument before calls reply ∧
      (x.store settings argument).2.history =
        x.history ++ before ++ calls.map .called ++ [.replyQueued reply, .stateReset, .channelClosed] ∧
      Pipeline.Replays none x.pipeline calls none (x.store settings argument).2.pipeline := by
  obtain ⟨before, calls, hstored, hhistory, hreplays⟩ := stored_storeReply x settings argument
  refine ⟨before, calls, _, hstored, ?_, x.pipeline_store settings argument ▸ hreplays⟩
  have hanswer := history_answer (x.storeReply settings argument).2 (x.storeReply settings argument).1
  show (Effect.channelClosed :: .stateReset ::
    ((x.storeReply settings argument).2.answer (x.storeReply settings argument).1).2.effects).reverse = _
  rw [List.reverse_cons, List.reverse_cons, ← history, hanswer, hhistory]
  simp

/-! ## The contract

What the pipeline is promised, read off the rules: the calls, their answers, where they leave the pipeline, and what
the client is told of them. -/

/--
**The contract with the pipeline.** Whatever a `STOR` meets, it either makes no call at all, and the code of the final
reply says why, or it has found a target, a data connection and a factory, and makes the calls of one upload: the work
session that it opens is ended once, by the last call. Then the code is 226 just if the commit succeeded, 426 just if a
read failed because the connection was lost, and 451 otherwise.

The calls are those that have been made to the pipeline, whatever pipeline it is. Played back from where the pipeline
was before the command, each in the work session that the first of them has opened, they are answered as they are
recorded, and bring the pipeline to where the command has left it. Where there is no call, it is left as it was.
-/
theorem store_transcript (x : Exchange σ) (settings : StoreSettings) (argument : Option String) :
    ∃ before calls reply,
      (x.store settings argument).2.history =
        x.history ++ before ++ calls.map .called ++ [.replyQueued reply, .stateReset, .channelClosed] ∧
      (∀ effect ∈ before, ∀ record, effect ≠ .called record) ∧
      Pipeline.Replays none x.pipeline calls none (x.store settings argument).2.pipeline ∧
      ((calls = [] ∧ (x.store settings argument).2.pipeline = x.pipeline ∧
          (((∃ failure, x.storeTarget argument = .error failure) ∧ reply.code ∈ [501, 503, 550]) ∨
            ((∃ fault, x.client.channel.openWith x.circumstances.dial = .error fault) ∧ reply.code = 425) ∨
            ((∀ factory, x.factoryWait ≠ .factory factory) ∧ reply.code = 421))) ∨
        ∃ target stream factory outcome,
          x.storeTarget argument = .ok target ∧
          x.client.channel.openWith x.circumstances.dial = .ok stream ∧
          x.factoryWait = .factory factory ∧
          Transcript target (stream.reads (max settings.bufferSize 1)) stream.ending calls outcome ∧
          (∃ earlier last, calls = earlier ++ [last] ∧ last.call.endsWork = true ∧
            ∀ record ∈ earlier, record.call.endsWork = false) ∧
          (reply.code = 226 ↔ ⟨.commit, true⟩ ∈ calls) ∧
          (reply.code = 426 ↔ ∃ kind ∈ lossKinds, outcome = .readFailed kind) ∧
          (reply.code = 451 ↔ ⟨.commit, true⟩ ∉ calls ∧ ¬∃ kind ∈ lossKinds, outcome = .readFailed kind)) := by
  obtain ⟨before, calls, reply, hstored, hhistory, hreplays⟩ := history_store x settings argument
  refine ⟨before, calls, reply, hhistory, hstored.called_notMem, hreplays, ?_⟩
  cases hstored with
  | refused htarget =>
    exact .inl ⟨rfl, hreplays.eq_of_nil, .inl ⟨⟨_, htarget⟩, code_of_storeTarget_eq_error htarget⟩⟩
  | notOpened htarget hopen => exact .inl ⟨rfl, hreplays.eq_of_nil, .inr (.inl ⟨⟨_, hopen⟩, rfl⟩)⟩
  | abandoned htarget hopen hwait => exact .inl ⟨rfl, hreplays.eq_of_nil, .inr (.inr ⟨hwait, rfl⟩)⟩
  -- the codes are those of the outcome, and the outcome shows whether the commit is among the calls
  | received htarget hopen hwait hcalls =>
    refine .inr ⟨_, _, _, _, htarget, hopen, hwait, hcalls, hcalls.exists_last, ?_⟩
    rw [code_replyTo, hcalls.commit_mem_iff]
    exact outcomeCode_iff _

end FtpIntake.Exchange
