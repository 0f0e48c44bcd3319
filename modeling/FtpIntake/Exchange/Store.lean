import FtpIntake.Exchange.Basic

/-!
# The upload command

`STOR`. The target is checked, the upload is announced with 150, the data connection is opened, a factory is
acquired, and the upload runs. Whatever happens there is one final reply, after which the client's state is cleared
and the data channel is given up.

The announcement has only so much time. If it cannot be sent, or not in time, the upload goes on: what is still
queued goes out with the final reply.
-/

namespace FtpIntake

/-- What the server is configured to do with uploads. -/
structure StoreSettings where
  /-- How many bytes are read from the data connection at a time. -/
  bufferSize : Nat
  /-- Milliseconds between two looks at an empty slot. -/
  pollInterval : Nat
  /-- Seconds after which the announcement is given up. -/
  flushTimeout : Nat
  deriving DecidableEq

namespace Exchange

open Text

variable {σ : Type}

/-- Why an argument cannot be stored under, or the path it leads to. The root is no file, and neither is a name
with a control character. -/
def storeTarget (x : Exchange σ) (argument : Option String) : Except NegativeReply Path :=
  match argument with
  | none => .error ⟨ReplyCode.argumentError, NegativeReply.uploadTopic, none, none⟩
  | some argument =>
    let target := x.lookup argument
    if !x.client.channel.isNegotiated then
      .error ⟨ReplyCode.badSequence, none, Reply.notNegotiatedText, none⟩
    -- it is the text that is searched for control characters, not the path that it leads to
    else if target.isRoot || argument.toList.any isControl then
      .error ⟨ReplyCode.actionNotTaken, NegativeReply.invalidNameTopic, argument, none⟩
    else if !(Entry.facts ⟨target⟩).writable then
      .error ⟨ReplyCode.actionNotTaken, NegativeReply.permissionTopic, toString target, target⟩
    else .ok target

/-- The announcement of an upload. -/
def announcement (target : Path) : Reply :=
  ⟨ReplyCode.fileStatusOkay,
    "File status okay; about to open data connection for " ++ toString target ++ "."⟩

/-- Announces an upload as far as time permits. Meanwhile things go on happening around it. -/
def announce (x : Exchange σ) (target : Path) : Exchange σ :=
  let x := x.queue (announcement target)
  -- neither a failure nor a timeout stops the upload
  let (_, client) := x.client.flush x.circumstances.patience
  { x with client, surroundings := x.surroundings.applyAll x.circumstances.interim }

/--
Waits for a factory. When nothing more is going to happen the whole server is gone, and with it the sender of the
shutdown signal, so a wait that is not decided by then is abandoned.
-/
def acquireFactory (x : Exchange σ) : Option FactoryId × Exchange σ :=
  let (acquired, surroundings, rest) := x.surroundings.acquire x.circumstances.waiting
  -- what happens after the wait is not used up by it
  let x := { x with surroundings, circumstances := { x.circumstances with waiting := rest } }
  match acquired with
  | .factory f => (some f, x)
  | .abandoned | .waiting => (none, x)

variable [Pipeline σ]

/-- Receives an upload over an open data connection. -/
def receive (x : Exchange σ) (settings : StoreSettings) (target : Path) (stream : DataStream) :
    Reply × Exchange σ :=
  match x.acquireFactory with
  | (none, x) =>
    ((NegativeReply.mk ReplyCode.serviceNotAvailable NegativeReply.uploadTopic none target).toReply, x)
  | (some _, x) =>
    let upload : Upload := { target, chunkSize := settings.bufferSize, stream }
    -- the factory makes work sessions; which one it is makes no difference to the calls
    let run := (UploadRun.mk upload x.pipeline []).finish
    (Upload.replyTo target run.upload.ending,
      { x with pipeline := run.pipeline, effects := run.calls.map Effect.called ++ x.effects })

/-- Everything an upload does before its final reply, and that reply. -/
def storeReply (x : Exchange σ) (settings : StoreSettings) (argument : Option String) :
    Reply × Exchange σ :=
  match x.storeTarget argument with
  | .error failure => (failure.toReply, x)
  -- from here on 150 has been queued, whatever comes of the data connection
  | .ok target =>
    match (x.announce target).openChannel with
    | (.error _, x) =>
      ((NegativeReply.mk ReplyCode.cannotOpenDataConnection NegativeReply.uploadTopic none target).toReply, x)
    | (.ok stream, x) => x.receive settings target stream

/-- `STOR`. -/
def store (x : Exchange σ) (settings : StoreSettings) (argument : Option String) : Sent × Exchange σ :=
  let (reply, x) := x.storeReply settings argument
  let (sent, x) := x.answer reply
  -- also when the final reply could not be sent
  (sent, x.reset.closeChannel)

end Exchange

end FtpIntake
