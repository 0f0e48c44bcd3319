import FtpIntake.Exchange.Basic

/-!
# Listing commands

`LIST`, `NLST` and `MLSD`. A listing that can be sent is announced with 150, sent over the data connection, and
confirmed or regretted in one final reply. The data channel is given up at the end in any case.

Whether the directory exists and what is in it is taken from one state of the tree. The clock is read once for each
line, so the times in a listing may differ.
-/

namespace FtpIntake.Exchange

variable {σ : Type}

/-- Sends a listing over an open data connection, closes it, and tells whether all of it arrived. -/
def sendData (x : Exchange σ) (stream : DataStream) (bytes : Bytes) : Sent × Exchange σ :=
  let (sent, result) := stream.sendAndClose bytes
  (result, x.note (.sent sent))

/-- The final reply to a listing that was announced. -/
def sendAnnounced (x : Exchange σ) (bytes : Bytes) : Sent × Exchange σ :=
  match x.openChannel with
  | (.error _, x) => x.answer (Reply.ofCode ReplyCode.cannotOpenDataConnection)
  | (.ok stream, x) =>
    match x.sendData stream bytes with
    | (.ok (), x) => x.answer ⟨ReplyCode.closingDataConnection, "Directory send OK."⟩
    | (.error _, x) => x.answer (Reply.ofCode ReplyCode.transferAborted)

/-- Sends the listing of a directory, if there is a data channel and the directory exists. -/
def sendListing (x : Exchange σ) (form : ListingForm) (directory : Path) : Sent × Exchange σ :=
  if !x.client.channel.isNegotiated then
    x.answer ⟨ReplyCode.badSequence, Reply.notNegotiatedText⟩
  -- a directory that does not exist is refused before anything is announced
  else if !x.tree.contains directory then
    x.answer (Reply.noSuchDirectory (toString directory))
  else
    let chars := Listing.chars form x.circumstances.clock x.tree directory
    match x.answer ⟨ReplyCode.fileStatusOkay, "Here comes the directory listing."⟩ with
    -- unlike an upload, a listing ends with an announcement that cannot be sent
    | (.error kind, x) => (.error kind, x)
    | (.ok (), x) => x.sendAnnounced (String.ofList chars).toUTF8.toList

/-- The directory that a listing command is about: the one its argument leads to, or the client's own. -/
def listingDirectory (x : Exchange σ) (argument : Option String) : Path :=
  match argument.bind Listing.target? with
  | some target => x.lookup target
  | none => x.client.cursor.current

/-- `LIST`, `NLST` and `MLSD`. -/
def list (x : Exchange σ) (form : ListingForm) (argument : Option String) : Sent × Exchange σ :=
  -- the directory is looked up before the state is cleared, which makes no difference to it
  let (sent, x) := x.reset.sendListing form (x.listingDirectory argument)
  (sent, x.closeChannel)

end FtpIntake.Exchange
