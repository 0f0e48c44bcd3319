import FtpIntake.Pipeline.Basic

/-!
# Data streams

An open data connection as far as one transfer can tell: the pieces that will arrive, how they end, and how much
the other side takes. A read gives at most one piece and at most as many bytes as it asks for.
-/

namespace FtpIntake

/-- The future of a data connection. -/
structure DataStream where
  /-- What arrives, piece by piece. -/
  arriving : List Bytes := []
  /-- What ends the stream: an orderly end, or a failure of the given kind. -/
  ending : Option IoKind := none
  /-- How many bytes the other side takes; without a limit it takes all. -/
  room : Option Nat := none
  /-- How a write fails once there is no room; without a kind it takes nothing. -/
  writeFault : Option IoKind := none
  /-- How closing the stream fails. -/
  closeFault : Option IoKind := none

namespace DataStream

/-- Everything that will arrive. -/
def content (s : DataStream) : Bytes :=
  s.arriving.flatten

/-- What a read gives. -/
inductive Chunk where
  | bytes (first : UInt8) (rest : Bytes)
  | finished
  | failed (kind : IoKind)

/-- The first piece that is not empty, its first byte apart, and the pieces after it. -/
def nextPiece : List Bytes → Option (UInt8 × Bytes × List Bytes)
  | [] => none
  | [] :: pieces => nextPiece pieces
  | (first :: rest) :: pieces => some (first, rest, pieces)

/-- Reads at most `limit` bytes, and at least one if any will arrive. -/
def read (limit : Nat) (s : DataStream) : Chunk × DataStream :=
  match nextPiece s.arriving with
  | some (first, rest, pieces) =>
    let taken := limit - 1
    let left := rest.drop taken
    (.bytes first (rest.take taken), { s with arriving := if left.isEmpty then pieces else left :: pieces })
  | none =>
    match s.ending with
    | none => (.finished, s)
    | some kind => (.failed kind, s)

/-- Sends bytes: what arrives on the other side, and whether all of it did. -/
def send (s : DataStream) (bytes : Bytes) : Bytes × Except IoKind Unit :=
  match s.room with
  | none => (bytes, .ok ())
  | some room =>
    if bytes.length ≤ room then (bytes, .ok ())
    else (bytes.take room, .error (s.writeFault.getD .writeZero))

/-- Sends bytes and closes the stream. -/
def sendAndClose (s : DataStream) (bytes : Bytes) : Bytes × Except IoKind Unit :=
  match s.send bytes with
  | (sent, .error kind) => (sent, .error kind)
  | (sent, .ok ()) =>
    match s.closeFault with
    | some kind => (sent, .error kind)
    | none => (sent, .ok ())

end DataStream

end FtpIntake
