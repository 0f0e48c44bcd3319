import FtpIntake.DataStream

/-!
# What the reads of a data stream give

A transfer sees a data stream only through its reads. How the bytes are cut into reads depends on the pieces that
arrive and on how much a read asks for; what the reads give together does not.

* **`DataStream.reads`** is the list of chunks that reading to the end gives, in order.
* **`read_cases`** says everything that one read can do: it gives a chunk and leaves the rest, or it finds the end of
  a stream that has no more bytes.
-/

namespace FtpIntake.DataStream

/-! ## The next piece

Empty pieces are never seen by a read. What is skipped adds nothing to the content. -/

theorem flatten_of_nextPiece_eq_some {pieces : List Bytes} {first : UInt8} {rest : Bytes} {later : List Bytes}
    (h : nextPiece pieces = some (first, rest, later)) :
    pieces.flatten = first :: (rest ++ later.flatten) := by
  induction pieces with
  | nil => exact absurd h (by simp [nextPiece])
  | cons piece pieces ih =>
    cases piece with
    | nil =>
      rw [show nextPiece ([] :: pieces) = nextPiece pieces from rfl] at h
      simpa using ih h
    | cons b bs =>
      obtain ⟨rfl, rfl, rfl⟩ : b = first ∧ bs = rest ∧ pieces = later := by simpa [nextPiece] using h
      simp

theorem flatten_of_nextPiece_eq_none {pieces : List Bytes} (h : nextPiece pieces = none) :
    pieces.flatten = [] := by
  induction pieces with
  | nil => rfl
  | cons piece pieces ih =>
    cases piece with
    | nil =>
      rw [show nextPiece ([] :: pieces) = nextPiece pieces from rfl] at h
      simpa using ih h
    | cons b bs => exact absurd h (by simp [nextPiece])

/-! ## One read -/

/-- **Everything a read can do.** It gives a chunk that is not longer than asked for and leaves the rest of the
content, or there is nothing left to read and it reports how the stream ends. -/
theorem read_cases (limit : Nat) (s : DataStream) :
    (∃ first rest left, s.read limit = (.bytes first rest, left) ∧ s.content = first :: rest ++ left.content ∧
      left.ending = s.ending ∧ rest.length < max limit 1) ∨
    (s.content = [] ∧ s.ending = none ∧ s.read limit = (.finished, s)) ∨
    (∃ kind, s.content = [] ∧ s.ending = some kind ∧ s.read limit = (.failed kind, s)) := by
  cases hnext : nextPiece s.arriving with
  | some next =>
    obtain ⟨first, rest, later⟩ := next
    let left : DataStream :=
      { s with arriving := if (rest.drop (limit - 1)).isEmpty then later else rest.drop (limit - 1) :: later }
    have hread : s.read limit = (.bytes first (rest.take (limit - 1)), left) := by
      rw [read, hnext]
    have hcontent : s.content = first :: (rest ++ later.flatten) := flatten_of_nextPiece_eq_some hnext
    -- what is not taken goes back in front of the later pieces
    have hleft : left.content = rest.drop (limit - 1) ++ later.flatten := by
      show (if (rest.drop (limit - 1)).isEmpty then later else rest.drop (limit - 1) :: later).flatten = _
      split
      · next hempty => rw [List.isEmpty_iff.1 hempty, List.nil_append]
      · rfl
    refine .inl ⟨first, rest.take (limit - 1), left, hread, ?_, rfl, ?_⟩
    · rw [hcontent, hleft, List.cons_append, ← List.append_assoc, List.take_append_drop]
    · have := List.length_take_le (limit - 1) rest
      omega
  | none =>
    have hcontent : s.content = [] := flatten_of_nextPiece_eq_none hnext
    cases hend : s.ending with
    | none => exact .inr (.inl ⟨hcontent, rfl, by rw [read, hnext, hend]⟩)
    | some kind => exact .inr (.inr ⟨kind, hcontent, rfl, by rw [read, hnext, hend]⟩)

/-- A read that gives bytes leaves less to be read. -/
theorem length_content_lt_of_read {limit : Nat} {s left : DataStream} {first : UInt8} {rest : Bytes}
    (h : s.read limit = (.bytes first rest, left)) : left.content.length < s.content.length := by
  rcases read_cases limit s with ⟨_, _, _, hread, hcontent, -⟩ | ⟨-, -, hread⟩ | ⟨_, -, -, hread⟩
  · rw [h] at hread
    cases hread
    rw [hcontent]
    simp only [List.length_append, List.length_cons]
    omega
  · rw [h] at hread
    cases hread
  · rw [h] at hread
    cases hread

/-! ## All reads

What arrives is cut into pieces, and reads cut it again. Put together, the reads give what has arrived. -/

/-- What the reads of a stream give, one after the other, up to the one that finds the end. -/
def reads (limit : Nat) (s : DataStream) : List Bytes :=
  match _h : s.read limit with
  | (.bytes first rest, left) => (first :: rest) :: left.reads limit
  | (.finished, _) | (.failed _, _) => []
termination_by s.content.length
decreasing_by exact length_content_lt_of_read ‹_›

theorem reads_of_read_eq_bytes {limit : Nat} {s left : DataStream} {first : UInt8} {rest : Bytes}
    (h : s.read limit = (.bytes first rest, left)) :
    s.reads limit = (first :: rest) :: left.reads limit := by
  rw [reads]
  split
  · next heq =>
    rw [h] at heq
    cases heq
    rfl
  · next heq => rw [h] at heq; cases heq
  · next heq => rw [h] at heq; cases heq

/-- The read that finds the end gives nothing. -/
theorem reads_of_content_eq_nil {limit : Nat} {s : DataStream} (h : s.content = []) : s.reads limit = [] := by
  -- without content a read can only find the end, whether that is the last one or a fault
  rcases read_cases limit s with ⟨_, _, _, -, hcontent, -⟩ | ⟨-, -, hread⟩ | ⟨_, -, -, hread⟩
  · rw [h] at hcontent
    cases hcontent
  · rw [reads]
    split
    · next heq => rw [hread] at heq; cases heq
    · rfl
    · rfl
  · rw [reads]
    split
    · next heq => rw [hread] at heq; cases heq
    · rfl
    · rfl

end FtpIntake.DataStream
