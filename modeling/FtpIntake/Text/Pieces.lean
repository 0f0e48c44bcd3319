/-!
# Cutting a text into pieces

Paths are cut at separators, command arguments at commas or at a delimiter that the client chose, and reply
messages into lines. All of it is `splitAt`, which keeps empty pieces: a text with `n` separators has `n + 1`
pieces, and `joinWith` puts them back together.

`replaceAll` fills placeholders: it replaces the occurrences of a pattern from left to right, none of which
overlaps the one before.
-/

namespace FtpIntake.Text

/-- Takes one given character off the front. -/
def expect (c : Char) : List Char → Option (List Char)
  | d :: r => if d = c then some r else none
  | [] => none

/-- The pieces of a text between the occurrences of `d`. There is always at least one. -/
def splitAt (d : Char) : List Char → List (List Char)
  | [] => [[]]
  | c :: r =>
    if c = d then [] :: splitAt d r
    else
      -- the character goes to the piece that begins behind it
      match splitAt d r with
      | [] => [[c]]
      | p :: ps => (c :: p) :: ps

/-- The pieces with `d` between each two of them. -/
def joinWith (d : Char) : List (List Char) → List Char
  | [] => []
  | [p] => p
  | p :: q :: ps => p ++ d :: joinWith d (q :: ps)

theorem splitAt_ne_nil (d : Char) (s : List Char) : splitAt d s ≠ [] := by
  cases s with
  | nil => simp [splitAt]
  | cons c r =>
    simp only [splitAt]
    split
    · simp
    · split <;> simp

/-- Joining the pieces gives the text back. -/
theorem joinWith_splitAt (d : Char) (s : List Char) : joinWith d (splitAt d s) = s := by
  induction s with
  | nil => rfl
  | cons c r ih =>
    simp only [splitAt]
    split
    · -- a separator: an empty piece comes in front
      next h =>
      cases hs : splitAt d r with
      | nil => exact absurd hs (splitAt_ne_nil d r)
      | cons p ps =>
        rw [hs] at ih
        simp [joinWith, ih, h]
    · -- any other character goes to the first piece
      cases hs : splitAt d r with
      | nil => exact absurd hs (splitAt_ne_nil d r)
      | cons p ps =>
        rw [hs] at ih
        cases ps with
        | nil => simpa [joinWith] using ih
        | cons q qs => simpa [joinWith] using ih

/-- No piece holds the separator. -/
theorem notMem_of_mem_splitAt {d : Char} {s p : List Char} (h : p ∈ splitAt d s) : d ∉ p := by
  induction s generalizing p with
  | nil =>
    simp only [splitAt, List.mem_singleton] at h
    simp [h]
  | cons c r ih =>
    simp only [splitAt] at h
    split at h
    · rcases List.mem_cons.1 h with h | h
      · simp [h]
      · exact ih h
    · next hc =>
      cases hs : splitAt d r with
      | nil => exact absurd hs (splitAt_ne_nil d r)
      | cons q qs =>
        rw [hs] at h ih
        rcases List.mem_cons.1 h with h | h
        · subst h
          simp only [List.mem_cons, not_or]
          exact ⟨fun e => hc e.symm, ih (List.mem_cons_self ..)⟩
        · exact ih (List.mem_cons_of_mem _ h)

/-- Every character of a piece is one of the text. -/
theorem mem_of_mem_splitAt {d c : Char} {s p : List Char} (h : p ∈ splitAt d s) (hc : c ∈ p) : c ∈ s := by
  induction s generalizing p with
  | nil =>
    simp only [splitAt, List.mem_singleton] at h
    simp [h] at hc
  | cons a r ih =>
    simp only [splitAt] at h
    split at h
    · rcases List.mem_cons.1 h with h | h
      · simp [h] at hc
      · exact List.mem_cons_of_mem _ (ih h hc)
    · cases hs : splitAt d r with
      | nil => exact absurd hs (splitAt_ne_nil d r)
      | cons q qs =>
        rw [hs] at h ih
        rcases List.mem_cons.1 h with h | h
        · subst h
          rcases List.mem_cons.1 hc with hc | hc
          · simp [hc]
          · exact List.mem_cons_of_mem _ (ih (List.mem_cons_self ..) hc)
        · exact List.mem_cons_of_mem _ (ih (List.mem_cons_of_mem _ h) hc)

/-- A text without the separator is one piece. -/
theorem splitAt_of_notMem {d : Char} {s : List Char} (h : d ∉ s) : splitAt d s = [s] := by
  induction s with
  | nil => rfl
  | cons c r ih =>
    simp only [List.mem_cons, not_or] at h
    simp [splitAt, Ne.symm h.1, ih h.2]

/-- The piece before the first separator comes off the front. -/
theorem splitAt_append {d : Char} {s : List Char} (h : d ∉ s) (r : List Char) :
    splitAt d (s ++ d :: r) = s :: splitAt d r := by
  induction s with
  | nil => simp [splitAt]
  | cons c t ih =>
    simp only [List.mem_cons, not_or] at h
    simp [splitAt, Ne.symm h.1, ih h.2]

/-! ## Lines

The lines of a message, with either kind of line end. -/

/-- A line that ended in a line feed, without the carriage return in front of that feed. -/
def dropReturn (s : List Char) : List Char :=
  if s.getLast? = some '\r' then s.dropLast else s

/--
The lines of a text. A line feed, or a carriage return and a line feed, ends a line; a last line that is empty
does not count, so a text that ends in a line feed has no line after it.
-/
def lines (s : List Char) : List (List Char) :=
  let pieces := splitAt '\n' s
  let last := pieces.getLastD []
  -- every piece but the last ended in a line feed
  pieces.dropLast.map dropReturn ++ if last.isEmpty then [] else [last]

/-! ## Placeholders

Occurrences are found from the left, and the search goes on behind each. -/

/-- Replaces each occurrence of `pattern`, left to right and without overlaps. A pattern is not empty. -/
def replaceAll (pattern replacement : List Char) (s : List Char) : List Char :=
  match s with
  | [] => []
  | c :: r =>
    if pattern ≠ [] ∧ pattern.isPrefixOf (c :: r) then
      -- the first character is off already, so one less is dropped
      replacement ++ replaceAll pattern replacement (r.drop (pattern.length - 1))
    else c :: replaceAll pattern replacement r
termination_by s.length
decreasing_by
  · simp only [List.length_drop, List.length_cons]
    omega
  · simp

end FtpIntake.Text
