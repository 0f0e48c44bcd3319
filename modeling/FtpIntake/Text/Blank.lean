/-!
# White space and control characters

Command lines, arguments and configured names are trimmed of Unicode white space, not only of ASCII blanks,
and upload names are refused when they hold a control character. This module fixes both classes and the
operations that the rest of the library builds on them: trimming, and cutting a text at its first blank.

Texts are `List Char` here. `String` is what the library stores and shows; a text is taken apart as the list
of its characters, where recursion and `List` lemmas apply.
-/

namespace FtpIntake.Text

/-- The characters with Unicode's property `White_Space`. -/
def isBlank (c : Char) : Bool :=
  let n := c.toNat
  (9 ≤ n && n ≤ 13) || n == 0x20 || n == 0x85 || n == 0xA0 || n == 0x1680 ||
    (0x2000 ≤ n && n ≤ 0x200A) || n == 0x2028 || n == 0x2029 || n == 0x202F || n == 0x205F ||
    n == 0x3000

/-- The characters of Unicode's general category `Cc`: the two blocks of control codes. -/
def isControl (c : Char) : Bool :=
  let n := c.toNat
  n < 0x20 || (0x7F ≤ n && n < 0xA0)

/-- The two characters that end a command line. -/
def isLineEnd (c : Char) : Bool :=
  c == '\r' || c == '\n'

/-- Drops the longest tail all of whose characters are in the class. -/
def dropEndWhile (p : Char → Bool) (s : List Char) : List Char :=
  (s.reverse.dropWhile p).reverse

/-- Drops the leading white space. -/
def trimStart (s : List Char) : List Char :=
  s.dropWhile isBlank

/-- Drops the trailing white space. -/
def trimEnd (s : List Char) : List Char :=
  dropEndWhile isBlank s

/-- Drops the white space on both sides. -/
def trim (s : List Char) : List Char :=
  trimEnd (trimStart s)

/-- Drops every carriage return and line feed at the end. -/
def dropLineEnd (s : List Char) : List Char :=
  dropEndWhile isLineEnd s

/-- The text up to the first blank. -/
def firstWord (s : List Char) : List Char :=
  s.takeWhile (fun c => !isBlank c)

/-- What follows the first blank, or `none` when the text holds no blank. -/
def afterFirstBlank (s : List Char) : Option (List Char) :=
  (s.dropWhile (fun c => !isBlank c)).tail?

/-- The first word and, if there is a blank, the text after it make up the whole text but that blank. -/
theorem firstWord_append {s r : List Char} (h : afterFirstBlank s = some r) :
    ∃ b, isBlank b = true ∧ s = firstWord s ++ b :: r := by
  induction s with
  | nil => simp [afterFirstBlank] at h
  | cons c t ih =>
    by_cases hc : isBlank c = true
    · refine ⟨c, hc, ?_⟩
      simp [afterFirstBlank, hc] at h
      simp [firstWord, hc, h]
    · simp [afterFirstBlank, hc] at h
      obtain ⟨b, hb, ht⟩ := ih (by simpa [afterFirstBlank] using h)
      refine ⟨b, hb, ?_⟩
      simp only [firstWord] at ht
      simp [firstWord, hc, ← ht]

/-- A text without a blank is its own first word. -/
theorem firstWord_eq_self {s : List Char} (h : afterFirstBlank s = none) : firstWord s = s := by
  induction s with
  | nil => rfl
  | cons c t ih =>
    by_cases hc : isBlank c = true
    · simp [afterFirstBlank, hc] at h
    · simp [afterFirstBlank, hc] at h
      have := ih (by simpa [afterFirstBlank] using h)
      simp only [firstWord] at this
      simp [firstWord, hc, this]

/-- The text after the first blank is shorter than the whole. -/
theorem length_lt_of_afterFirstBlank {s r : List Char} (h : afterFirstBlank s = some r) :
    r.length < s.length := by
  obtain ⟨b, -, hs⟩ := firstWord_append h
  rw [hs]
  simp
  omega

/-- Trimming never lengthens a text. -/
theorem length_trimStart_le (s : List Char) : (trimStart s).length ≤ s.length := by
  induction s with
  | nil => simp [trimStart]
  | cons c t ih =>
    simp only [trimStart, List.dropWhile_cons] at ih ⊢
    split
    · simp only [List.length_cons]
      omega
    · simp

end FtpIntake.Text
