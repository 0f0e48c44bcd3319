/-!
# Numerals

Port numbers, address octets and configured sizes are read from decimal text and written back. A numeral is a
non-empty run of ASCII digits, with an optional sign in front, and a reader also refuses a value outside its range.
`readDigits_numeral` says that a written number reads back.

A few notations have digits of another radix. `digitsValue` is the number that such digits stand for.
-/

namespace FtpIntake.Text

/-! ## Decimal numerals -/

/-- Writes `n` with decimal digits and without leading zeros. -/
def numeral (n : Nat) : List Char :=
  Nat.toDigits 10 n

/-- Reads a non-empty run of ASCII digits. Leading zeros are harmless. -/
def readDigits (s : List Char) : Option Nat :=
  if s ≠ [] ∧ s.all Char.isDigit then some (Nat.ofDigitChars 10 s 0) else none

/-- Keeps a number that is at most `max`. -/
def atMost (max : Nat) (n : Nat) : Option Nat :=
  if n ≤ max then some n else none

/-- Reads an unsigned numeral of at most `max`: digits, with an optional plus sign in front. -/
def readUnsigned (max : Nat) (s : List Char) : Option Nat :=
  match s with
  | '+' :: r => readDigits r >>= atMost max
  | r => readDigits r >>= atMost max

/-- The greatest number of 64 bits. -/
def maxUnsigned64 : Nat := 18446744073709551615

/-- The greatest number of 64 bits of which one is the sign. The least one is further from zero by one. -/
def maxSigned64 : Nat := 9223372036854775807

/-- Reads a signed numeral that fits 64 bits. -/
def readSigned64 (s : List Char) : Option Int :=
  match s with
  | '-' :: r => (readDigits r >>= atMost (maxSigned64 + 1)).map (fun n => -(n : Int))
  | '+' :: r => (readDigits r >>= atMost maxSigned64).map Int.ofNat
  | r => (readDigits r >>= atMost maxSigned64).map Int.ofNat

/-! ## Other radices -/

/-- The value of a digit. Up to radix 16 the letters `a` to `f` are digits, in either case. -/
def digit? (c : Char) : Option Nat :=
  if c.isDigit then some (c.toNat - '0'.toNat)
  else if 'a' ≤ c ∧ c ≤ 'f' then some (c.toNat - 'a'.toNat + 10)
  else if 'A' ≤ c ∧ c ≤ 'F' then some (c.toNat - 'A'.toNat + 10)
  else none

/-- Whether a character is a digit in a radix of at most 16. -/
def isDigitOf (radix : Nat) (c : Char) : Bool :=
  (digit? c).any (· < radix)

/-- The number that some digits stand for. -/
def digitsValue (radix : Nat) (digits : List Char) : Nat :=
  digits.foldl (fun n c => radix * n + (digit? c).getD 0) 0

/-! ## Reading what was written -/

/-- A written number reads back. -/
theorem readDigits_numeral (n : Nat) : readDigits (numeral n) = some n := by
  have hdigits : ∀ c ∈ Nat.toDigits 10 n, c.isDigit = true :=
    fun c hc => Nat.isDigit_of_mem_toDigits (by omega) (by omega) hc
  simpa [readDigits, numeral, Nat.toDigits_ne_nil, Nat.ofDigitChars_ten_toDigits] using hdigits

/-- A written number is not empty and begins with a digit. -/
theorem numeral_eq_cons (n : Nat) : ∃ c r, numeral n = c :: r ∧ c.isDigit = true := by
  match h : numeral n with
  | [] => exact absurd h Nat.toDigits_ne_nil
  | c :: r =>
    refine ⟨c, r, rfl, ?_⟩
    exact Nat.isDigit_of_mem_toDigits (b := 10) (n := n) (by omega) (by omega)
      (by rw [numeral] at h; simp [h])

/-- A written number in range is read back by the bounded reader. -/
theorem readUnsigned_numeral {max n : Nat} (h : n ≤ max) : readUnsigned max (numeral n) = some n := by
  obtain ⟨c, r, hn, hc⟩ := numeral_eq_cons n
  have hplus : c ≠ '+' := by
    rintro rfl
    exact absurd hc (by decide)
  have hread := readDigits_numeral n
  rw [hn] at hread ⊢
  unfold readUnsigned
  split
  · next heq => exact absurd (List.cons.inj heq).1 hplus
  · simp [hread, atMost, h]

/-- What the bounded reader returns is in range. -/
theorem le_of_readUnsigned {max n : Nat} {s : List Char} (h : readUnsigned max s = some n) : n ≤ max := by
  have key : ∀ r : List Char, (readDigits r >>= atMost max) = some n → n ≤ max := by
    intro r hr
    cases hd : readDigits r with
    | none => simp [hd] at hr
    | some m =>
      simp only [hd, atMost, Option.bind_eq_bind, Option.bind_some] at hr
      split at hr
      · simp_all
      · simp at hr
  unfold readUnsigned at h
  split at h <;> exact key _ h

end FtpIntake.Text
