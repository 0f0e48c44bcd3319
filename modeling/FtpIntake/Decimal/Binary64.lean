/-!
# Binary floating point numbers

A configured number may be written with a fraction or an exponent. It is then held in the 64-bit binary format, and
what the server does with it (rounding it to a whole number, or writing it out as a text) depends on the value that
the format keeps. Values are held exactly here: a significand and an exponent of two. No hardware arithmetic is
involved, so every statement about a value is one about natural numbers.

`ofDecimal` rounds a decimal number to the format and `toNat` rounds a value of the format to a whole number.
-/

namespace FtpIntake

/-- A number in the 64-bit binary format. A finite one is the significand times two to the exponent. -/
inductive Binary64 where
  | nan
  | infinite (negative : Bool)
  | finite (negative : Bool) (significand : Nat) (exponent : Int)
  deriving DecidableEq

namespace Binary64

/-- Significands have at most this many binary digits. -/
def precision : Nat := 53

/-- The exponent of the smallest values. -/
def minExponent : Int := -1074

/-- The exponent of the greatest values. -/
def maxExponent : Int := 971

/-- The fraction `n / d` rounded to a whole number. A half goes to the even neighbour. -/
def roundHalfEven (n d : Nat) : Nat :=
  let q := n / d
  let r := n % d
  if 2 * r < d ∨ (2 * r = d ∧ q % 2 = 0) then q else q + 1

/-- The fraction `n / d` scaled by two to the power `-e`, again as a fraction. -/
def scaleDown (n d : Nat) (e : Int) : Nat × Nat :=
  if 0 ≤ e then (n, d * Nat.pow 2 e.toNat) else (n * Nat.pow 2 (-e).toNat, d)

/--
The exponent with which the fraction `n / d` is held. The quotient of the two leading powers of two is at most off by
one, which the second comparison puts right.
-/
def exponentOf (n d : Nat) : Int :=
  -- the number of binary digits is known but for one
  let guess := max ((n.log2 : Int) - d.log2 - precision) minExponent
  let (n', d') := scaleDown n d guess
  if n' / d' < Nat.pow 2 precision then guess else guess + 1

/-- The fraction `n / d`, rounded to the format. -/
def ofFraction (negative : Bool) (n d : Nat) : Binary64 :=
  let e := exponentOf n d
  let (n', d') := scaleDown n d e
  let m := roundHalfEven n' d'
  -- rounding up may take one digit more than there is room for
  let (m, e) := if m = Nat.pow 2 precision then (m / 2, e + 1) else (m, e)
  if maxExponent < e then .infinite negative else .finite negative m e

/--
The decimal number `digits · 10 ^ exponent`, rounded to the format. Numbers far out of its range are recognised by
their number of digits, so that no power of ten is formed for them.
-/
def ofDecimal (negative : Bool) (digits : Nat) (exponent : Int) : Binary64 :=
  -- the position of the first digit
  let magnitude := exponent + (Nat.toDigits 10 digits).length
  if digits = 0 ∨ magnitude < -330 then .finite negative 0 minExponent
  else if 310 < magnitude then .infinite negative
  else if 0 ≤ exponent then ofFraction negative (digits * Nat.pow 10 exponent.toNat) 1
  else ofFraction negative digits (Nat.pow 10 (-exponent).toNat)

/--
The whole number nearest to a value, where a half goes up. Negative values and what is no number give zero, and a value
above `max` gives `max`.
-/
def toNat (max : Nat) : Binary64 → Nat
  | .nan | .infinite true | .finite true _ _ => 0
  | .infinite false => max
  | .finite false m e =>
    -- half of the denominator is added before cutting off
    min max (if 0 ≤ e then m * Nat.pow 2 e.toNat else (m + Nat.pow 2 ((-e).toNat - 1)) / Nat.pow 2 (-e).toNat)

/-- Whether a value is a number and not infinite. -/
def isFinite : Binary64 → Bool
  | .finite _ _ _ => true
  | _ => false

end Binary64

end FtpIntake
