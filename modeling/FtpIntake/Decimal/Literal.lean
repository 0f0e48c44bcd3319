import FtpIntake.Decimal.Binary64
import FtpIntake.Text.Numeral

/-!
# Reading floating point numbers

The texts that stand for a number in the environment: digits with at most one point among, before or behind them, an
optional exponent, an optional sign in front, and the words for infinity and for what is no number. Letters may be of
either case.
-/

namespace FtpIntake.Binary64

open Text

/-- Reads an optional sign: whether it is a minus sign, and what follows. -/
def readSign : List Char → Bool × List Char
  | '-' :: r => (true, r)
  | '+' :: r => (false, r)
  | r => (false, r)

/-- Reads an exponent, which ends the text. No exponent is an exponent of zero. -/
def readExponent : List Char → Option Int
  | [] => some 0
  | c :: r =>
    if c = 'e' ∨ c = 'E' then
      let (negative, digits) := readSign r
      (readDigits digits).map (fun n => if negative then -(n : Int) else n)
    else none

/-- Reads a number without a sign. -/
def readMagnitude (negative : Bool) (s : List Char) : Option Binary64 :=
  let whole := s.takeWhile Char.isDigit
  let rest := s.dropWhile Char.isDigit
  let (fraction, rest) :=
    match rest with
    | '.' :: r => (r.takeWhile Char.isDigit, r.dropWhile Char.isDigit)
    | r => ([], r)
  match readDigits (whole ++ fraction), readExponent rest with
  | some digits, some exponent => some (ofDecimal negative digits (exponent - fraction.length))
  | _, _ => none

/-- Reads the text of a number. -/
def ofText? (s : List Char) : Option Binary64 :=
  let (negative, magnitude) := readSign s
  let word := magnitude.map Char.toLower
  if word = "nan".toList then some .nan
  else if word = "inf".toList ∨ word = "infinity".toList then some (.infinite negative)
  else readMagnitude negative magnitude

end FtpIntake.Binary64
