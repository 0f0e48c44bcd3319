import FtpIntake.Decimal.Binary64
import FtpIntake.Text.Numeral

/-!
# The shortest decimal text of a floating point number

A value stands for every real number that rounds to it. The text of a value is the decimal number with the fewest
digits among these, and of several such the one nearest to the value. It is written out in full, without an exponent.

The decimal numbers with a given last place form a grid. If a point of the grid rounds to the value, then so does
one of the two points next to it, so it is enough to look at these two, from the coarsest grid on.
-/

namespace FtpIntake.Binary64

open Text

/-- The real numbers that round to a value, as fractions with a common denominator. -/
structure Interval where
  lower : Nat
  value : Nat
  upper : Nat
  denominator : Nat
  /-- Whether the two ends belong to it: they round to the neighbour with the even significand. -/
  closed : Bool

/--
The interval of a finite value that is not zero. Its ends lie halfway to the neighbours. Below a power of two the
neighbours are twice as dense.
-/
def interval (m : Nat) (e : Int) : Interval :=
  let lower := if m = Nat.pow 2 52 then 4 * m - 1 else 4 * m - 2
  let unit := if 0 ≤ e - 2 then Nat.pow 2 (e - 2).toNat else 1
  { lower := lower * unit
    value := 4 * m * unit
    upper := (4 * m + 2) * unit
    denominator := if 0 ≤ e - 2 then 1 else Nat.pow 2 (2 - e).toNat
    closed := m % 2 == 0 }

/-- The interval measured in units of ten to the power `place`. -/
def Interval.inUnits (i : Interval) (place : Int) : Interval :=
  if 0 ≤ place then { i with denominator := i.denominator * Nat.pow 10 place.toNat }
  else
    let factor := Nat.pow 10 (-place).toNat
    { i with lower := i.lower * factor, value := i.value * factor, upper := i.upper * factor }

/-- Whether a whole number lies in the interval. -/
def Interval.contains (i : Interval) (n : Nat) : Bool :=
  let scaled := n * i.denominator
  if i.closed then i.lower ≤ scaled && scaled ≤ i.upper else i.lower < scaled && scaled < i.upper

/-- The whole number in the interval that is nearest to the value. Of two equally near ones it is the greater. -/
def Interval.nearest? (i : Interval) : Option Nat :=
  let below := i.value / i.denominator
  let above := below + 1
  match i.contains below, i.contains above with
  | true, true =>
    some (if 2 * (i.value % i.denominator) < i.denominator then below else above)
  | true, false => some below
  | false, true => some above
  | false, false => none

/-- The last places that are tried, from the coarsest to the finest. Every value has a point on the last one. -/
def places : List Int :=
  (List.range 634).map (fun (n : Nat) => (309 : Int) - n)

/-- The shortest decimal number that rounds to a finite value which is not zero: its digits and its last place. -/
def shortest (m : Nat) (e : Int) : Nat × Int :=
  let i := interval m e
  (places.findSome? (fun place => ((i.inUnits place).nearest?).map (·, place))).getD (0, 0)

/-- The decimal number `digits · 10 ^ place` written out in full. -/
def positional (digits : Nat) (place : Int) : List Char :=
  if 0 ≤ place then numeral (digits * Nat.pow 10 place.toNat)
  else
    let unit := Nat.pow 10 (-place).toNat
    let fraction := numeral (digits % unit)
    numeral (digits / unit) ++ '.' :: (List.replicate ((-place).toNat - fraction.length) '0' ++ fraction)

/-- The text of a value. -/
def text : Binary64 → List Char
  | .nan => "NaN".toList
  | .infinite negative => (if negative then "-inf" else "inf").toList
  | .finite negative m e =>
    let magnitude :=
      if m = 0 then ['0']
      else
        let (digits, place) := shortest m e
        positional digits place
    if negative then '-' :: magnitude else magnitude

end FtpIntake.Binary64
