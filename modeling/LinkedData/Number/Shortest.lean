import LinkedData.Number.Binary64

/-!
# LinkedData.Number.Shortest -- the fewest digits that read back

Every double is the nearest one to a whole interval of numbers. `shortest` finds the decimal
with the fewest digits in that interval, and of those the one nearest to the double. On the
grid of decimals with `n` digits only the two neighbours of the double need to be tested: if
any point of the grid lies in the interval, one of the two does.
-/

namespace LinkedData.Number

/-- A positive decimal: a digit string without leading or trailing zeros, and the power of
ten of its first digit. -/
structure Digits where
  digits : List Char
  exponent : Int
deriving DecidableEq, Repr

namespace Magnitude

/-- The numbers that round to a magnitude, as numerators over `4 * den`: the two ends, and
whether the ends belong to it. -/
structure Interval where
  low : Nat
  high : Nat
  closed : Bool

/-- The interval of numbers that round to a magnitude. Below a power of two the gap is half
as wide as above it. -/
def interval (m : Magnitude) : Interval :=
  let unit := Nat.pow 2 m.exponent.toNat
  let below := if m.significand = Nat.pow 2 52 ∧ m.exponent ≠ minExponent then unit else 2 * unit
  { low := 4 * m.num - below
    high := 4 * m.num + 2 * unit
    closed := m.significand % 2 = 0 }

/-- Whether the fraction `n / d` lies in an interval over `4 * den`. -/
def Interval.contains (i : Interval) (den n d : Nat) : Bool :=
  let x := n * (4 * den)
  if i.closed then i.low * d ≤ x && x ≤ i.high * d else i.low * d < x && x < i.high * d

/-- The greatest power of ten that is no greater than a positive fraction, searched upward
from `e` within `fuel` steps. -/
def leadingPower (num den : Nat) : Nat → Int → Int
  | 0, e => e
  | fuel + 1, e =>
    if den * Nat.pow 10 (e + 1).toNat ≤ num * Nat.pow 10 (-(e + 1)).toNat then
      leadingPower num den fuel (e + 1)
    else e

/-- Drops the zeros at the end of a digit string. -/
def stripZeros (digits : List Char) : List Char :=
  (digits.reverse.dropWhile (· == '0')).reverse

/-- The decimal `c * 10 ^ e`. -/
def digitsOf (c : Nat) (e : Int) : Digits :=
  let digits := Nat.toDigits 10 c
  { digits := stripZeros digits, exponent := e + digits.length - 1 }

/-- Tests the two neighbours of a magnitude on the grid of multiples of `10 ^ e`. -/
def onGrid (m : Magnitude) (e : Int) : Option Digits :=
  let up := Nat.pow 10 e.toNat
  let down := Nat.pow 10 (-e).toNat
  let n := m.num * down
  let d := m.den * up
  let c := n / d
  let r := n % d
  let inside (c : Nat) : Bool := 0 < c && m.interval.contains m.den (c * up) down
  let nearer := if 2 * r < d ∨ (2 * r = d ∧ c % 2 = 0) then c else c + 1
  let other := if nearer = c then c + 1 else c
  if inside nearer then some (digitsOf nearer e)
  else if inside other then some (digitsOf other e)
  else none

/-- The shortest decimal of a positive magnitude whose first digit stands at `10 ^ lead`,
looked for on the grids of `n`, `n + 1`, … digits. -/
def search (m : Magnitude) (lead : Int) : Nat → Nat → Digits
  | 0, n => digitsOf (m.num * Nat.pow 10 (n - lead - 1).toNat / (m.den * Nat.pow 10 (lead + 1 - n).toNat))
      (lead + 1 - n)
  | fuel + 1, n =>
    match m.onGrid (lead + 1 - n) with
    | some d => d
    | none => search m lead fuel (n + 1)

/-- The fewest digits that read back as a positive magnitude, nearest first. Seventeen
digits always do. -/
def shortest (m : Magnitude) : Digits :=
  search m (leadingPower m.num m.den 640 (-330)) 17 1

end Magnitude

end LinkedData.Number
