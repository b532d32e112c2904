import LinkedData.Json.Value
import LinkedData.Number.Shortest

/-!
# LinkedData.Json.Number -- numbers as JSON text

A number without fraction and exponent that fits in 64 bits is a whole number. Any other is
a double, computed in a fixed way that is not always the nearest one: as many leading digits
as fit in 64 bits make a whole number, which is rounded to a double and then multiplied or
divided by a power of ten.

Doubles are written with the fewest digits that read back: positionally, with at least one
decimal, from 10^-5 up to below 10^16, and otherwise with a signed exponent.
-/

namespace LinkedData.Json

open LinkedData.Number

/-- The greatest number of 64 bits. -/
def maxWord : Nat := Nat.pow 2 64 - 1

/-- The value of a decimal digit. -/
def digitValue (c : Char) : Nat :=
  c.toNat - '0'.toNat

/-- Appends digits to a whole number while it fits in 64 bits; also returns the digits that
do not fit. -/
def appendDigits (n : Nat) : List Char → Nat × List Char
  | [] => (n, [])
  | d :: ds =>
    let next := 10 * n + digitValue d
    if next ≤ maxWord then appendDigits next ds else (n, d :: ds)

/-- The greatest power of ten that is divided by in one step. -/
def maxStep : Nat := 308

/-- Divides a magnitude a number of times by `10 ^ maxStep`, until it is zero. -/
def divMaxSteps (m : Magnitude) : Nat → Option Magnitude
  | 0 => some m
  | n + 1 =>
    if m.isZero then some m
    else ((Magnitude.pow10 maxStep).bind m.div).bind fun m => divMaxSteps m n

/-- Divides a magnitude by `10 ^ k` in steps of at most `maxStep` powers of ten, the last of
them the smallest. -/
def divPow10 (m : Magnitude) (k : Nat) : Option Magnitude :=
  let steps := (k - 1) / maxStep
  (divMaxSteps m steps).bind fun m =>
    if m.isZero then some m else (Magnitude.pow10 (k - steps * maxStep)).bind m.div

/-- Multiplies or divides a magnitude by a power of ten; `none` where the result is too
large for a double. -/
def scale (m : Magnitude) (e : Int) : Option Magnitude :=
  if e < 0 then divPow10 m (-e).toNat
  else if m.isZero then some m
  else if e ≤ maxStep then (Magnitude.pow10 e.toNat).bind m.mul
  else none

/-- The parts of a number's text. -/
structure NumberText where
  negative : Bool
  whole : List Char
  /-- The digits after the point, if there is one. -/
  fraction : Option (List Char)
  exponent : Option Int
deriving Repr

/-- The double of a number's text; `none` where it is too large. -/
def NumberText.double? (t : NumberText) : Option Binary64 := do
  let (n, dropped) := appendDigits 0 t.whole
  let fraction := t.fraction.getD []
  let (n, unused) := appendDigits n fraction
  let e : Int := dropped.length + unused.length - fraction.length + t.exponent.getD 0
  let m ← scale (← Magnitude.ofNat n) e
  return { negative := t.negative, magnitude := m }

/-- The number that a text denotes; `none` where it is too large for a double. A negative
zero is a double, since whole numbers have only one zero. -/
def NumberText.number? (t : NumberText) : Option Number :=
  let (n, dropped) := appendDigits 0 t.whole
  if t.fraction.isNone && t.exponent.isNone && dropped.isEmpty then
    if !t.negative then some (.integer n)
    else if 0 < n ∧ n ≤ Nat.pow 2 63 then some (.integer (-n))
    else t.double?.map .double
  else t.double?.map .double

/-! ## Writing -/

/-- A decimal with at least one digit on either side of the point. -/
def positional (d : Digits) : List Char :=
  if d.exponent < 0 then
    '0' :: '.' :: List.replicate (-d.exponent - 1).toNat '0' ++ d.digits
  else
    let places := d.exponent.toNat + 1
    let whole := d.digits.take places
    let fraction := d.digits.drop places
    whole ++ List.replicate (places - whole.length) '0' ++ '.' ::
      (if fraction.isEmpty then ['0'] else fraction)

/-- A decimal with one digit before the point and a signed exponent. -/
def scientific (d : Digits) : List Char :=
  let fraction := d.digits.drop 1
  d.digits.take 1 ++ (if fraction.isEmpty then [] else '.' :: fraction) ++
    'e' :: (if d.exponent < 0 then '-' else '+') :: Nat.toDigits 10 d.exponent.natAbs

/-- The text of a double. -/
def doubleChars (d : Binary64) : List Char :=
  let sign := if d.negative then ['-'] else []
  if d.magnitude.isZero then sign ++ ['0', '.', '0']
  else
    let s := d.magnitude.shortest
    sign ++ (if -5 ≤ s.exponent ∧ s.exponent < 16 then positional s else scientific s)

/-- The text of a whole number. -/
def integerChars (n : Int) : List Char :=
  (if n < 0 then ['-'] else []) ++ Nat.toDigits 10 n.natAbs

/-- The text of a number. -/
def Number.chars : Number → List Char
  | .integer n => integerChars n
  | .double d => doubleChars d

end LinkedData.Json
