/-
# LinkedData.Number.Binary64 -- double-precision numbers in exact arithmetic

A finite double is a sign, a significand below 2^53 and a power of two. Every operation here
is an exact fraction of natural numbers rounded once, to the nearest double with ties to the
even significand, so no runtime arithmetic is involved and results can be computed in a
proof.
-/

namespace LinkedData.Number

/-- The size of a finite double: `significand * 2 ^ exponent`. The significand is below
`2 ^ 53`; it is below `2 ^ 52` only at the least exponent, where the subnormal numbers and
zero are. -/
structure Magnitude where
  significand : Nat
  exponent : Int
deriving DecidableEq, Repr, Inhabited

/-- A finite double; zero has both signs. -/
structure Binary64 where
  negative : Bool
  magnitude : Magnitude
deriving DecidableEq, Repr, Inhabited

namespace Magnitude

/-- The exponent of the subnormal numbers. -/
def minExponent : Int := -1074

/-- The greatest exponent of a finite double. -/
def maxExponent : Int := 971

/-- Zero. -/
def zero : Magnitude := ⟨0, minExponent⟩

/-- Whether a magnitude is zero. -/
def isZero (m : Magnitude) : Bool :=
  m.significand == 0

/-- The numerator of a magnitude as a fraction. -/
def num (m : Magnitude) : Nat :=
  m.significand * Nat.pow 2 m.exponent.toNat

/-- The denominator of a magnitude as a fraction. -/
def den (m : Magnitude) : Nat :=
  Nat.pow 2 (-m.exponent).toNat

/-- `num / den` divided by `2 ^ e`, as a quotient and a remainder over a new denominator. -/
def scaledQuotient (num den : Nat) (e : Int) : Nat × Nat × Nat :=
  let n := num * Nat.pow 2 (-e).toNat
  let d := den * Nat.pow 2 e.toNat
  (n / d, n % d, d)

/-- The exponent at which the significand of `num / den` fills 53 bits, or the least one. -/
def exponentOf (num den : Nat) : Int :=
  let guess : Int := (num.log2 : Int) - (den.log2 : Int) - 52
  let e := if (scaledQuotient num den guess).1 < Nat.pow 2 52 then guess - 1 else guess
  max e minExponent

/-- The double nearest to `num / den`, the even one of two; `none` where the result would
not be finite. -/
def round (num den : Nat) : Option Magnitude :=
  if num = 0 then some zero
  else
    let e := exponentOf num den
    let (q, r, d) := scaledQuotient num den e
    let q := if 2 * r > d ∨ (2 * r = d ∧ q % 2 = 1) then q + 1 else q
    let m : Magnitude := if q = Nat.pow 2 53 then ⟨Nat.pow 2 52, e + 1⟩ else ⟨q, e⟩
    if m.exponent ≤ maxExponent then some m else none

/-- The double nearest to a natural number. -/
def ofNat (n : Nat) : Option Magnitude :=
  round n 1

/-- The rounded product. -/
def mul (a b : Magnitude) : Option Magnitude :=
  round (a.num * b.num) (a.den * b.den)

/-- The rounded quotient; dividing by zero has no finite result. -/
def div (a b : Magnitude) : Option Magnitude :=
  if b.isZero then none else round (a.num * b.den) (a.den * b.num)

/-- The double nearest to a power of ten. -/
def pow10 (k : Nat) : Option Magnitude :=
  ofNat (Nat.pow 10 k)

end Magnitude

end LinkedData.Number
