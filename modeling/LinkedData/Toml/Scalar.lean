import LinkedData.Toml.Value

/-!
# LinkedData.Toml.Scalar -- numbers, truth values, dates and times

Each kind of scalar has a written form of its own. Digits of numbers may be grouped by single
underscores. Whole numbers have at most 128 bits, and other numbers must be nearer to some
double than to the power of two beyond the greatest one; a number that is larger is well
formed all the same. Dates name a day of the calendar, times run from midnight to the last
second, which may be a leap second, and its seconds may be left out.
-/

namespace LinkedData.Toml

/-- Digits, grouped by single underscores between them. -/
def isDigits (p : Char → Bool) : List Char → Bool
  | [] => false
  | [c] => p c
  | c :: '_' :: rest => p c && isDigits p rest
  | c :: rest => p c && isDigits p rest

/-- A number without the sign that it may have. -/
def unsigned : List Char → List Char
  | '+' :: rest => rest
  | '-' :: rest => rest
  | cs => cs

/-- A decimal number without a sign: digits, with no needless zero in front. -/
def isDecimal (cs : List Char) : Bool :=
  isDigits Char.isDigit cs && (cs.length == 1 || cs.head? != some '0')

/-- The digits and the base of a number without a sign. -/
def base : List Char → List Char × Nat
  | '0' :: 'x' :: digits => (digits, 16)
  | '0' :: 'o' :: digits => (digits, 8)
  | '0' :: 'b' :: digits => (digits, 2)
  | digits => (digits, 10)

/-- The value of a digit in any base up to sixteen. -/
def digitValue (c : Char) : Nat :=
  if c.isDigit then c.toNat - '0'.toNat else c.toLower.toNat - 'a'.toNat + 10

/-- The value of grouped digits. -/
def digitsValue (base : Nat) (digits : List Char) : Nat :=
  (digits.filter (· != '_')).foldl (fun n c => base * n + digitValue c) 0

/-- The digits of a base. -/
def isDigitOf (base : Nat) (c : Char) : Bool :=
  c.isDigit && digitValue c < base ||
    base == 16 && ('a' ≤ c.toLower && c.toLower ≤ 'f')

/-- Whether a text is a whole number, which only in base ten may have a sign. -/
def isInteger (cs : List Char) : Bool :=
  let (digits, b) := base cs
  if b == 10 then isDecimal (unsigned cs) else isDigits (isDigitOf b) digits

/-- Whether a whole number has at most 128 bits; a negative one is stored with its sign. -/
def integerFits (cs : List Char) : Bool :=
  let (digits, b) := base cs
  if b == 10 then
    digitsValue 10 (unsigned cs) ≤ (if cs.head? == some '-' then Nat.pow 2 127 else Nat.pow 2 128 - 1)
  else digitsValue b digits < Nat.pow 2 128

/-- The fraction and the exponent of a number, of which one may be missing. -/
def isFractionAndExponent (cs : List Char) : Bool :=
  let isExponent : List Char → Bool
    | [] => true
    | c :: rest => c.toLower == 'e' && isDigits Char.isDigit (unsigned rest)
  match cs with
  | '.' :: rest =>
    let fraction := rest.takeWhile fun c => c.isDigit || c == '_'
    isDigits Char.isDigit fraction && isExponent (rest.drop fraction.length)
  | _ => !cs.isEmpty && isExponent cs

/-- Infinity, or what is no number. -/
def isSpecialFloat (cs : List Char) : Bool :=
  let number := unsigned cs
  number == "inf".toList || number == "nan".toList

/-- A number with a fraction or an exponent. -/
def isFloat (cs : List Char) : Bool :=
  let number := unsigned cs
  let whole := number.takeWhile fun c => c.isDigit || c == '_'
  isDecimal whole && isFractionAndExponent (number.drop whole.length)

/-- The least number that rounds to the power of two beyond the greatest double: half a unit
in its last place above that double. -/
def floatBound : Nat :=
  (Nat.pow 2 54 - 1) * Nat.pow 2 970

/-- Whether `n * 10 ^ e` lies below the bound of doubles. Its number of digits settles all
cases but one, so that no great power is computed. -/
def decimalFits (n : Nat) (e : Int) : Bool :=
  let places : Int := (Nat.toDigits 10 n).length + e
  if n = 0 ∨ places ≤ 308 then true
  else if 309 < places then false
  else if e < 0 then n < floatBound * Nat.pow 10 (-e).toNat
  else n * Nat.pow 10 e.toNat < floatBound

/-- Whether a number with a fraction or an exponent lies in the range of doubles. -/
def floatFits (cs : List Char) : Bool :=
  let isMark (c : Char) : Bool := c == 'e' || c == 'E'
  let mantissa := (unsigned cs).takeWhile fun c => !isMark c
  let exponent := ((unsigned cs).dropWhile fun c => !isMark c).drop 1
  let fraction := ((mantissa.dropWhile (· != '.')).filter Char.isDigit).length
  let e : Int := digitsValue 10 (unsigned exponent)
  decimalFits (digitsValue 10 (mantissa.filter Char.isDigit))
    ((if exponent.head? == some '-' then -e else e) - fraction)

/-- A truth value. -/
def isTruth (cs : List Char) : Bool :=
  cs == "true".toList || cs == "false".toList

/-! ## Dates and times -/

/-- The number that exactly `width` digits at the front write, and what follows them. -/
def digits? (width : Nat) (cs : List Char) : Option (Nat × List Char) :=
  let front := cs.take width
  if front.length = width ∧ front.all Char.isDigit then
    some (digitsValue 10 front, cs.drop width)
  else none

/-- What follows a character. -/
def after? (c : Char) : List Char → Option (List Char)
  | d :: rest => if c = d then some rest else none
  | [] => none

/-- The days of a month. -/
def daysIn (year month : Nat) : Nat :=
  if month = 2 then
    if year % 4 = 0 ∧ (year % 100 ≠ 0 ∨ year % 400 = 0) then 29 else 28
  else if month = 4 ∨ month = 6 ∨ month = 9 ∨ month = 11 then 30
  else 31

/-- What follows a date. -/
def date? (cs : List Char) : Option (List Char) := do
  let (year, cs) ← digits? 4 cs
  let (month, cs) ← digits? 2 (← after? '-' cs)
  let (day, cs) ← digits? 2 (← after? '-' cs)
  if 1 ≤ month ∧ month ≤ 12 ∧ 1 ≤ day ∧ day ≤ daysIn year month then some cs else none

/-- What follows hours and minutes. -/
def hoursAndMinutes? (cs : List Char) : Option (List Char) := do
  let (hour, cs) ← digits? 2 cs
  let (minute, cs) ← digits? 2 (← after? ':' cs)
  if hour ≤ 23 ∧ minute ≤ 59 then some cs else none

/-- What follows a time. -/
def time? (cs : List Char) : Option (List Char) := do
  let cs ← hoursAndMinutes? cs
  match cs with
  | ':' :: cs =>
    let (second, cs) ← digits? 2 cs
    if second ≤ 60 then
      match cs with
      | '.' :: cs => if (cs.takeWhile Char.isDigit).isEmpty then none else cs.dropWhile Char.isDigit
      | _ => some cs
    else none
  | _ => some cs

/-- The distance from universal time, if there is one, and nothing after it. -/
def isOffset : List Char → Bool
  | [] => true
  | c :: rest =>
    (c.toLower == 'z' && rest.isEmpty) ||
      ((c == '+' || c == '-') && hoursAndMinutes? rest == some [])

/-- A date, a time, or both with a letter or a space between them. -/
def isMoment (cs : List Char) : Bool :=
  match date? cs with
  | none => time? cs == some []
  | some [] => true
  | some (c :: rest) =>
    (c.toLower == 't' || c == ' ') &&
      match time? rest with
      | some offset => isOffset offset
      | none => false

/-- The characters that scalars are written with, except for the space in a moment. -/
def isScalarChar (c : Char) : Bool :=
  c.isAlphanum || c == '+' || c == '-' || c == '.' || c == '_' || c == ':'

/-- The text of the scalar at the front, and what follows it. A space belongs to it when it
stands between a date and the digits of a time. -/
def scalarText (cs : List Char) : List Char × List Char :=
  let front := cs.takeWhile isScalarChar
  match cs.drop front.length with
  | ' ' :: d :: rest =>
    if date? front == some [] ∧ d.isDigit then
      let more := (d :: rest).takeWhile isScalarChar
      (front ++ ' ' :: more, (d :: rest).drop more.length)
    else (front, ' ' :: d :: rest)
  | rest => (front, rest)

/-- The kind of the scalar that a text writes. -/
def scalarKind? (cs : List Char) : Option Scalar :=
  if isTruth cs then some .truth
  else if isInteger cs then some (if integerFits cs then .number else .excess)
  else if isFloat cs then some (if floatFits cs then .number else .excess)
  else if isSpecialFloat cs then some .number
  else if isMoment cs then some .moment
  else none

/-- Reads the scalar at the front. -/
def scalar? (cs : List Char) : Option (Scalar × List Char) :=
  let (front, rest) := scalarText cs
  (scalarKind? front).map fun kind => (kind, rest)

end LinkedData.Toml
