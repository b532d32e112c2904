/-
# LinkedData.Url.Punycode -- host labels of any script in ASCII

A label with characters beyond ASCII is spelled by its ASCII characters, a hyphen, and the
other characters as differences between their code points and positions, in a variable
number of base-36 digits whose thresholds adapt to the differences seen so far. `encode`
spells a label, `decode?` reads a spelling.
-/

namespace LinkedData.Url.Punycode

/-- The digit of a value below 36. -/
def digit (d : Nat) : Char :=
  if d < 26 then Char.ofNat (d + 'a'.toNat) else Char.ofNat (d - 26 + '0'.toNat)

/-- The threshold of the digit at position `k`, a multiple of 36. -/
def threshold (k bias : Nat) : Nat :=
  max 1 (min 26 (k - bias))

theorem threshold_pos (k bias : Nat) : 1 ≤ threshold k bias := by
  unfold threshold; omega

/-- The digits of a difference from position `k` on. -/
def digits (bias k q : Nat) : List Char :=
  let t := threshold k bias
  if q < t then [digit q]
  else digit (t + (q - t) % (36 - t)) :: digits bias (k + 36) ((q - t) / (36 - t))
termination_by q
decreasing_by
  have := threshold_pos k bias
  have := Nat.div_le_self (q - threshold k bias) (36 - threshold k bias)
  omega

/-- Scales a difference down for the next bias. -/
def damp (delta k : Nat) : Nat :=
  if 455 < delta then damp (delta / 35) (k + 36) else k + 36 * delta / (delta + 38)
termination_by delta

/-- The bias after a difference, the `points`-th character of the label. -/
def adapt (delta points : Nat) (first : Bool) : Nat :=
  let delta := if first then delta / 700 else delta / 2
  damp (delta + delta / points) 0

/-! ## Spelling -/

/-- What has been spelled of the characters beyond ASCII. -/
structure State where
  out : List Char := []
  delta : Nat := 0
  bias : Nat := 72
  /-- The number of characters spelled. -/
  count : Nat

/-- Passes a character while code point `n` is being spelled. -/
def pass (basic n : Nat) (s : State) (c : Char) : State :=
  if c.toNat < n then { s with delta := s.delta + 1 }
  else if c.toNat = n then
    { out := s.out ++ digits s.bias 36 s.delta
      delta := 0
      bias := adapt s.delta (s.count + 1) (s.count == basic)
      count := s.count + 1 }
  else s

/-- Spells the code points of a sorted list, the next of which is at least `n`. -/
def spell (label : List Char) (basic : Nat) : List Nat → Nat → State → State
  | [], _, s => s
  | m :: rest, n, s =>
    let s := { s with delta := s.delta + (m - n) * (s.count + 1) }
    let s := label.foldl (pass basic m) s
    spell label basic rest (m + 1) { s with delta := s.delta + 1 }

/-- The spelling of a label, without the mark that tells it from a plain one. -/
def encode (label : List Char) : List Char :=
  let basic := label.filter fun c => c.toNat < 0x80
  let others := ((label.map Char.toNat).filter (0x80 ≤ ·)).mergeSort.eraseDups
  basic ++ (if basic.isEmpty then [] else ['-']) ++
    (spell label basic.length others 0x80 { count := basic.length }).out

/-! ## Reading -/

/-- The value of a digit. -/
def digitValue? (c : Char) : Option Nat :=
  if 'a' ≤ c ∧ c ≤ 'z' then some (c.toNat - 'a'.toNat)
  else if '0' ≤ c ∧ c ≤ '9' then some (c.toNat - '0'.toNat + 26)
  else none

/-- What has been read of a label, up to some digit of a difference. -/
structure Reading where
  label : List Char
  /-- The code point that was put into the label last. -/
  point : Nat := 0x80
  /-- The position from which the difference counts. -/
  position : Nat := 0
  bias : Nat := 72
  /-- What the digits of the difference amount to. -/
  delta : Nat := 0
  /-- What the next digit counts for. -/
  weight : Nat := 1
  /-- The position of the next digit, a multiple of 36. -/
  k : Nat := 36

/-- Puts the character into the label that a difference stands for. A difference is counted in
characters: whole rounds through the label move the code point on. -/
def Reading.insert? (s : Reading) (delta : Nat) : Option Reading :=
  let count := s.label.length + 1
  let i := s.position + delta
  let point := s.point + i / count
  if point.isValidChar then
    some {
      label := s.label.insertIdx (i % count) (Char.ofNat point)
      point
      position := i % count + 1
      bias := adapt delta count (s.position == 0) }
  else none

/-- Reads a digit; one below its threshold ends a difference. Weights must fit in 32 bits. -/
def Reading.read? (s : Reading) (c : Char) : Option Reading := do
  let d ← digitValue? c
  let t := threshold s.k s.bias
  let delta := s.delta + d * s.weight
  if d < t then s.insert? delta
  else if s.weight * (36 - t) < Nat.pow 2 32 then
    some { s with delta, weight := s.weight * (36 - t), k := s.k + 36 }
  else none

/-- The label that a spelling stands for. Its last hyphen ends the ASCII characters, and the
last difference must be complete. -/
def decode? (cs : List Char) : Option (List Char) := do
  let digits := (cs.reverse.takeWhile (· != '-')).reverse
  let basic := cs.take (cs.length - digits.length)
  if basic = ['-'] then none
  else
    let s ← digits.foldlM Reading.read? { label := basic.dropLast }
    if s.k = 36 then some s.label else none

end LinkedData.Url.Punycode
