/-
# LinkedData.Text.Utf8 -- characters as bytes, and bytes as characters

Reading takes one character at a time. Where the bytes are not well formed, the longest
part that could have begun a character counts as one mistake; the strict reader stops there
and the lenient one puts a replacement character in its place.
-/

namespace LinkedData.Text

/-- What a first byte announces: its share of the code point, the number of bytes that
follow, and the bounds of the next one, which rule out overlong forms and surrogates. -/
structure Utf8Lead where
  share : Nat
  count : Nat
  low : Nat
  high : Nat

/-- What a byte announces as the first of several. -/
def utf8Lead? (b : Nat) : Option Utf8Lead :=
  if b < 0xC2 then none
  else if b < 0xE0 then some ⟨b - 0xC0, 1, 0x80, 0xBF⟩
  else if b = 0xE0 then some ⟨0, 2, 0xA0, 0xBF⟩
  else if b = 0xED then some ⟨0xD, 2, 0x80, 0x9F⟩
  else if b < 0xF0 then some ⟨b - 0xE0, 2, 0x80, 0xBF⟩
  else if b = 0xF0 then some ⟨0, 3, 0x90, 0xBF⟩
  else if b < 0xF4 then some ⟨b - 0xF0, 3, 0x80, 0xBF⟩
  else if b = 0xF4 then some ⟨4, 3, 0x80, 0x8F⟩
  else none

/-- Reads the bytes that follow a first one; `none` where one is missing or out of bounds,
with the bytes from there on. -/
def utf8Tail (share low high : Nat) : Nat → List UInt8 → Option Nat × List UInt8
  | 0, bs => (some share, bs)
  | _ + 1, [] => (none, [])
  | n + 1, b :: bs =>
    if low ≤ b.toNat ∧ b.toNat ≤ high then
      utf8Tail (share * 0x40 + (b.toNat - 0x80)) 0x80 0xBF n bs
    else (none, b :: bs)

/-- Reads the character that starts with a byte; `none` is a mistake. Also returns the bytes
after the character or mistake. -/
def utf8Next (b : UInt8) (bs : List UInt8) : Option Char × List UInt8 :=
  if b < 0x80 then (some (Char.ofNat b.toNat), bs)
  else
    match utf8Lead? b.toNat with
    | none => (none, bs)
    | some lead =>
      let (code, rest) := utf8Tail lead.share lead.low lead.high lead.count bs
      (code.map Char.ofNat, rest)

theorem utf8Tail_length (share low high n : Nat) (bs : List UInt8) :
    (utf8Tail share low high n bs).2.length ≤ bs.length := by
  induction n generalizing share low high bs with
  | zero => simp [utf8Tail]
  | succ n ih =>
    cases bs with
    | nil => simp [utf8Tail]
    | cons b bs =>
      unfold utf8Tail
      split
      · have := ih (share * 0x40 + (b.toNat - 0x80)) 0x80 0xBF bs
        simp only [List.length_cons]
        omega
      · simp

theorem utf8Next_length (b : UInt8) (bs : List UInt8) :
    (utf8Next b bs).2.length ≤ bs.length := by
  unfold utf8Next
  split
  · simp
  · split
    · simp
    · exact utf8Tail_length ..

/-- The characters of a byte string, each mistake as `none`. -/
def utf8Scan (bs : List UInt8) : List (Option Char) :=
  match bs with
  | [] => []
  | b :: rest => (utf8Next b rest).1 :: utf8Scan (utf8Next b rest).2
termination_by bs.length
decreasing_by
  have := utf8Next_length b rest
  simp only [List.length_cons]
  omega

/-- The text of well-formed bytes. -/
def utf8Strict? (bs : List UInt8) : Option (List Char) :=
  (utf8Scan bs).mapM id

/-- The text of any bytes, with a replacement character for each mistake. -/
def utf8Lenient (bs : List UInt8) : List Char :=
  (utf8Scan bs).map fun c => c.getD '\uFFFD'

end LinkedData.Text
