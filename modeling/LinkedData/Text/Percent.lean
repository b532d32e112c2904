import LinkedData.Text.Hex
import LinkedData.Text.Utf8

/-!
# LinkedData.Text.Percent -- percent escapes

A byte is escaped as a percent sign and two upper-case hexadecimal digits. Characters beyond
ASCII are always escaped, byte by byte; which ASCII characters are escaped depends on where
they stand. In reading, a percent sign without two digits after it stands for itself.
-/

namespace LinkedData.Text

/-- The escape of a byte. -/
def percentByte (b : UInt8) : List Char :=
  '%' :: hexUpper 2 b.toNat

/-- A text with the ASCII characters that satisfy `escaped`, and all others beyond ASCII,
escaped. -/
def percentEncode (escaped : Char → Bool) (cs : List Char) : List Char :=
  cs.flatMap fun c =>
    if c.toNat < 0x80 && !escaped c then [c]
    else (String.utf8EncodeChar c).flatMap percentByte

/-- The bytes that a text with escapes stands for. -/
def percentDecode : List Char → List UInt8
  | [] => []
  | '%' :: a :: b :: rest =>
    match hexValue? a, hexValue? b with
    | some x, some y => UInt8.ofNat (16 * x + y) :: percentDecode rest
    | _, _ => 0x25 :: percentDecode (a :: b :: rest)
  | c :: rest => String.utf8EncodeChar c ++ percentDecode rest

/-- The text of a form field: plus signs are spaces, escapes are bytes, and bytes that are
no characters are replaced. -/
def formDecode (cs : List Char) : List Char :=
  utf8Lenient (percentDecode (cs.map fun c => if c = '+' then ' ' else c))

end LinkedData.Text
