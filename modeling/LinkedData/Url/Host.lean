import LinkedData.Text.Percent
import LinkedData.Url.Domain

/-!
# LinkedData.Url.Host -- the hosts of URLs

Under the special schemes a host is a domain or an address: escapes are resolved, the domain
is written in ASCII, a host whose last label is a number must be an IPv4 address, and a host
in brackets an IPv6 address. Under other schemes a host is any text without certain marks. The
result is the written form of the host.
-/

namespace LinkedData.Url

open LinkedData.Text

/-- Control characters of ASCII. -/
def isControl (c : Char) : Bool :=
  c.toNat < 0x20 || c.toNat == 0x7F

/-- The marks that no host may hold. -/
def isForbiddenInHost (c : Char) : Bool :=
  c == '\x00' || c == '\t' || c == '\n' || c == '\r' ||
    [' ', '#', '/', ':', '<', '>', '?', '@', '[', '\\', ']', '^', '|'].contains c

/-- The characters that no domain may hold. -/
def isForbiddenInDomain (c : Char) : Bool :=
  isForbiddenInHost c || isControl c || c == '%'

/-! ## IPv4 -/

/-- A part of an IPv4 address: decimal, octal after a zero, hexadecimal after `0x`. -/
def ipv4Part? (part : List Char) : Option Nat :=
  let number (radix : Nat) (valid : Char → Bool) (ds : List Char) : Option Nat :=
    if ds.all valid then some (ds.foldl (fun n d => radix * n + (hexValue? d).getD 0) 0) else none
  match part with
  | [] => none
  | '0' :: 'x' :: ds => number 16 isHexDigit ds
  | '0' :: 'X' :: ds => number 16 isHexDigit ds
  | '0' :: d :: ds => number 8 (fun c => '0' ≤ c && c ≤ '7') (d :: ds)
  | ds => number 10 Char.isDigit ds

/-- The labels of a domain, without the empty one after a final dot. -/
def labels (domain : List Char) : List (List Char) :=
  let parts := splitAt '.' domain
  if parts.length ≠ 1 ∧ parts.getLast? = some [] then parts.dropLast else parts

/-- Whether the last label of a domain is a number. -/
def endsInNumber (domain : List Char) : Bool :=
  match (labels domain).getLast? with
  | none => false
  | some last => (!last.isEmpty && last.all Char.isDigit) || (ipv4Part? last).isSome

/-- The number that an IPv4 address stands for: every part but the last is a byte, and the
last one fills what is left of four. -/
def ipv4? (domain : List Char) : Option Nat := do
  let parts ← (labels domain).mapM ipv4Part?
  let last ← parts.getLast?
  let front := parts.dropLast
  if parts.length > 4 ∨ front.any (· > 255) ∨ last ≥ Nat.pow 256 (4 - front.length) then none
  else some (front.zipIdx.foldl (fun n (b, i) => n + b * Nat.pow 256 (3 - i)) last)

/-- An IPv4 address in the form of four decimal bytes. -/
def ipv4Chars (n : Nat) : List Char :=
  let byte (i : Nat) : List Char := Nat.toDigits 10 (n / Nat.pow 256 i % 256)
  byte 3 ++ '.' :: byte 2 ++ '.' :: byte 1 ++ '.' :: byte 0

/-! ## IPv6 -/

/-- A group of one to four hexadecimal digits. -/
def ipv6Group? (ds : List Char) : Option Nat :=
  if 1 ≤ ds.length ∧ ds.length ≤ 4 ∧ ds.all isHexDigit then some (hexNumber ds) else none

/-- A decimal byte without leading zeros. -/
def decimalByte? (ds : List Char) : Option Nat :=
  let n := ds.foldl (fun n d => 10 * n + (hexValue? d).getD 0) 0
  if ds.isEmpty ∨ !ds.all Char.isDigit ∨ n > 255 ∨ (ds.length > 1 ∧ ds.head? = some '0') then none
  else some n

/-- The two groups of four decimal bytes. -/
def embeddedIpv4? (cs : List Char) : Option (List Nat) :=
  match (splitAt '.' cs).mapM decimalByte? with
  | some [a, b, c, d] => some [256 * a + b, 256 * c + d]
  | _ => none

/-- The groups of one side of an address; the last ones may be written as an IPv4 address
where `last` allows it. -/
def ipv6Groups? (last : Bool) (cs : List Char) : Option (List Nat) :=
  if cs.isEmpty then some []
  else
    let parts := splitAt ':' cs
    match parts.getLast? with
    | none => none
    | some final =>
      if last ∧ final.contains '.' then do
        return (← parts.dropLast.mapM ipv6Group?) ++ (← embeddedIpv4? final)
      else parts.mapM ipv6Group?

/-- Where two colons stand side by side for the first time: the text before and after. -/
def splitDoubleColon? : List Char → Option (List Char × List Char)
  | [] => none
  | ':' :: ':' :: rest => some ([], rest)
  | c :: rest => (splitDoubleColon? rest).map fun r => (c :: r.1, r.2)

/-- The eight groups of an IPv6 address. Two colons stand for one or more groups of zero. -/
def ipv6? (cs : List Char) : Option (List Nat) :=
  match splitDoubleColon? cs with
  | none => do
    let groups ← ipv6Groups? true cs
    if groups.length = 8 then some groups else none
  | some (front, back) => do
    let front ← ipv6Groups? false front
    let back ← ipv6Groups? true back
    let zeros := 8 - front.length - back.length
    if front.length + back.length < 8 then some (front ++ List.replicate zeros 0 ++ back) else none

/-- The length of the run of zeros at the front of a list. -/
def zeroRun (groups : List Nat) : Nat :=
  (groups.takeWhile (· == 0)).length

/-- Groups in hexadecimal with colons between them. -/
def groupsChars (groups : List Nat) : List Char :=
  [':'].intercalate (groups.map (Nat.toDigits 16))

/-- An IPv6 address, the first of its longest runs of at least two zeros as two colons. -/
def ipv6Chars (groups : List Nat) : List Char :=
  let runs := (List.range groups.length).map fun i => zeroRun (groups.drop i)
  let longest := runs.foldl max 0
  if longest < 2 then groupsChars groups
  else
    let start := runs.findIdx (· == longest)
    groupsChars (groups.take start) ++ ':' :: ':' :: groupsChars (groups.drop (start + longest))

/-! ## Domains and hosts -/

/-- A domain in ASCII; `none` if it is not well formed or holds a forbidden character. -/
def domain? (cs : List Char) : Option (List Char) :=
  (Domain.ascii? cs).filter fun domain => !domain.any isForbiddenInDomain

/-- A host in brackets. -/
def bracketed? (cs : List Char) : Option (List Char) :=
  match cs with
  | '[' :: rest =>
    if rest.getLast? = some ']' then
      (ipv6? rest.dropLast).map fun groups => '[' :: ipv6Chars groups ++ [']']
    else none
  | _ => none

/-- The written form of a host under a special scheme. -/
def specialHost? (cs : List Char) : Option (List Char) :=
  if cs.head? = some '[' then bracketed? cs
  else
    match domain? (utf8Lenient (percentDecode cs)) with
    | none => none
    | some [] => none
    | some domain => if endsInNumber domain then (ipv4? domain).map ipv4Chars else some domain

/-- The written form of a host under any other scheme; it may be empty. -/
def opaqueHost? (cs : List Char) : Option (List Char) :=
  if cs.head? = some '[' then bracketed? cs
  else if cs.any isForbiddenInHost then none
  else some (percentEncode isControl cs)

end LinkedData.Url
