import LinkedData.Text.Blank
import LinkedData.Url.Path

/-!
# LinkedData.Url.Reference -- URLs from text, alone and against a base

`Url.parse?` reads a text that stands alone, `Url.join?` one that may be relative to a base.
Spaces and control characters around a text and line breaks and tabs inside it do not count;
those inside stay in the text up to where each part is read.
-/

namespace LinkedData.Url

open LinkedData.Text

/-- A text without the spaces and control characters around it. -/
def trimmed (cs : List Char) : List Char :=
  let outer (c : Char) : Bool := c.toNat ≤ 0x20
  dropTailWhile outer (cs.dropWhile outer)

/-- Whether a character may stand in a scheme after its first letter. -/
def isSchemeChar (c : Char) : Bool :=
  isLetter c || ('0' ≤ c && c ≤ '9') || c == '+' || c == '-' || c == '.'

/-- The scheme of a text in small letters, and the text after its colon. -/
def scheme? (cs : List Char) : Option (List Char × List Char) :=
  let front := cs.takeWhile fun c => isSchemeChar c || isIgnored c
  match counting front, cs.drop front.length with
  | c :: scheme, ':' :: rest =>
    if isLetter c then some ((c :: scheme).map Char.toLower, rest) else none
  | _, _ => none

/-- The fragment that a text with its mark in front holds. -/
def fragmentOf (cs : List Char) : Option (List Char) :=
  match first? cs with
  | some ('#', rest) => some (percentEncode escapedInFragment (counting rest))
  | _ => none

/-- Reads a query and a fragment from the mark that begins them. -/
def readTail (u : Url) (cs : List Char) : Url :=
  match first? cs with
  | some ('?', rest) =>
    let query := counting (rest.takeWhile (· != '#'))
    { u with
      query := some (percentEncode (escapedInQuery u.kind.isSpecial) query)
      fragment := fragmentOf (rest.dropWhile (· != '#')) }
  | _ => { u with query := none, fragment := fragmentOf cs }

/-- A URL with the query and fragment, or only the fragment, that a text begins with. -/
def withTail (u : Url) (cs : List Char) : Url :=
  match first? cs with
  | some ('#', _) => { u with fragment := fragmentOf cs }
  | _ => readTail u cs

/-- A URL with a path that was read, and the query and fragment after it. -/
def withPath (u : Url) (p : PathRead) : Url :=
  readTail { u with path := p.path } p.rest

/-! ## Authorities -/

/-- Whether a character ends an authority. -/
def endsAuthority (kind : SchemeKind) (c : Char) : Bool :=
  isSlash kind c || endsPath c

/-- The written form of a user, with the `@` that ends it; nothing for an empty one. -/
def userChars (user : List Char) : List Char :=
  let name := percentEncode escapedInUser (user.takeWhile (· != ':'))
  let password := percentEncode escapedInUser ((user.dropWhile (· != ':')).drop 1)
  let both := name ++ (if password.isEmpty then [] else ':' :: password)
  if both.isEmpty then [] else both ++ ['@']

/-- Splits an authority at its last `@`: the user, if there is one, and the rest. -/
def splitUser (authority : List Char) : Option (List Char) × List Char :=
  if authority.contains '@' then
    let host := (authority.reverse.takeWhile (· != '@')).reverse
    (some (authority.take (authority.length - host.length - 1)), host)
  else (none, authority)

/-- Splits a host from its port at the first colon outside brackets. -/
def splitPort (inside : Bool) : List Char → List Char × Option (List Char)
  | [] => ([], none)
  | c :: rest =>
    if c = ':' ∧ !inside then ([], some rest)
    else
      let inside := if c = '[' then true else if c = ']' then false else inside
      let (host, port) := splitPort inside rest
      (c :: host, port)

/-- The written form of a port with its colon, and what follows its digits, which must be
nothing or a backslash. A port that is empty or the default of the scheme is left out; one
that is too large is refused. -/
def readPort? (scheme : List Char) : Option (List Char) → Option (List Char × List Char)
  | none => some ([], [])
  | some cs =>
    let front := cs.takeWhile fun c => c.isDigit || isIgnored c
    let rest := cs.drop front.length
    let n := (counting front).foldl (fun n d => 10 * n + (hexValue? d).getD 0) 0
    if n > 0xFFFF ∨ rest.head?.any (· != '\\') then none
    else if (counting front).isEmpty ∨ defaultPort? scheme = some n then some ([], rest)
    else some (':' :: Nat.toDigits 10 n, rest)

/-- The written form of a host, which is empty only under schemes that are not special. -/
def writtenHost? (kind : SchemeKind) (host : List Char) : Option (List Char) :=
  if !kind.isSpecial then opaqueHost? host
  else if host.isEmpty then none
  else specialHost? host

/-- Reads an authority that ends where `rest` begins: its written form, and the text from the
path on. A user needs a host; nothing before an `@` is no user, but then only the end of the
text may follow a missing host. -/
def authority? (scheme cs rest : List Char) : Option (List Char × List Char) := do
  let (user, place) := splitUser cs
  let (host, port) := splitPort false place
  if user.any (fun u => (counting u).isEmpty) ∧ (counting place).isEmpty ∧ !rest.isEmpty then none
  else
    let user := userChars (counting (user.getD []))
    let written ← writtenHost? (schemeKind scheme) (counting host)
    if written.isEmpty ∧ (port.isSome ∨ !user.isEmpty) then none
    else
      let (port, tail) ← readPort? scheme port
      return (user ++ written ++ port, tail ++ rest)

/-- A text without the slash or backslash at its front. -/
def afterSlash (cs : List Char) : List Char :=
  match first? cs with
  | some (c, rest) => if isSlash .file c then rest else cs
  | none => []

/-- Reads the path that follows an authority. Special schemes have a path always, and any
other path begins with a slash. -/
def pathAfterAuthority (kind : SchemeKind) (cs : List Char) : PathRead :=
  if kind.isSpecial then readPath kind ['/'] (afterSlash cs)
  else
    match first? cs with
    | none => readPath kind [] cs
    | some (c, _) => readPath kind (if c = '/' ∨ endsPath c then [] else ['/']) cs

/-- Reads a URL from the text after the two slashes. -/
def afterSlashes? (scheme : List Char) (cs : List Char) : Option Url := do
  let kind := schemeKind scheme
  let front := cs.takeWhile fun c => !endsAuthority kind c
  let (authority, rest) ← authority? scheme front (cs.drop front.length)
  return withPath { scheme, authority := some authority, path := [] } (pathAfterAuthority kind rest)

/-! ## Slashes in front -/

/-- Slashes and backslashes at the front of a text, and what does not count among them. -/
def leadingSlashes (cs : List Char) : List Char :=
  cs.takeWhile fun c => isSlash .file c || isIgnored c

/-- The number of slashes and backslashes at the front of a text. -/
def slashCount (cs : List Char) : Nat :=
  (counting (leadingSlashes cs)).length

/-- What follows exactly two slashes. -/
def afterTwoSlashes? (cs : List Char) : Option (List Char) :=
  match first? cs with
  | some ('/', rest) =>
    match first? rest with
    | some ('/', rest) => some rest
    | _ => none
  | _ => none

/-! ## Files -/

/-- A file's host: the name `localhost` is no host. -/
def fileHost? (cs : List Char) : Option (List Char) :=
  if cs.isEmpty then some []
  else (specialHost? cs).map fun host => if host = "localhost".toList then [] else host

/-- A file's URL with a host and a path that was read. -/
def fileUrl (host : List Char) (p : PathRead) : Url :=
  withPath { scheme := "file".toList, authority := some host, path := [] } p

/-- A file's URL from the text after two slashes: a host may follow, unless it looks like a
drive letter. A drive letter at the front of the path takes the place of the host. -/
def fileAfterSlashes? (cs : List Char) : Option Url :=
  let front := cs.takeWhile fun c => !endsAuthority .file c
  if isDrive (counting front) then some (fileUrl [] (readPath .file ['/'] cs))
  else
    (fileHost? (counting front)).map fun host =>
      let rest := cs.drop front.length
      let p := readPath .file ['/'] (if host.isEmpty then rest else afterSlash rest)
      fileUrl (if p.tookDrive then [] else host) p

/-- The first segment of a path. -/
def firstSegment (path : List Char) : List Char :=
  (path.drop 1).takeWhile (· != '/')

/-- A file's URL from a text with one slash in front, which `rest` follows. The drive letter of
the base stays unless the text has its own, and otherwise its host. -/
def fileFromRoot (base : Option Url) (cs rest : List Char) : Url :=
  match base with
  | none => fileUrl [] (readPath .file [] cs)
  | some u =>
    let front := firstSegment u.path
    if startsWithDrive (counting rest) then fileUrl [] (readPath .file [] cs)
    else if isNormalDrive front then fileUrl [] (readPath .file ('/' :: front) cs)
    else fileUrl (u.authority.getD []) (readPath .file [] cs)

/-- A file's URL from a text that is relative to the path of a base. -/
def fileFromBase (u : Url) (cs : List Char) : Url :=
  if startsWithDrive (counting cs) then fileUrl [] (readPath .file ['/'] cs)
  else withPath u (readPath .file (popSegment .file u.path) cs)

/-- Reads a file's URL from the text after the scheme, against a file as base. -/
def file? (base : Option Url) (cs : List Char) : Option Url :=
  match first? cs with
  | none =>
    match base with
    | none => some (fileUrl [] (readPath .file ['/'] cs))
    | some u => some { u with fragment := none }
  | some (c, rest) =>
    if isSlash .file c then
      match first? rest with
      | some (d, after) =>
        if isSlash .file d then fileAfterSlashes? after else some (fileFromRoot base cs rest)
      | none => some (fileFromRoot base cs rest)
    else
      match base with
      | none => some (fileUrl [] (readPath .file ['/'] cs))
      | some u => if endsPath c then some (withTail u cs) else some (fileFromBase u cs)

/-! ## Other references -/

/-- Resolves a text without scheme against a base that is no file. -/
def relative? (base : Url) (cs : List Char) : Option Url :=
  match first? cs with
  | none => some { base with fragment := none }
  | some (c, rest) =>
    if endsPath c then some (withTail base cs)
    else if isSlash .file c then
      if slashCount cs < 2 then some (withPath base (readPath base.kind ['/'] rest))
      else
        afterSlashes? base.scheme
          ((afterTwoSlashes? cs).getD (cs.drop (leadingSlashes cs).length))
    else
      let front := popSegment base.kind base.path
      some (withPath base (readPath base.kind (if front.isEmpty then ['/'] else front) cs))

/-- Reads a URL with a scheme that is not special from the text after the scheme. -/
def other? (scheme : List Char) (cs : List Char) : Option Url :=
  match afterTwoSlashes? cs with
  | some rest => afterSlashes? scheme rest
  | none =>
    match first? cs with
    | some ('/', rest) => some (withPath { scheme, path := [] } (readPath .other ['/'] rest))
    | _ =>
      let path := percentEncode isControl (counting (cs.takeWhile fun c => !endsPath c))
      some (readTail { scheme, path } (cs.dropWhile fun c => !endsPath c))

/-- Reads a text with a scheme from the text after it. -/
def withScheme? (base : Option Url) (scheme cs : List Char) : Option Url :=
  match schemeKind scheme with
  | .file => file? (base.filter fun u => u.scheme = scheme) cs
  | .other => other? scheme cs
  | .special =>
    match base.filter fun u => u.scheme = scheme ∧ slashCount cs < 2 with
    | some u => relative? u cs
    | none => afterSlashes? scheme (cs.drop (leadingSlashes cs).length)

/-- Reads a text without scheme against a base. -/
def withBase? (base : Url) (cs : List Char) : Option Url :=
  if (first? cs).any (·.1 == '#') then some (withTail base cs)
  else if !base.canBeBase then none
  else if base.kind = .file then file? base cs
  else relative? base cs

/-- Reads a text with or without a base. -/
def read? (base : Option Url) (text : List Char) : Option Url :=
  let cs := trimmed text
  match scheme? cs with
  | some (scheme, rest) => withScheme? base scheme rest
  | none => base.bind fun u => withBase? u cs

/-- The URL that a text stands for on its own. -/
def parse? (text : String) : Option Url :=
  read? none text.toList

/-- The URL that a reference stands for against a base. -/
def join? (base : Url) (reference : String) : Option Url :=
  read? (some base) reference.toList

/-- The text of a reference resolved against a base; `none` if either is no URL. -/
def resolve? (base reference : String) : Option String := do
  let u ← parse? base
  let v ← u.join? reference
  return v.text

end LinkedData.Url
