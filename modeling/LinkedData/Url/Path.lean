import LinkedData.Url.Basic

/-!
# LinkedData.Url.Path -- paths put together segment by segment

A path is read onto the one it is relative to. A segment of one dot is dropped and one of two
dots takes the last segment away; their escaped spellings count as dots. Under the scheme
`file` a drive letter at the front of a path is never taken away, it takes the place of the
host, and the path begins with exactly one slash.

Tabs and line breaks do not count, but they divide a segment into pieces, each of which is
added on its own: a file's path that is nothing but a drive letter is closed by a slash before
anything is added to it.
-/

namespace LinkedData.Url

open LinkedData.Text

/-- A letter of ASCII. -/
def isLetter (c : Char) : Bool :=
  ('a' ≤ c && c ≤ 'z') || ('A' ≤ c && c ≤ 'Z')

/-- A letter and a colon or a bar. -/
def isDrive : List Char → Bool
  | [a, b] => isLetter a && (b == ':' || b == '|')
  | _ => false

/-- A letter and a colon. -/
def isNormalDrive : List Char → Bool
  | [a, b] => isLetter a && b == ':'
  | _ => false

/-- Whether a text begins with a drive letter as a whole segment. -/
def startsWithDrive : List Char → Bool
  | a :: b :: rest =>
    isDrive [a, b] &&
      match rest with
      | [] => true
      | c :: _ => c == '/' || c == '\\' || c == '?' || c == '#'
  | _ => false

/-- The text after the last slash, and the text up to and with it. -/
def splitLastSlash (path : List Char) : List Char × List Char :=
  let name := (path.reverse.takeWhile (· != '/')).reverse
  (path.take (path.length - name.length), name)

/-- Takes the last segment away, but not a drive letter of a file. -/
def popSegment (kind : SchemeKind) (path : List Char) : List Char :=
  let (front, name) := splitLastSlash path
  if kind = .file ∧ isNormalDrive name then path else front

/-- Whether the slash at the end of a path can be taken away: it is neither the only one nor
the one after a drive letter. -/
def endSlashIsFree (path : List Char) : Bool :=
  let (front, name) := splitLastSlash path.dropLast
  !front.isEmpty && !startsWithDrive name

/-- A segment of one dot. -/
def isSingleDot (segment : List Char) : Bool :=
  let s := segment.map Char.toLower
  s == ['.'] || s == "%2e".toList

/-- A segment of two dots. -/
def isDoubleDot (segment : List Char) : Bool :=
  let s := segment.map Char.toLower
  s == "..".toList || s == "%2e%2e".toList || s == "%2e.".toList || s == ".%2e".toList

/-- Adds a slash to a path that does not end in one. -/
def closeSlash (path : List Char) : List Char :=
  if path.getLast? = some '/' then path else path ++ ['/']

/-- Takes a segment of two dots onto a path. -/
def stepUp (kind : SchemeKind) (path : List Char) (slash : Bool) : List Char :=
  let path := if path.getLast? = some '/' ∧ endSlashIsFree path then path.dropLast else path
  let path := popSegment kind path
  if slash then closeSlash path else path

/-- A path that is being put together. -/
structure PathSoFar where
  path : List Char
  /-- Where the segment begins that is being read. -/
  start : Nat := 0
  /-- Whether a drive letter was read at the front. -/
  tookDrive : Bool := false
deriving DecidableEq, Repr

namespace PathSoFar

/-- Adds a piece of a segment. The slash that closes a drive letter moves the beginning of the
segment along by one. -/
def addPiece (kind : SchemeKind) (p : PathSoFar) (piece : List Char) : PathSoFar :=
  let added := percentEncode escapedInPath piece
  if kind = .file ∧ isNormalDrive (p.path.drop 1) then
    { p with path := p.path ++ '/' :: added, start := p.start + 1 }
  else { p with path := p.path ++ added }

/-- Ends a segment; `slash` tells whether a slash follows it. -/
def close (kind : SchemeKind) (p : PathSoFar) (slash : Bool) : PathSoFar :=
  let segment := p.path.drop p.start
  let front := p.path.take p.start
  let tail := if slash then ['/'] else []
  if isDoubleDot segment then { p with path := stepUp kind front slash }
  else if isSingleDot segment then { p with path := closeSlash front }
  else if kind = .file ∧ p.start = 1 ∧ isDrive segment then
    { p with path := front ++ segment.take 1 ++ ':' :: tail, tookDrive := true }
  else { p with path := p.path ++ tail }

/-- Takes a segment onto a path; `slash` tells whether a slash follows it. -/
def addSegment (kind : SchemeKind) (p : PathSoFar) (segment : List Char) (slash : Bool) :
    PathSoFar :=
  let pieces := (splitWhere isIgnored segment).filter fun piece => !piece.isEmpty
  (pieces.foldl (addPiece kind) { p with start := p.path.length }).close kind slash

/-- Takes segments onto a path; a slash follows each but the last. -/
def addSegments (kind : SchemeKind) : PathSoFar → List (List Char) → PathSoFar
  | p, [] => p
  | p, [last] => p.addSegment kind last false
  | p, s :: t :: rest => addSegments kind (p.addSegment kind s true) (t :: rest)

end PathSoFar

/-- Whether a character ends a path. -/
def endsPath (c : Char) : Bool :=
  c == '?' || c == '#'

/-- Whether a character separates the segments of a path. -/
def isSlash (kind : SchemeKind) (c : Char) : Bool :=
  c == '/' || (kind.isSpecial && c == '\\')

/-- A path that was read from a text. -/
structure PathRead where
  path : List Char
  /-- The text from the query on. -/
  rest : List Char
  /-- Whether a drive letter takes the place of the host. -/
  tookDrive : Bool
deriving DecidableEq, Repr

/-- Reads a path onto another one. -/
def readPath (kind : SchemeKind) (path text : List Char) : PathRead :=
  let segments := splitWhere (isSlash kind) (text.takeWhile fun c => !endsPath c)
  let p := PathSoFar.addSegments kind { path } segments
  { path := if kind = .file then '/' :: p.path.dropWhile (· == '/') else p.path
    rest := text.dropWhile fun c => !endsPath c
    tookDrive := p.tookDrive }

end LinkedData.Url
