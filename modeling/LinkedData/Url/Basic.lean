import LinkedData.Url.Host

/-!
# LinkedData.Url.Basic -- URLs and their written form

A URL is kept in the form in which it is written: every part is escaped already. A path that
does not begin with a slash is opaque; nothing can be resolved against such a URL.
-/

namespace LinkedData

/-- A URL. -/
structure Url where
  /-- The scheme in small letters, without its colon. -/
  scheme : List Char
  /-- What stands between the two slashes and the path: user, host and port. -/
  authority : Option (List Char) := none
  path : List Char
  query : Option (List Char) := none
  fragment : Option (List Char) := none
deriving DecidableEq, Repr

namespace Url

/-- How the rest of a URL is read depends on its scheme. -/
inductive SchemeKind where
  | file
  /-- Any other special scheme, which always has a host. -/
  | special
  | other
deriving DecidableEq, Repr

/-- The ports that special schemes leave out. -/
def defaultPort? (scheme : List Char) : Option Nat :=
  if scheme = "http".toList ∨ scheme = "ws".toList then some 80
  else if scheme = "https".toList ∨ scheme = "wss".toList then some 443
  else if scheme = "ftp".toList then some 21
  else none

/-- The kind of a scheme. -/
def schemeKind (scheme : List Char) : SchemeKind :=
  if scheme = "file".toList then .file
  else if (defaultPort? scheme).isSome then .special
  else .other

/-- Whether backslashes are slashes and hosts are domains. -/
def SchemeKind.isSpecial : SchemeKind → Bool
  | .other => false
  | _ => true

/-- The kind of a URL's scheme. -/
def kind (u : Url) : SchemeKind :=
  schemeKind u.scheme

/-- Whether references can be resolved against a URL. -/
def canBeBase (u : Url) : Bool :=
  u.authority.isSome || u.path.head? == some '/'

/-- A URL as text. Where there is no authority, a path that begins with two slashes is set
off by a dot, so that it is not taken for one. -/
def chars (u : Url) : List Char :=
  let front := u.scheme ++ ':' ::
    match u.authority with
    | some a => '/' :: '/' :: a
    | none => if u.path.take 2 = ['/', '/'] then ['/', '.'] else []
  front ++ u.path ++
    (match u.query with | some q => '?' :: q | none => []) ++
    (match u.fragment with | some f => '#' :: f | none => [])

/-- A URL as text. -/
def text (u : Url) : String :=
  String.ofList u.chars

/-! ## Characters that do not count -/

/-- The characters that do not count inside a text: tabs and line breaks. -/
def isIgnored (c : Char) : Bool :=
  c == '\t' || c == '\n' || c == '\r'

/-- The characters of a text that count. -/
def counting (cs : List Char) : List Char :=
  cs.filter fun c => !isIgnored c

/-- The first character that counts, and what follows it. -/
def first? : List Char → Option (Char × List Char)
  | [] => none
  | c :: rest => if isIgnored c then first? rest else some (c, rest)

/-! ## What is escaped where -/

/-- ASCII characters that are escaped in a fragment. -/
def escapedInFragment (c : Char) : Bool :=
  isControl c || [' ', '"', '<', '>', '\x60'].contains c

/-- ASCII characters that are escaped in a path. -/
def escapedInPath (c : Char) : Bool :=
  escapedInFragment c || ['#', '?', '{', '}'].contains c

/-- ASCII characters that are escaped in the name and password of a user. -/
def escapedInUser (c : Char) : Bool :=
  escapedInPath c || ['/', ':', ';', '=', '@', '[', '\\', ']', '^', '|'].contains c

/-- ASCII characters that are escaped in a query. -/
def escapedInQuery (special : Bool) (c : Char) : Bool :=
  isControl c || [' ', '"', '#', '<', '>'].contains c || (special && c == '\'')

end Url

end LinkedData
