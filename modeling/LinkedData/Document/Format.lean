import LinkedData.Document.Error
import LinkedData.Text.Blank

/-!
# LinkedData.Document.Format -- which format a media type stands for

Parameters after the first semicolon do not matter, nor do white space around the type and
the case of its ASCII letters. Several media types stand for one format, each format has one
canonical media type.
-/

namespace LinkedData.Document

open LinkedData.Text

/-- The formats that can be read. -/
inductive Format where
  /-- N-Quads, and N-Triples as a part of it. -/
  | nquads
  | jsonLd
  /-- A page with embedded JSON-LD. -/
  | html
deriving DecidableEq, Repr

/-- The canonical media type of a format. -/
def Format.mediaType : Format → String
  | .nquads => "application/n-quads"
  | .jsonLd => "application/ld+json"
  | .html => "text/html"

/-- The media types that stand for a format. -/
def Format.mediaTypes : Format → List String
  | .nquads => ["application/n-quads", "application/n-triples", "text/plain"]
  | .jsonLd => ["application/ld+json", "application/json"]
  | .html => ["text/html", "application/xhtml+xml"]

/-- A content type without its parameters, in lower case. -/
def essence (contentType : String) : String :=
  String.ofList ((trim (contentType.toList.takeWhile (· != ';'))).map Char.toLower)

/-- The format that a content type stands for. -/
def Format.ofContentType (contentType : String) : Except Error Format :=
  match [Format.nquads, .jsonLd, .html].find? fun f => f.mediaTypes.contains (essence contentType)
  with
  | some f => .ok f
  | none => .error { stage := .mediaType, detail := contentType }

end LinkedData.Document
