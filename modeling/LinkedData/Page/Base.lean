import LinkedData.Page.Tag
import LinkedData.Url.Reference

/-!
# LinkedData.Page.Base -- the base that a page resolves references against

A page may name its base in the `href` attribute of a `base` tag, which is itself a reference
against the URL of the page. The first tag that has the attribute counts. Of several such
attributes in one tag the last one counts, and an attribute's name begins where a word begins.
-/

namespace LinkedData.Page

open LinkedData.Text

/-- A quoted value that is not empty; either quote ends it. -/
def quoted? : List Char → Option (List Char)
  | [] => none
  | q :: rest =>
    let value := rest.takeWhile (!isQuote ·)
    if isQuote q && !value.isEmpty && value.length < rest.length then some value else none

/-- The value of the `href` attribute that stands at the front of a text. -/
def href? (cs : List Char) : Option (List Char) :=
  (attribute? "href".toList cs).bind quoted?

/-- The value of the last `href` attribute of a tag; `before` is the character in front of
the text. -/
def lastHref? (before : Char) : List Char → Option (List Char)
  | [] => none
  | c :: cs =>
    if c = '>' then none
    else
      match lastHref? c cs with
      | some value => some value
      | none => if isWord before then none else href? (c :: cs)

/-- The value of the `href` attribute of a page's base tag. -/
def baseHref? : List Char → Option (List Char)
  | [] => none
  | c :: cs =>
    match (opening? "base".toList (c :: cs)).bind (lastHref? 'e') with
    | some value => some value
    | none => baseHref? cs

/-- The base of a page that was retrieved from `url`: its base tag against that URL. -/
def base (page : String) (url : Option String) : Option String :=
  match baseHref? page.toList, url with
  | some href, some url => some ((Url.resolve? url (String.ofList href)).getD url)
  | some href, none => some (String.ofList href)
  | none, url => url

end LinkedData.Page
