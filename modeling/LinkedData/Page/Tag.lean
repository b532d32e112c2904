import LinkedData.Text.Blank
import LinkedData.Text.Caseless
import LinkedData.Text.Word

/-!
# LinkedData.Page.Tag -- tags and attributes in a page

A page is searched as text, so tags count wherever they stand, also in comments and scripts.
Names of tags and attributes are recognised whatever their case. A tag ends at the first `>`,
also when that stands inside a quoted value.
-/

namespace LinkedData.Page

open LinkedData.Text

/-- What follows the name of an opening tag; the name ends where its word ends. -/
def opening? (name : List Char) : List Char → Option (List Char)
  | '<' :: cs =>
    match dropWord? name cs with
    | some [] => some []
    | some (c :: rest) => if isWord c then none else some (c :: rest)
    | none => none
  | _ => none

/-- What follows the name of an attribute and its equals sign, less the white space around
the sign. -/
def attribute? (name : List Char) (cs : List Char) : Option (List Char) :=
  match dropWord? name cs with
  | none => none
  | some rest =>
    match rest.dropWhile isBlank with
    | '=' :: value => some (value.dropWhile isBlank)
    | _ => none

/-- Either kind of quote. -/
def isQuote (c : Char) : Bool :=
  c == '"' || c == '\''

/-- The part of a tag before its end. -/
def inside (tag : List Char) : List Char :=
  tag.takeWhile (· != '>')

/-- What follows a tag. -/
def beyond (tag : List Char) : List Char :=
  (tag.dropWhile (· != '>')).drop 1

theorem opening?_length {name cs rest : List Char} (h : opening? name cs = some rest) :
    rest.length < cs.length := by
  unfold opening? at h
  split at h
  · rename_i cs
    split at h
    · cases h
      simp
    · rename_i c tail hdrop
      split at h
      · cases h
      · cases h
        have := dropWord?_length hdrop
        simp only [List.length_cons] at this ⊢
        omega
    · cases h
  · cases h

theorem beyond_length (tag : List Char) : (beyond tag).length ≤ tag.length := by
  have := (List.dropWhile_suffix (l := tag) (· != '>')).length_le
  simp only [beyond, List.length_drop]
  omega

end LinkedData.Page
