import LinkedData.Text.Normal
import LinkedData.Url.Domain.Direction
import LinkedData.Url.Domain.Joining
import LinkedData.Url.Domain.Mapping
import LinkedData.Url.Punycode

/-!
# LinkedData.Url.Domain -- domains of any script, and their form in ASCII

A domain is first put in canonical form: its characters are replaced by what they stand for,
and the text by its normal form. Dots divide it into labels. A label may be spelled in ASCII
already, and is then judged by what it says. No label may begin with a mark, hold a joiner
where nothing is joined, or, where a label of the domain has letters that run to the left, mix
directions. `Domain.ascii?` is the form of a domain in which every label is spelled in ASCII.
-/

namespace LinkedData.Url.Domain

open LinkedData.Text

/-- A text in canonical form; `none` if it holds a character that no domain may hold. -/
def canonical? (cs : List Char) : Option (List Char) :=
  (cs.mapM image?).map fun images => normalForm images.flatten

/-- Whether a text is in ASCII. -/
def isAscii (cs : List Char) : Bool :=
  cs.all (·.toNat < 0x80)

/-! ## Labels -/

/-- What tells a label that is spelled in ASCII from a plain one. -/
def spellingMark : List Char := "xn--".toList

/-- The number of characters that a spelling may have at most. -/
def maxSpelling : Nat := 2000

/-- The number of characters that a label to be spelled may have at most. -/
def maxSpelled : Nat := 1000

/-- What a label says; `none` for a spelling of nothing, of a label in ASCII or of a label that
is not in canonical form. -/
def meaning? (label : List Char) : Option (List Char) :=
  if label.take 4 = spellingMark then
    let spelling := label.drop 4
    if spelling.isEmpty ∨ spelling.getLast? = some '-' ∨ !isAscii spelling ∨
        spelling.length > maxSpelling then none
    else (Punycode.decode? spelling).filter fun label => canonical? label == some label
  else some label

/-- A label spelled in ASCII. -/
def spelled? (label : List Char) : Option (List Char) :=
  if isAscii label then some label
  else if label.length > maxSpelled then none
  else some (spellingMark ++ Punycode.encode label)

/-- Whether a label begins with no mark and has joiners only where something is joined. -/
def isWellFormed (label : List Char) : Bool :=
  !label.head?.any isMark && joinersFit [] label

/-! ## Directions -/

/-- Whether a label has characters that run to the left. -/
def runsLeft (label : List Char) : Bool :=
  (label.map direction).any fun d => d == .leftward || d == .arabicNumber

/-- Whether a label keeps to the direction of its first letter, and ends in a letter or number
of it but for marks. A label that runs to the left has numbers of one kind. -/
def keepsDirection (label : List Char) : Bool :=
  let ds := label.map direction
  let last := (ds.reverse.dropWhile (· == .mark)).head?
  match ds with
  | [] => true
  | .rightward :: _ => !runsLeft label && [some .rightward, some .number].contains last
  | .leftward :: _ =>
    !ds.contains .rightward && !(ds.contains .number && ds.contains .arabicNumber) &&
      [some .leftward, some .number, some .arabicNumber].contains last
  | _ => false

/-- Whether the directions of the labels of a domain go together. -/
def directionsFit (labels : List (List Char)) : Bool :=
  !labels.any runsLeft || labels.all keepsDirection

/-! ## Domains -/

/-- The form of a domain in ASCII. -/
def ascii? (cs : List Char) : Option (List Char) := do
  let labels := splitAt '.' (← canonical? cs)
  let meanings ← labels.mapM meaning?
  if meanings.all isWellFormed && directionsFit meanings then
    return ['.'].intercalate (← labels.mapM spelled?)
  else none

end LinkedData.Url.Domain
