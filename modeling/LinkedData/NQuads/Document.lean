import LinkedData.Arrivals
import LinkedData.NQuads.Statement

/-!
# LinkedData.NQuads.Document -- a document read line by line

A document is read on demand: `Lines.next` hands out one statement or one fault at a time,
and after a fault nothing more. Lines end at line feeds and count from one, also the blank
lines and the comments that are passed over.
-/

namespace LinkedData.NQuads

open LinkedData.Rdf LinkedData.Text

/-- A line that holds no statement: nothing, or a comment. -/
def isSkipped (line : List Char) : Bool :=
  line.isEmpty || line.head? == some '#'

/-- A document in the middle of being read. -/
structure Lines where
  /-- The text that is still to be read. -/
  rest : List Char
  /-- The number of lines read so far. -/
  count : Nat := 0
  /-- Whether a fault has ended the reading. -/
  failed : Bool := false
deriving Repr

namespace Lines

/-- A document of which nothing has been read. -/
def ofText (text : String) : Lines :=
  { rest := text.toList }

/-- The first line of a text that is not empty, and what follows its line feed. -/
def splitLine (cs : List Char) : List Char × List Char :=
  (cs.takeWhile (· != '\n'), (cs.dropWhile (· != '\n')).drop 1)

theorem splitLine_length {cs : List Char} (h : cs ≠ []) : (splitLine cs).2.length < cs.length := by
  cases cs with
  | nil => exact absurd rfl h
  | cons c cs =>
    have := (List.dropWhile_suffix (l := c :: cs) (· != '\n')).length_le
    simp only [splitLine, List.length_drop]
    simp only [List.length_cons] at this ⊢
    omega

/-- The next statement or fault after `count` lines, with the document that is left. -/
def advance (count : Nat) (cs : List Char) : Option (Except LineFault Quad × Lines) :=
  if _h : cs = [] then none
  else
    let line := trim (splitLine cs).1
    let rest := (splitLine cs).2
    if isSkipped line then advance (count + 1) rest
    else
      match statement line with
      | .ok q => some (.ok q, { rest, count := count + 1 })
      | .error fault =>
        some (.error { line := count + 1, fault }, { rest, count := count + 1, failed := true })
termination_by cs.length
decreasing_by exact splitLine_length _h

/-- Hands out the next statement or fault; `none` at the end and after a fault. -/
def next (d : Lines) : Option (Except LineFault Quad × Lines) :=
  if d.failed then none else advance d.count d.rest

theorem advance_length {count : Nat} {cs : List Char} {item : Except LineFault Quad} {d : Lines}
    (h : advance count cs = some (item, d)) : d.rest.length < cs.length := by
  fun_induction advance count cs with
  | case1 => cases h
  | case2 count cs hne line rest _ ih =>
    exact Nat.lt_trans (ih h) (splitLine_length hne)
  | case3 count cs hne line rest =>
    cases h
    exact splitLine_length hne
  | case4 count cs hne line rest =>
    cases h
    exact splitLine_length hne

theorem next_length {d d' : Lines} {item : Except LineFault Quad}
    (h : d.next = some (item, d')) : d'.rest.length < d.rest.length := by
  unfold next at h
  split at h
  · cases h
  · exact advance_length h

/-- Everything that a document hands out, and the document when nothing is left. -/
def drain (d : Lines) : Arrivals LineFault Quad × Lines :=
  match _h : d.next with
  | none => ([], d)
  | some (item, d') =>
    let (items, last) := d'.drain
    (item :: items, last)
termination_by d.rest.length
decreasing_by exact next_length _h

/-- Everything that a document hands out. -/
def toList (d : Lines) : Arrivals LineFault Quad :=
  d.drain.1

end Lines

/-- Reads a whole document; the first fault refuses it. -/
def parse (text : String) : Except LineFault Graph :=
  (Lines.ofText text).toList.collect

end LinkedData.NQuads
