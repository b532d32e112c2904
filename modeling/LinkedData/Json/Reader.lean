import LinkedData.Json.Token

/-!
# LinkedData.Json.Reader -- JSON values from their tokens

A value is put together by a machine that keeps the arrays and objects that are still open,
innermost first, and knows which tokens may come next. At most 127 of them may be open at
once.
-/

namespace LinkedData.Json

/-- An array or object that is still open. -/
inductive Frame where
  /-- The items so far, last first. -/
  | array (items : List Json)
  /-- The members so far, and the key of the value that is being read. -/
  | object (members : Members) (key : String)

/-- What may come next. -/
inductive Expecting where
  /-- A value. -/
  | value
  /-- A value, or the end of the array that was just opened. -/
  | firstItem
  /-- A comma, or the end of the innermost array or object; or the end of the text. -/
  | separator
  /-- A key, or the end of the object that was just opened. -/
  | firstKey (members : Members)
  /-- A key. -/
  | key (members : Members)
  /-- The colon after this key. -/
  | colon (members : Members) (key : String)

/-- The machine: the open arrays and objects, what is read last if it is complete, and what
may come next. -/
structure Reader where
  frames : List Frame := []
  last : Option Json := none
  expecting : Expecting := .value

namespace Reader

/-- The number of arrays and objects that may be open at once. -/
def maxDepth : Nat := 127

/-- Takes in a complete value. -/
def complete (frames : List Frame) (value : Json) : Reader :=
  match frames with
  | [] => { frames := [], last := some value, expecting := .separator }
  | .array items :: outer => { frames := .array (value :: items) :: outer, expecting := .separator }
  | .object members key :: outer =>
    { frames := .object (Dict.insert key value members) key :: outer, expecting := .separator }

/-- Takes in the first token of a value. -/
def openValue (r : Reader) : Token → Option Reader
  | .openArray =>
    if r.frames.length < maxDepth then
      some { frames := .array [] :: r.frames, expecting := .firstItem }
    else none
  | .openObject =>
    if r.frames.length < maxDepth then some { r with expecting := .firstKey [] } else none
  | .string s => some (complete r.frames (.string s))
  | .atom v => some (complete r.frames v)
  | _ => none

/-- Takes in one token; `none` if it may not come here. -/
def step (r : Reader) (t : Token) : Option Reader :=
  match r.expecting, t with
  | .firstItem, .closeArray =>
    match r.frames with
    | .array _ :: outer => some (complete outer (.array []))
    | _ => none
  | .firstItem, _ => r.openValue t
  | .value, _ => r.openValue t
  | .separator, .comma =>
    match r.frames with
    | .array _ :: _ => some { r with expecting := .value }
    | .object members _ :: outer => some { frames := outer, expecting := .key members }
    | [] => none
  | .separator, .closeArray =>
    match r.frames with
    | .array items :: outer => some (complete outer (.array items.reverse))
    | _ => none
  | .separator, .closeObject =>
    match r.frames with
    | .object members _ :: outer => some (complete outer (.object members))
    | _ => none
  | .firstKey members, .closeObject => some (complete r.frames (.object members))
  | .firstKey members, .string k => some { r with expecting := .colon members k }
  | .key members, .string k => some { r with expecting := .colon members k }
  | .colon members k, .colon =>
    some { frames := .object members k :: r.frames, expecting := .value }
  | _, _ => none

/-- Takes in all tokens in order. -/
def run (r : Reader) : List Token → Option Reader
  | [] => some r
  | t :: ts => (r.step t).bind fun r => r.run ts

/-- The value that has been read, when nothing is open. -/
def result? (r : Reader) : Option Json :=
  if r.frames.isEmpty then r.last else none

end Reader

/-- The value of a JSON text; `none` if the text is not JSON. -/
def parse? (text : String) : Option Json := do
  let r ← Reader.run {} (← tokens? text.toList)
  r.result?

end LinkedData.Json
