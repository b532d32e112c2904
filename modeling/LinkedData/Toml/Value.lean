import LinkedData.Dict

/-!
# LinkedData.Toml.Value -- values, and tables that grow statement by statement

Of values other than texts, arrays and tables only the kind matters here. A table may be
written in several places, but each key of it only once, and how a table came to be decides
how it may still grow: a header may define a table that so far is only implied by headers
below it, dotted keys may extend such a table and those that dotted keys made, and a table
written as a value is complete. A table that dotted keys have extended counts as made by them.
-/

namespace LinkedData.Toml

/-- A key: the names between its dots. -/
abbrev Key := List String

/-- How a table came to be. -/
inductive Origin where
  /-- A header defined it. -/
  | header
  /-- A header below it implied it. -/
  | implied
  /-- Dotted keys made it. -/
  | dotted
  /-- It is written as a value. -/
  | inline
deriving DecidableEq, Repr

/-- What kind of scalar a value is. -/
inductive Scalar where
  | number
  /-- A number that is too large to be read. -/
  | excess
  | truth
  /-- A date, a time, or both. -/
  | moment
deriving DecidableEq, Repr

/-- A value. -/
inductive Value where
  | text (text : String)
  | scalar (kind : Scalar)
  | array (items : List Value)
  /-- An array whose tables are opened by headers. -/
  | tables (items : List (List (String × Value)))
  | table (origin : Origin) (members : List (String × Value))

/-- The members of a table. -/
abbrev Members := Dict Value

namespace Members

/-- Changes the table that a path leads to, and makes the tables on the way that are missing.
`made` says how those come to be. A path enters the last table of an array of tables, it
never enters a table written as a value, and dotted keys do not enter a table that a header
defined. The change may also say anew how its table came to be. -/
def alter (made : Origin) (change : Origin → Members → Option (Origin × Members))
    (origin : Origin) : Key → Members → Option (Origin × Members)
  | [], t => change origin t
  | k :: path, t =>
    match t.find? k with
    | none =>
      (alter made change made path []).map fun (o, u) => (origin, t.insert k (.table o u))
    | some (.tables items) =>
      match items.getLast? with
      | none => none
      | some last =>
        (alter made change .header path last).map fun (_, u) =>
          (origin, t.insert k (.tables (items.dropLast ++ [u])))
    | some (.table entered u) =>
      if entered = .inline ∨ (made = .dotted ∧ entered = .header) then none
      else (alter made change entered path u).map fun (o, u) => (origin, t.insert k (.table o u))
    | some _ => none

/-- Adds a member whose key is not yet there. -/
def add (name : String) (value : Value) (t : Members) : Option Members :=
  if t.has name then none else some (t.insert name value)

/-- Adds a member to the table that a key of one name, or the names before the last dot, lead
to. Dotted keys make the table theirs unless a header defined it. -/
def addMember (name : String) (value : Value) (isDotted : Bool) (origin : Origin)
    (t : Members) : Option (Origin × Members) :=
  if !isDotted then (t.add name value).map fun u => (origin, u)
  else if origin = .header then none
  else (t.add name value).map fun u => (.dotted, u)

/-- Adds the value of a key. -/
def addPair (t : Members) (key : Key) (value : Value) : Option Members :=
  match key.getLast? with
  | none => none
  | some name =>
    (alter .dotted (addMember name value (key.length != 1)) .header key.dropLast t).map (·.2)

/-- Adds the values of keys one after another. -/
def addPairs (t : Members) : List (Key × Value) → Option Members
  | [] => some t
  | (key, value) :: rest =>
    match t.addPair key value with
    | none => none
    | some t => t.addPairs rest

/-- Defines a table with a header and the pairs below it. -/
def define (t : Members) (key : Key) (pairs : List (Key × Value)) : Option Members :=
  match key.getLast? with
  | none => none
  | some name =>
    let change (origin : Origin) (u : Members) : Option (Origin × Members) :=
      let start := match u.find? name with
        | none => some []
        | some (.table .implied v) => some v
        | some _ => none
      (start.bind fun v => addPairs v pairs).map fun v =>
        (origin, u.insert name (.table .header v))
    (alter .implied change .header key.dropLast t).map (·.2)

/-- Adds a table with the pairs below its header to an array of tables. -/
def append (t : Members) (key : Key) (pairs : List (Key × Value)) : Option Members :=
  match key.getLast? with
  | none => none
  | some name =>
    let change (origin : Origin) (u : Members) : Option (Origin × Members) :=
      let before := match u.find? name with
        | none => some []
        | some (.tables items) => some items
        | some _ => none
      before.bind fun items =>
        (addPairs [] pairs).map fun v => (origin, u.insert name (.tables (items ++ [v])))
    (alter .implied change .header key.dropLast t).map (·.2)

end Members

end LinkedData.Toml
