import LinkedData.Dict
import LinkedData.Number.Binary64

/-!
# LinkedData.Json.Value -- JSON values with sorted members

The members of an object are a dictionary: sorted by key, each key once, so two objects with
the same members are the same value. A later member replaces an earlier one of the same key.
-/

namespace LinkedData

/-- A JSON number: a whole number that fits in 64 bits, or a double. -/
inductive Json.Number where
  | integer (n : Int)
  | double (d : Number.Binary64)
deriving DecidableEq, Repr, Inhabited

/-- A JSON value. The members of an object are sorted by key. -/
inductive Json where
  | null
  | bool (b : Bool)
  | number (n : Json.Number)
  | string (s : String)
  | array (items : List Json)
  | object (members : List (String × Json))
deriving Repr, Inhabited

namespace Json

/-- The members of an object. -/
abbrev Members := Dict Json

/-- The object of a list of pairs, of which a later one wins. -/
def ofPairs (pairs : List (String × Json)) : Json :=
  .object (Dict.ofPairs pairs)

/-- The member of an object; other values have none. -/
def member? : Json → String → Option Json
  | .object members, key => Dict.find? members key
  | _, _ => none

/-- The text of a string. -/
def string? : Json → Option String
  | .string s => some s
  | _ => none

/-- The items of an array. -/
def items? : Json → Option (List Json)
  | .array items => some items
  | _ => none

/-- The members of an object. -/
def members? : Json → Option Members
  | .object members => some members
  | _ => none

/-- Whether a value is `null`. -/
def isNull : Json → Bool
  | .null => true
  | _ => false

end Json

end LinkedData
