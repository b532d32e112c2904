import LinkedData.Json.Written
import LinkedData.Record.Shape

/-!
# LinkedData.Record.Written -- records as JSON text

A record is an object whose members keep the order of its fields, also when a name occurs
twice.
-/

namespace LinkedData.Record

open LinkedData.Json

mutual

/-- The JSON text of a value. -/
def Value.chars : Value → List Char
  | .null => "null".toList
  | .scalar text => stringChars text
  | .record fields => objectChars (fieldsChars fields)
  | .list items => arrayChars (valuesChars items)

/-- The JSON texts of the fields of a record. -/
def fieldsChars : List (String × Value) → List (List Char)
  | [] => []
  | (name, v) :: rest => memberChars name v.chars :: fieldsChars rest

/-- The JSON texts of the items of a list. -/
def valuesChars : List Value → List (List Char)
  | [] => []
  | v :: rest => v.chars :: valuesChars rest

end

/-- The JSON text of a record. -/
def chars (r : Record) : List Char :=
  objectChars (fieldsChars r)

/-- The JSON text of a list of records. -/
def listChars (records : List Record) : List Char :=
  arrayChars (records.map chars)

end LinkedData.Record
