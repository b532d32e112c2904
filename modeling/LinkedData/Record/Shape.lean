import LinkedData.Path

/-!
# LinkedData.Record.Shape -- what a record is made of

A shape lists the fields of a record in order. A field is computed from the record's entity:
its own identifier, the values that a path reaches, or records of what a path reaches.
-/

namespace LinkedData.Record

/-- How a field is computed from the record's entity. -/
inductive Field where
  /-- The entity itself. -/
  | identifier
  /-- The first value that a path reaches. -/
  | scalar (path : Path)
  /-- Every value that a path reaches. -/
  | all (path : Path)
  /-- A record of the first term that a path reaches, of no entity when it reaches none. -/
  | nested (path : Path) (shape : List (String × Field))
  /-- A record of every term that a path reaches. -/
  | repeated (path : Path) (shape : List (String × Field))
  /-- A record of the first term that a path reaches, and no field when it reaches none. -/
  | gated (path : Path) (shape : List (String × Field))
deriving Repr

/-- The fields of a record with their names, in order. -/
abbrev Shape := List (String × Field)

/-- The value of a field: nothing, a text, a record, or a list of values. -/
inductive Value where
  | null
  | scalar (text : String)
  | record (fields : List (String × Value))
  | list (items : List Value)
deriving Repr

end LinkedData.Record

namespace LinkedData

/-- A record: values with their names, in order. -/
abbrev Record := List (String × Record.Value)

namespace Record

/-- The first value of a name. -/
def find? (r : Record) (name : String) : Option Value :=
  (List.find? (fun entry => entry.1 == name) r).map (·.2)

/-- The text of a field, if it has one. -/
def scalar? (r : Record) (name : String) : Option String :=
  match r.find? name with
  | some (.scalar text) => some text
  | _ => none

/-- The value of an optional text. -/
def Value.ofOption : Option String → Value
  | none => .null
  | some text => .scalar text

end Record

end LinkedData
