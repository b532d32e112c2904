import LinkedData.Proofs.Json.Reading
import LinkedData.Proofs.Record.Entities
import LinkedData.Record.Business
import LinkedData.Record.Written

/-!
# LinkedData.Proofs.Record.Reading -- the text of records is read back

The text of a record opens as many arrays and objects at once as its values are nested. How
deep that is, a shape alone decides: whatever an engine answers, the record that is projected is
not nested deeper than its shape. So the text of records of a shape that is not too deep is JSON
text, an array with one object for every record, in order.
-/

namespace LinkedData.Record

open LinkedData.Json LinkedData.Rdf

/-! ## Values of records -/

mutual

/-- The JSON value of a value. -/
def Value.json : Value → Json
  | .null => .null
  | .scalar text => .string text
  | .record fields => .ofPairs (fieldsJson fields)
  | .list items => .array (valuesJson items)

/-- The members of the fields of a record. -/
def fieldsJson : List (String × Value) → List (String × Json)
  | [] => []
  | (name, v) :: rest => (name, v.json) :: fieldsJson rest

/-- The JSON values of the items of a list. -/
def valuesJson : List Value → List Json
  | [] => []
  | v :: rest => v.json :: valuesJson rest

end

/-- The JSON value of a record. -/
def json (r : Record) : Json :=
  .ofPairs (fieldsJson r)

mutual

/-- How many arrays and objects the text of a value opens at once. -/
def Value.depth : Value → Nat
  | .null => 0
  | .scalar _ => 0
  | .record fields => fieldsDepth fields + 1
  | .list items => valuesDepth items + 1

/-- How many the fields of a record open at once. -/
def fieldsDepth : List (String × Value) → Nat
  | [] => 0
  | (_, v) :: rest => max v.depth (fieldsDepth rest)

/-- How many the items of a list open at once. -/
def valuesDepth : List Value → Nat
  | [] => 0
  | v :: rest => max v.depth (valuesDepth rest)

end

/-! ## Reading -/

mutual

theorem Value.reads : ∀ v : Value, Reads v.depth v.json v.chars
  | .null => reads_null
  | .scalar text => reads_string text
  | .record fields => reads_object (reads_fields fields (Nat.le_refl _))
  | .list items => reads_array (reads_values items (Nat.le_refl _))

theorem reads_fields : ∀ (fields : List (String × Value)) {depth : Nat},
    fieldsDepth fields ≤ depth →
      List.Forall₂ (ReadsMember depth) (fieldsJson fields) (fieldsChars fields)
  | [], _, _ => .nil
  | (_, v) :: rest, _, h =>
    .cons (readsMember (v.reads.mono (le_trans (le_max_left _ _) h)))
      (reads_fields rest (le_trans (le_max_right _ _) h))

theorem reads_values : ∀ (items : List Value) {depth : Nat},
    valuesDepth items ≤ depth →
      List.Forall₂ (Reads depth) (valuesJson items) (valuesChars items)
  | [], _, _ => .nil
  | v :: rest, _, h =>
    .cons (v.reads.mono (le_trans (le_max_left _ _) h))
      (reads_values rest (le_trans (le_max_right _ _) h))

end

/-- The text of records that are not nested too deep is the array of the records. -/
theorem parse?_listChars {records : List Record}
    (h : ∀ r ∈ records, fieldsDepth r + 2 ≤ Reader.maxDepth) :
    Json.parse? (String.ofList (listChars records)) = some (.array (records.map json)) := by
  have hrecords : List.Forall₂ (Reads (Reader.maxDepth - 1)) (records.map json)
      (records.map chars) := by
    rw [List.forall₂_map_left_iff, List.forall₂_map_right_iff, List.forall₂_same]
    intro r hr
    have hdepth : fieldsDepth r + 1 ≤ Reader.maxDepth - 1 := Nat.le_sub_of_add_le (h r hr)
    exact (reads_object (reads_fields r (Nat.le_refl _))).mono hdepth
  exact (reads_array hrecords).parse?_eq (by decide)

/-! ## Shapes bound how deep records are nested -/

mutual

/-- How many arrays and objects the fields of a shape open at once. -/
def shapeDepth : List (String × Field) → Nat
  | [] => 0
  | (_, field) :: rest => max (fieldDepth field) (shapeDepth rest)

/-- How many the value of a field opens at once. -/
def fieldDepth : Field → Nat
  | .identifier => 0
  | .scalar _ => 0
  | .all _ => 1
  | .nested _ shape => shapeDepth shape + 1
  | .repeated _ shape => shapeDepth shape + 2
  | .gated _ shape => shapeDepth shape + 1

end

theorem Value.depth_ofTerm (t : Option Term) : (Value.ofTerm t).depth = 0 := by
  cases t <;> rfl

theorem valuesDepth_le {items : List Value} {depth : Nat} (h : ∀ v ∈ items, v.depth ≤ depth) :
    valuesDepth items ≤ depth := by
  induction items with
  | nil => exact Nat.zero_le depth
  | cons v rest ih =>
    obtain ⟨hv, hrest⟩ := List.forall_mem_cons.mp h
    exact max_le hv (ih hrest)

/-- The depth of an optional value; a field that is left out opens nothing. -/
def optionalDepth : Option Value → Nat
  | none => 0
  | some v => v.depth

theorem fieldsDepth_consField (name : String) (value : Option Value) (r : Record) :
    fieldsDepth (consField name value r) = max (optionalDepth value) (fieldsDepth r) := by
  cases value with
  | none => exact (Nat.zero_max _).symm
  | some v => rfl

mutual

/-- A record is not nested deeper than its shape, whatever the engine is. -/
theorem yields_project : ∀ (shape : Shape) (entity : Option Term),
    Yields (fun r => fieldsDepth r ≤ shapeDepth shape) fun _ _ e v => project e v entity shape
  | [], _ => .pure (Nat.le_refl 0)
  | (name, field) :: rest, entity =>
    .bind (yields_projectField field entity) fun value hvalue =>
      .bind (yields_project rest entity) fun r hr => .pure <| by
        rw [fieldsDepth_consField]
        exact max_le_max hvalue hr

theorem yields_projectField : ∀ (field : Field) (entity : Option Term),
    Yields (fun value => optionalDepth value ≤ fieldDepth field)
      fun _ _ e v => projectField e v entity field
  | .identifier, entity => .pure (Value.depth_ofTerm entity).le
  | .scalar path, entity =>
    .bind (.anything (isInquiry_reachOne entity path)) fun t _ => .pure (Value.depth_ofTerm t).le
  | .all path, entity =>
    .bind (.anything (isInquiry_reachAll entity path)) fun ts _ => .pure <| by
      refine Nat.succ_le_succ (valuesDepth_le ?_)
      rw [List.forall_mem_map]
      exact fun t _ => (Value.depth_ofTerm (some t)).le
  | .nested path shape, entity =>
    .bind (.anything (isInquiry_reachOne entity path)) fun t _ =>
      .bind (yields_project shape t) fun _ hr => .pure (Nat.succ_le_succ hr)
  | .repeated path shape, entity =>
    .bind (.anything (isInquiry_reachAll entity path)) fun ts _ =>
      .bind (.mapM (fun t => yields_project shape (some t)) ts) fun rs hrs => .pure <| by
        refine Nat.succ_le_succ (valuesDepth_le ?_)
        rw [List.forall_mem_map]
        exact fun r hr => Nat.succ_le_succ (hrs r hr)
  | .gated path shape, entity => by
    refine .bind (.anything (isInquiry_reachOne entity path)) fun first _ => ?_
    cases first with
    | none => exact .pure (Nat.zero_le _)
    | some t => exact .bind (yields_project shape (some t)) fun _ hr => .pure (Nat.succ_le_succ hr)

end

/-- The records of all entities of a type are not nested deeper than their shape. -/
theorem yields_projectEntities (type : Iri) (shape : Shape) :
    Yields (fun records => ∀ r ∈ records, fieldsDepth r ≤ shapeDepth shape)
      fun _ _ e v => projectEntities e v type shape := by
  have hfind : IsInquiry fun _ _ e _ => findEntities e type :=
    .bind (.question (.solutions (.subjectsOfType type))) fun bindings => .pure _
  exact .bind (.anything hfind) fun entities _ =>
    .mapM (fun t => yields_project shape (some t)) entities

/-- The records of businesses are far from too deep. -/
theorem shapeDepth_businessShape : shapeDepth businessShape = 3 := by decide

end LinkedData.Record
