import LinkedData.Rdf.Written
import LinkedData.Record.Shape

/-!
# LinkedData.Record.Projection -- records of entities

A shape is filled in field by field, in order, and the first failure fails the whole record.
Without an entity nothing is asked: texts are missing, lists are empty, nested records are
projected from no entity either, and gated fields are left out.
-/

namespace LinkedData.Record

open LinkedData.Rdf

variable {m : Type → Type} [Monad m]

/-- The first term that a path reaches from an entity, if there is one. -/
def reachOne (e : Engine m) (v : Vocabulary) (entity : Option Term) (p : Path) :
    Ask m (Option Term) :=
  match entity with
  | none => pure none
  | some t => p.evaluateOne e v t

/-- Every term that a path reaches from an entity. -/
def reachAll (e : Engine m) (v : Vocabulary) (entity : Option Term) (p : Path) :
    Ask m (List Term) :=
  match entity with
  | none => pure []
  | some t => p.evaluate e v t

/-- The bare value of a term that may be missing. -/
def Value.ofTerm (t : Option Term) : Value :=
  .ofOption (t.map Term.value)

/-- Puts a field in front of a record, unless it is left out. -/
def consField (name : String) : Option Value → Record → Record
  | none, r => r
  | some v, r => (name, v) :: r

mutual

/-- The record of an entity, or of none. -/
def project (e : Engine m) (v : Vocabulary) (entity : Option Term) :
    List (String × Field) → Ask m Record
  | [] => pure []
  | (name, field) :: rest => do
    let value ← projectField e v entity field
    let others ← project e v entity rest
    return consField name value others

/-- The value of a field; `none` when the field is left out. -/
def projectField (e : Engine m) (v : Vocabulary) (entity : Option Term) :
    Field → Ask m (Option Value)
  | .identifier => pure (some (.ofTerm entity))
  | .scalar path => do
    let t ← reachOne e v entity path
    return some (.ofTerm t)
  | .all path => do
    let ts ← reachAll e v entity path
    return some (.list (ts.map fun t => .ofTerm (some t)))
  | .nested path shape => do
    let t ← reachOne e v entity path
    let r ← project e v t shape
    return some (.record r)
  | .repeated path shape => do
    let ts ← reachAll e v entity path
    let rs ← ts.mapM fun t => project e v (some t) shape
    return some (.list (rs.map .record))
  | .gated path shape => do
    match ← reachOne e v entity path with
    | none => return none
    | some t =>
      let r ← project e v (some t) shape
      return some (.record r)

end

/-! ## Records of all entities of a type -/

/-- The nodes of a type, each once, in the order of the engine. -/
def findEntities (e : Engine m) (type : Iri) : Ask m (List Term) := do
  let bindings ← e.answer (.subjectsOfType type)
  return bindings.filterMap fun b => b.find? "entity"

/-- The records of all nodes of a type. -/
def projectEntities (e : Engine m) (v : Vocabulary) (type : Iri) (shape : Shape) :
    Ask m (List Record) := do
  let entities ← findEntities e type
  entities.mapM fun t => project e v (some t) shape

/-- How far a request for records has come. -/
inductive Progress where
  | idle
  | enumerating
  /-- Projecting an entity, counted from one. -/
  | projecting (entity : Nat)
  | done
  | failed
deriving DecidableEq, Repr

/-- The text of a request's progress. -/
def Progress.text : Progress → String
  | .idle => "idle"
  | .enumerating => "enumerating"
  | .projecting n => "projecting(" ++ toString n ++ ")"
  | .done => "done"
  | .failed => "failed"

end LinkedData.Record
