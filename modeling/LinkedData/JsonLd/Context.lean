import LinkedData.Document.Error
import LinkedData.Json.Written
import LinkedData.JsonLd.SchemaOrg
import LinkedData.Url.Reference

/-!
# LinkedData.JsonLd.Context -- what the keys of a document mean

A context maps terms to IRIs and says how their values are to be read. It grows by processing
context values: the address of a known context, an object of definitions, or an array of
values in order; `null` forgets everything but the base. Of an object, first the settings are
taken, then the terms defined by a string, then all other terms, each in the order of the
keys, so that most compact IRIs find their prefix defined. Definitions made before a faulty
one stay.

`Context.expandIri` reads a name in a vocabulary position, `Context.resolve` a reference to a
node.
-/

namespace LinkedData.JsonLd

/-- What holds the values of a term together. -/
inductive Container where
  | set
  | list
  | graph
  | language
deriving DecidableEq, Repr

/-- What a term stands for. The IRI is empty for a term that is defined to mean nothing, and
a keyword for an alias. -/
structure TermDefinition where
  iri : String
  type : Option String := none
  container : Option Container := none
  context : Option Json := none
  language : Option String := none
deriving Repr

/-- The meaning of terms, and the settings for a whole document. -/
structure Context where
  terms : Dict TermDefinition := []
  vocab : Option String := none
  base : Option String := none
  language : Option String := none
deriving Repr

/-! ## The shapes of names -/

/-- Whether a text begins with `@`, as keywords do. -/
def isKeyword (s : String) : Bool :=
  s.toList.head? == some '@'

/-- A letter of ASCII, then letters, digits and `+ - .`. -/
def isScheme (cs : List Char) : Bool :=
  match cs with
  | [] => false
  | c :: rest => Url.isLetter c && rest.all Url.isSchemeChar

/-- The text before and after the first colon. -/
def splitColon? (s : String) : Option (List Char × List Char) :=
  match s.toList.dropWhile (· != ':') with
  | [] => none
  | _ :: rest => some (s.toList.takeWhile (· != ':'), rest)

/-- Schemes whose IRIs are absolute without two slashes. -/
def pathSchemes : List String :=
  ["urn", "did", "tel", "mailto", "data", "blob", "cid", "mid", "tag"]

/-- Whether a text is taken for an absolute IRI. -/
def isAbsoluteIri (s : String) : Bool :=
  match splitColon? s with
  | none => false
  | some (scheme, rest) =>
    isScheme scheme &&
      (rest.take 2 == ['/', '/'] || pathSchemes.contains (String.ofList scheme))

/-- Whether a text names a blank node, and its label. -/
def blankLabel? (s : String) : Option String :=
  match s.toList with
  | '_' :: ':' :: label => some (String.ofList label)
  | _ => none

namespace Context

/-- The context of a document that was retrieved from `base`. -/
def ofBase (base : Option String) : Context :=
  { base }

/-- The definition of a term. -/
def term? (c : Context) (term : String) : Option TermDefinition :=
  c.terms.find? term

/-- The IRI that a compact IRI stands for: the IRI of its prefix, and its rest. -/
def compact? (c : Context) (s : String) : Option String := do
  let (space, rest) ← splitColon? s
  let d ← c.term? (String.ofList space)
  return d.iri ++ String.ofList rest

/-- The IRI that a name in a vocabulary position stands for: a keyword, a term, a compact
or absolute IRI, or else a name in the default vocabulary. A name that looks like an IRI of
some unknown scheme stands for itself. -/
def expandIri (c : Context) (s : String) : Option String :=
  if isKeyword s || isAbsoluteIri s then some s
  else
    match c.term? s with
    | some d => some d.iri
    | none =>
      match c.compact? s with
      | some iri => some iri
      | none =>
        if (splitColon? s).any fun parts => isScheme parts.1 then some s
        else c.vocab.map (· ++ s)

/-- The IRI or blank node that a reference stands for. What cannot be resolved stays as it
is. -/
def resolve (c : Context) (s : String) : String :=
  if (blankLabel? s).isSome || isAbsoluteIri s then s
  else
    match c.compact? s with
    | some iri => iri
    | none => (c.base.bind fun base => Url.resolve? base s).getD s

/-- The IRI of a name, or the name itself where it has none. -/
def iriOrSelf (c : Context) (s : String) : String :=
  (c.expandIri s).getD s

/-! ## Definitions -/

/-- The container that a keyword names. -/
def container? : Json → Option Container
  | .string "@set" => some .set
  | .string "@list" => some .list
  | .string "@graph" => some .graph
  | .string "@language" => some .language
  | _ => none

/-- An error in a context. -/
def error (detail : String) : Document.Error :=
  { stage := .context, detail }

/-- The definition that a context gives a term by a value. -/
def define (c : Context) (term : String) : Json → Except Document.Error TermDefinition
  | .string target => .ok { iri := c.iriOrSelf target }
  | .object members =>
    let text (key : String) : Option String := (Dict.find? members key).bind Json.string?
    .ok {
      iri := c.iriOrSelf ((text "@id").getD term)
      type := (text "@type").map fun t => if isKeyword t then t else c.iriOrSelf t
      container := (Dict.find? members "@container").bind container?
      context := Dict.find? members "@context"
      language := text "@language" }
  | .null => .ok { iri := "" }
  | value => .error (error ("invalid term definition for '" ++ term ++ "': " ++ value.text))

/-- Takes over the settings of an object of definitions. -/
def takeSettings (c : Context) (members : Json.Members) : Context :=
  let c := match Dict.find? members "@vocab" with
    | some v => { c with vocab := v.string?.map c.iriOrSelf }
    | none => c
  let c := match Dict.find? members "@base" with
    | some b => { c with base := b.string?.map c.resolve }
    | none => c
  match Dict.find? members "@language" with
  | some l => { c with language := l.string? }
  | none => c

/-- A computation on a context that may fail; what was done before a failure stays. -/
abbrev Update := EStateM Document.Error Context

/-- Defines the terms of a list of members one after another. -/
def defineTerms : Json.Members → Update Unit
  | [] => pure ()
  | (term, value) :: rest => do
    match (← get).define term value with
    | .ok d => modify fun c => { c with terms := c.terms.insert term d }
    | .error e => throw e
    defineTerms rest

/-- Takes in an object of definitions. -/
def takeDefinitions (members : Json.Members) : Update Unit := do
  modify fun c => c.takeSettings members
  let terms := members.filter fun m => !isKeyword m.1
  defineTerms (terms.filter fun m => m.2.string?.isSome)
  defineTerms (terms.filter fun m => m.2.string?.isNone)

mutual

/-- Takes in a context value. -/
def process : Json → Update Unit
  | .array items => processAll items
  | .string url =>
    match remoteDefinitions? url with
    | some members => takeDefinitions members
    | none => throw (error ("remote context is not available offline: " ++ url))
  | .object members => takeDefinitions members
  | .null => modify fun c => ofBase c.base
  | value => throw (error ("invalid @context value: " ++ value.text))

/-- Takes in context values one after another. -/
def processAll : List Json → Update Unit
  | [] => pure ()
  | value :: rest => do
    process value
    processAll rest

end

/-- The context after taking in a value. -/
def extend (c : Context) (value : Json) : Except Document.Error Context :=
  match (process value).run c with
  | .ok () c => .ok c
  | .error e _ => .error e

end Context

end LinkedData.JsonLd
