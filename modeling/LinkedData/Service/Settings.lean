import LinkedData.Record.Business
import LinkedData.Text.Shown

/-!
# LinkedData.Service.Settings -- how a service behaves

Every setting has a default. Settings can be reported in one line of text.
-/

namespace LinkedData.Service

open LinkedData.Text

/-- How much a service logs. -/
inductive Level where
  | error
  | warn
  | info
  | debug
  | trace
deriving DecidableEq, Repr

/-- The name of a level. -/
def Level.name : Level → String
  | .error => "error"
  | .warn => "warn"
  | .info => "info"
  | .debug => "debug"
  | .trace => "trace"

/-- The level of a name. -/
def Level.ofName? (name : String) : Option Level :=
  [Level.error, .warn, .info, .debug, .trace].find? fun l => l.name == name

theorem Level.ofName?_name (l : Level) : ofName? l.name = some l := by
  cases l <;> decide

/-- The settings of a service. -/
structure Settings where
  level : Level := .info
  listenAddress : String := "0.0.0.0:8080"
  /-- Whether quads are served. -/
  triples : Bool := true
  /-- Whether records of businesses are served. -/
  business : Bool := true
  /-- Seconds between two reports of the statistics. -/
  statisticsInterval : Nat := 60
  /-- What is asked for when a source is dereferenced. -/
  accept : String := "text/html"
  userAgent : String := "QuadLens/0.1.0"
  /-- Seconds after which dereferencing is given up. -/
  timeout : Option Nat := none
  /-- Whether a request dereferences its source only once. -/
  cacheSource : Bool := true
  /-- A JSON-LD document that defines the vocabulary. -/
  contextFile : Option String := none
  /-- The type of the entities that count as businesses. -/
  businessType : Rdf.Iri := Record.businessType
deriving DecidableEq, Repr

namespace Settings

/-- The headers that go out when a source is dereferenced. -/
def headers (s : Settings) : Dict String :=
  [("Accept", s.accept)]

/-- A number of seconds in words. -/
def seconds (n : Nat) : String :=
  toString n ++ " seconds"

/-- The settings in one line. -/
def report (s : Settings) : String :=
  let quoted (text : String) : String := String.ofList (shown text)
  let fields : List (String × String) := [
    ("log_level", "LevelFilter::" ++ s.level.name.map Char.toUpper),
    ("listen_address", quoted s.listenAddress),
    ("enable_triples_endpoint", toString s.triples),
    ("enable_business_endpoint", toString s.business),
    ("statistics_interval", quoted (seconds s.statisticsInterval)),
    ("accept", quoted s.accept),
    ("user_agent", quoted s.userAgent),
    ("timeout", quoted (s.timeout.elim "none" seconds)),
    ("cache_source", toString s.cacheSource),
    ("context_file", s.contextFile.elim "None" fun f => "Some(" ++ quoted f ++ ")"),
    ("business_type", quoted s.businessType)]
  "Config \x7b " ++ ", ".intercalate (fields.map fun f => f.1 ++ ": " ++ f.2) ++ " \x7d"

end Settings

end LinkedData.Service
