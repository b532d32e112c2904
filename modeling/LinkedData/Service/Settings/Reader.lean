import LinkedData.Json.Reader
import LinkedData.JsonLd.Document
import LinkedData.Service.Fault
import LinkedData.Service.Settings
import LinkedData.Service.Settings.Placeholder
import LinkedData.Text.Blank
import LinkedData.Text.Split
import LinkedData.Text.Utf8
import LinkedData.Toml.Reader

/-!
# LinkedData.Service.Settings.Reader -- settings from files

The settings file is read line by line: comments are dropped, placeholders are replaced, and
what is left is a TOML text. Every setting is written as a text, also numbers and truth
values. Five settings must be there; a text that makes no sense as a value stands for the
default.
-/

namespace LinkedData.Service.Settings

open LinkedData.Text

/-! ## Lines -/

/-- A line without the carriage return that may end it. -/
def dropReturn (line : List UInt8) : List UInt8 :=
  if line.getLast? = some 0x0D then line.dropLast else line

/-- The lines of a file. Line feeds end lines, so that nothing follows a last one. -/
def byteLines (bytes : List UInt8) : List (List UInt8) :=
  match bytes with
  | [] => []
  | b :: rest =>
    let line := (b :: rest).takeWhile (· != 0x0A)
    match _h : (b :: rest).drop line.length with
    | [] => [line]
    | _ :: others => dropReturn line :: byteLines others
termination_by bytes.length
decreasing_by
  have h := congrArg List.length _h
  simp only [List.length_drop, List.length_cons] at h ⊢
  omega

/-- The lines before the first that is not UTF-8. -/
def soundLines : List (List UInt8) → List (List Char)
  | [] => []
  | line :: rest =>
    match utf8Strict? line with
    | some cs => cs :: soundLines rest
    | none => []

/-- A line that begins with a number sign, but for white space. -/
def isComment (line : List Char) : Bool :=
  (line.dropWhile isBlank).head? == some '#'

/-- The lines of a file that count. -/
def linesOf (bytes : List UInt8) : List (List Char) :=
  (soundLines (byteLines bytes)).filter fun line => !isComment line

/-- The TOML text of a file in an environment. -/
def tomlOf (environment : Dict String) (bytes : List UInt8) : String :=
  String.ofList (['\n'].intercalate ((linesOf bytes).map (Placeholder.expand environment)))

/-! ## Texts as values -/

/-- A text freed of the white space around it, unless nothing is left. -/
def filled? (text : String) : Option String :=
  let cs := trim text.toList
  if cs.isEmpty then none else some (String.ofList cs)

/-- The truth value that a text writes. -/
def truth? (text : String) : Option Bool :=
  if text = "true" then some true else if text = "false" then some false else none

/-- The number that a text writes, below two to the power of 64; a plus sign may stand in
front. -/
def number? (text : String) : Option Nat :=
  let digits := match text.toList with
    | '+' :: rest => rest
    | cs => cs
  let n := digits.foldl (fun n c => 10 * n + (c.toNat - '0'.toNat)) 0
  if !digits.isEmpty && digits.all Char.isDigit && n < Nat.pow 2 64 then some n else none

/-! ## Settings from a table -/

/-- The text of a setting that must be there. -/
def required (t : Toml.Members) (name : String) : Option String :=
  match t.find? name with
  | some (.text s) => some s
  | _ => none

/-- The text of a setting, empty if it is not there; anything but a text is an error. -/
def optional (value : Option Toml.Value) : Option String :=
  match value with
  | none => some ""
  | some (.text s) => some s
  | some _ => none

mutual

/-- Whether a value can be read to its end: it holds no number that is too large. -/
def isReadable : Toml.Value → Bool
  | .text _ => true
  | .scalar kind => kind != .excess
  | .array items => areReadable items
  | .tables items => allMembersReadable items
  | .table _ members => membersReadable members

/-- Whether all of several values can be read. -/
def areReadable : List Toml.Value → Bool
  | [] => true
  | v :: rest => isReadable v && areReadable rest

/-- Whether all values of several tables can be read. -/
def allMembersReadable : List (List (String × Toml.Value)) → Bool
  | [] => true
  | t :: rest => membersReadable t && allMembersReadable rest

/-- Whether all values of a table can be read. -/
def membersReadable : List (String × Toml.Value) → Bool
  | [] => true
  | (_, v) :: rest => isReadable v && membersReadable rest

end

/-- The settings of a group by their names. A group may also be an array of its settings in
order, of which no more is read; a date or a time stands for a group without settings. -/
def group? (t : Toml.Members) (name : String) (settings : List String) :
    Option (List String) :=
  match t.find? name with
  | none => some (settings.map fun _ => "")
  | some (.table _ members) =>
    if membersReadable members then settings.mapM fun s => optional (Dict.find? members s)
    else none
  | some (.array items) =>
    (List.range settings.length).mapM fun i => optional items[i]?
  | some (.scalar .moment) => some (settings.map fun _ => "")
  | some _ => none

/-- The names of the groups. -/
def groups : List String :=
  ["dereference", "vocabulary"]

/-- The settings that a table gives. -/
def ofTable? (t : Toml.Members) : Option Settings := do
  let defaults : Settings := {}
  guard (membersReadable (t.filter fun m => !groups.contains m.1))
  let level ← required t "log_level"
  let address ← required t "listen_address"
  let triples ← required t "enable_triples_endpoint"
  let business ← required t "enable_business_endpoint"
  let interval ← required t "statistics_interval"
  let [accept, agent, timeout, cache] ←
    group? t "dereference" ["accept", "user_agent", "timeout", "cache_source"] | none
  let [context, type] ← group? t "vocabulary" ["context_file", "business_type"] | none
  return {
    level := (Level.ofName? level).getD defaults.level
    listenAddress := (filled? address).getD defaults.listenAddress
    triples := (truth? triples).getD true
    business := (truth? business).getD true
    statisticsInterval :=
      ((number? interval).filter (0 < ·)).getD defaults.statisticsInterval
    accept := (filled? accept).getD defaults.accept
    userAgent := (filled? agent).getD defaults.userAgent
    timeout := number? (String.ofList (trim timeout.toList))
    cacheSource := (truth? cache).getD true
    contextFile := filled? context
    businessType := (filled? type).getD defaults.businessType }

/-! ## Files -/

/-- The bytes of files, or why they cannot be read. -/
abbrev Files := String → Except String (List UInt8)

/-- A file that cannot be read. -/
def unopened (file reason : String) : Cause :=
  .configuration ("Could not open file(" ++ file ++ "). " ++ reason)

/-- The settings in a file. -/
def load (files : Files) (environment : Dict String) (file : String) : Except Cause Settings :=
  match files file with
  | .error reason => .error (unopened file reason)
  | .ok bytes =>
    match (Toml.parse? (tomlOf environment bytes)).bind ofTable? with
    | some s => .ok s
    | none => .error (.configuration "Could not parse configuration settings.")

/-- The vocabulary of a service: the context file if there is one, and else the one that is
built in. -/
def vocabulary (files : Files) (s : Settings) : Except Cause Vocabulary :=
  match s.contextFile with
  | none => .ok .schemaOrg
  | some file =>
    match files file with
    | .error reason => .error (unopened file reason)
    | .ok bytes =>
      match utf8Strict? bytes with
      | none => .error (unopened file "stream did not contain valid UTF-8")
      | some text =>
        match Json.parse? (String.ofList text) with
        | none =>
          .error (.configuration ("Could not parse vocabulary context(" ++ file ++ ")."))
        | some document =>
          match JsonLd.vocabularyOf document with
          | .ok v => .ok v
          | .error e =>
            .error (.configuration
              ("Invalid vocabulary context(" ++ file ++ "). " ++ e.message))

end LinkedData.Service.Settings
