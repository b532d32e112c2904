import LinkedData.Toml.Scalar
import LinkedData.Toml.Text

/-!
# LinkedData.Toml.Reader -- tables from their text

A text is a list of pairs, followed by headers with the pairs below them. Keys have at most 80
names, and values are nested at most 80 deep. Reading values that hold other values takes a
bound on the number of steps; the length of the text is enough, because every step takes at
least one character.
-/

namespace LinkedData.Toml

/-- The greatest number of names in a key, and of values inside one another. -/
def maxDepth : Nat := 80

/-- Whether a character belongs to a key without quotes. -/
def isBareChar (c : Char) : Bool :=
  c.isAlphanum || c == '_' || c == '-'

/-- Reads one name of a key. -/
def name? (cs : List Char) : Option (String × List Char) :=
  match cs.takeWhile isBareChar with
  | [] => lineText? cs
  | bare => some (String.ofList bare, cs.drop bare.length)

/-- Reads a key of at most `bound` names. -/
def names? : Nat → List Char → Option (Key × List Char)
  | 0, _ => none
  | bound + 1, cs => do
    let (name, rest) ← name? (cs.dropWhile isSpace)
    match rest.dropWhile isSpace with
    | '.' :: rest =>
      let (names, rest) ← names? bound rest
      return (name :: names, rest)
    | rest => return ([name], rest)

/-- Reads a key. -/
def key? (cs : List Char) : Option (Key × List Char) :=
  names? maxDepth cs

mutual

/-- Reads a value in at most `bound` steps, with at most `depth` levels of values inside it. -/
def value? : Nat → Nat → List Char → Option (Value × List Char)
  | 0, _, _ => none
  | bound + 1, depth, cs =>
    match depth, cs with
    | 0, '[' :: _ => none
    | depth + 1, '[' :: rest =>
      (items? bound depth rest).map fun (items, rest) => (.array items, rest)
    | 0, '{' :: _ => none
    | depth + 1, '{' :: rest => do
      let (pairs, rest) ← members? bound depth rest
      let members ← Members.addPairs [] pairs
      return (.table .inline members, rest)
    | _, c :: _ =>
      if c = '"' ∨ c = '\'' then (text? cs).map fun (s, rest) => (.text s, rest)
      else (scalar? cs).map fun (kind, rest) => (.scalar kind, rest)
    | _, [] => none

/-- Reads the items of an array to its end. -/
def items? : Nat → Nat → List Char → Option (List Value × List Char)
  | 0, _, _ => none
  | bound + 1, depth, cs =>
    match skipGap cs with
    | ']' :: rest => some ([], rest)
    | cs => do
      let (item, rest) ← value? bound depth cs
      match skipGap rest with
      | ',' :: rest =>
        let (items, rest) ← items? bound depth rest
        return (item :: items, rest)
      | ']' :: rest => return ([item], rest)
      | _ => none

/-- Reads the members of a table that is written as a value, to its end. -/
def members? : Nat → Nat → List Char → Option (List (Key × Value) × List Char)
  | 0, _, _ => none
  | bound + 1, depth, cs =>
    match skipGap cs with
    | '}' :: rest => some ([], rest)
    | cs => do
      let (pair, rest) ← pair? bound depth cs
      match skipGap rest with
      | ',' :: rest =>
        let (pairs, rest) ← members? bound depth rest
        return (pair :: pairs, rest)
      | '}' :: rest => return ([pair], rest)
      | _ => none

/-- Reads a key and its value. -/
def pair? : Nat → Nat → List Char → Option ((Key × Value) × List Char)
  | 0, _, _ => none
  | bound + 1, depth, cs => do
    let (key, rest) ← key? cs
    match rest.dropWhile isSpace with
    | '=' :: rest =>
      let (value, rest) ← value? bound depth (rest.dropWhile isSpace)
      return ((key, value), rest)
    | _ => none

end

/-- One line of a text, or several if a value goes on over their ends. -/
inductive Statement where
  | pair (key : Key) (value : Value)
  /-- The header of a table. -/
  | table (key : Key)
  /-- The header of a table in an array of tables. -/
  | element (key : Key)

/-- Reads a header after its brackets; it ends with as many brackets. -/
def header? (brackets : Nat) (cs : List Char) : Option (Key × List Char) := do
  let (key, rest) ← key? cs
  let rest := rest.dropWhile isSpace
  if rest.take brackets = List.replicate brackets ']' then some (key, rest.drop brackets)
  else none

/-- Reads a statement. -/
def statement? (bound : Nat) : List Char → Option (Statement × List Char)
  | '[' :: '[' :: rest => (header? 2 rest).map fun (key, rest) => (.element key, rest)
  | '[' :: rest => (header? 1 rest).map fun (key, rest) => (.table key, rest)
  | cs => (pair? bound maxDepth cs).map fun ((key, value), rest) => (.pair key value, rest)

/-- Reads at most `bound` statements, each of them alone in its lines. -/
def statements? : Nat → List Char → Option (List Statement)
  | 0, _ => none
  | bound + 1, cs =>
    match skipGap cs with
    | [] => some []
    | cs => do
      let (statement, rest) ← statement? bound cs
      let others ← statements? bound (← lineEnd? rest)
      return statement :: others

/-- The pairs at the front, and the statements from the first header on. -/
def leadingPairs : List Statement → List (Key × Value) × List Statement
  | .pair key value :: rest =>
    let (pairs, rest) := leadingPairs rest
    ((key, value) :: pairs, rest)
  | rest => ([], rest)

theorem leadingPairs_length (ss : List Statement) : (leadingPairs ss).2.length ≤ ss.length := by
  induction ss with
  | nil => simp [leadingPairs]
  | cons s ss ih =>
    cases s with
    | pair key value =>
      simp only [leadingPairs, List.length_cons]
      omega
    | table key => simp [leadingPairs]
    | element key => simp [leadingPairs]

/-- Adds headers and the pairs below them to a table. -/
def addSections (t : Members) (ss : List Statement) : Option Members :=
  match ss with
  | [] => some t
  | .table key :: rest => do
    addSections (← t.define key (leadingPairs rest).1) (leadingPairs rest).2
  | .element key :: rest => do
    addSections (← t.append key (leadingPairs rest).1) (leadingPairs rest).2
  | .pair _ _ :: _ => none
termination_by ss.length
decreasing_by
  all_goals
    have := leadingPairs_length rest
    simp only [List.length_cons]
    omega

/-- The table of a text; `none` if the text is malformed or defines something twice. A byte
order mark in front does not matter. -/
def parse? (text : String) : Option Members := do
  let cs := match text.toList with
    | '\uFEFF' :: rest => rest
    | cs => cs
  let ss ← statements? (2 * cs.length + 8) cs
  let t ← Members.addPairs [] (leadingPairs ss).1
  addSections t (leadingPairs ss).2

end LinkedData.Toml
