import LinkedData.Text.Hex

/-!
# LinkedData.Toml.Text -- strings, comments and blank space

A string is quoted once or three times, with double quotes when backslashes escape and with
single quotes when they do not. Only a string quoted three times may hold line ends. No
string and no comment holds a control character other than the tab.

The readers take the text after an opening and return what they read with the text that is
left.
-/

namespace LinkedData.Toml

open LinkedData.Text

/-- The characters that strings and comments hold. -/
def isTextChar (c : Char) : Bool :=
  c == '\t' || (0x20 ≤ c.toNat && c.toNat != 0x7F)

/-- Space inside a line. -/
def isSpace (c : Char) : Bool :=
  c == ' ' || c == '\t'

/-- What follows a line end. -/
def newline? : List Char → Option (List Char)
  | '\n' :: rest => some rest
  | '\r' :: '\n' :: rest => some rest
  | _ => none

/-- What follows space and line ends. -/
def skipLines : List Char → List Char
  | '\r' :: '\n' :: rest => skipLines rest
  | c :: rest => if isSpace c || c == '\n' then skipLines rest else c :: rest
  | [] => []

theorem skipLines_length (cs : List Char) : (skipLines cs).length ≤ cs.length := by
  fun_induction skipLines cs with
  | case1 rest ih =>
    simp only [List.length_cons]
    omega
  | case2 c rest _ _ ih => exact Nat.le_succ_of_le ih
  | case3 c rest => simp
  | case4 => simp

/-- What follows space, line ends and comments. -/
def skipGap (cs : List Char) : List Char :=
  match _h : skipLines cs with
  | '#' :: rest => skipGap (rest.dropWhile isTextChar)
  | rest => rest
termination_by cs.length
decreasing_by
  have h₁ := skipLines_length cs
  have h₂ := (List.dropWhile_suffix (l := rest) isTextChar).length_le
  rw [_h, List.length_cons] at h₁
  omega

/-- What follows the end of a line that may hold a comment; the last line needs no end. -/
def lineEnd? (cs : List Char) : Option (List Char) :=
  let rest := match cs.dropWhile isSpace with
    | '#' :: comment => comment.dropWhile isTextChar
    | rest => rest
  if rest.isEmpty then some [] else newline? rest

/-! ## Escapes -/

/-- The letters that escape single characters. -/
def letterEscapes : List (Char × Char) :=
  [('b', '\x08'), ('t', '\t'), ('n', '\n'), ('f', '\x0c'), ('r', '\r'), ('e', '\x1b'),
   ('"', '"'), ('\\', '\\')]

/-- The number of hexadecimal digits after a letter. -/
def digitEscapes : List (Char × Nat) :=
  [('x', 2), ('u', 4), ('U', 8)]

/-- The character of an escape, and how many characters after the backslash write it. -/
def escape? : List Char → Option (Char × Nat)
  | [] => none
  | letter :: rest =>
    match letterEscapes.lookup letter, digitEscapes.lookup letter with
    | some c, _ => some (c, 1)
    | none, some width =>
      let digits := rest.take width
      let n := hexNumber digits
      if digits.length = width ∧ digits.all isHexDigit ∧ n.isValidChar then
        some (Char.ofNat n, width + 1)
      else none
    | none, none => none

/-! ## Strings -/

/-- Reads to the closing quote of a string in one line. -/
def lineString (quote : Char) (escapes : Bool) (cs : List Char) :
    Option (List Char × List Char) :=
  match cs with
  | [] => none
  | c :: rest =>
    if c = quote then some ([], rest)
    else if c = '\\' ∧ escapes then
      match escape? rest with
      | none => none
      | some (e, n) =>
        (lineString quote escapes (rest.drop n)).map fun (s, left) => (e :: s, left)
    else if isTextChar c then
      (lineString quote escapes rest).map fun (s, left) => (c :: s, left)
    else none
termination_by cs.length
decreasing_by
  all_goals
    simp only [List.length_cons, List.length_drop]
    omega

/-- Reads to the three closing quotes of a string; up to two quotes before them belong to the
string. A backslash at the end of a line takes all space up to the next text with it. -/
def blockString (quote : Char) (escapes : Bool) (cs : List Char) :
    Option (List Char × List Char) :=
  match cs with
  | [] => none
  | c :: rest =>
    let quotes := ((c :: rest).takeWhile (· == quote)).length
    if 3 ≤ quotes then
      some (List.replicate (min quotes 5 - 3) quote, (c :: rest).drop (min quotes 5))
    else if c = '\\' ∧ escapes then
      match newline? (rest.dropWhile isSpace) with
      | some _ => blockString quote escapes (skipLines rest)
      | none =>
        match escape? rest with
        | none => none
        | some (e, n) =>
          (blockString quote escapes (rest.drop n)).map fun (s, left) => (e :: s, left)
    else if c = '\r' then
      if rest.head? = some '\n' then blockString quote escapes rest else none
    else if c = '\n' ∨ isTextChar c then
      (blockString quote escapes rest).map fun (s, left) => (c :: s, left)
    else none
termination_by cs.length
decreasing_by
  all_goals
    have := skipLines_length rest
    simp only [List.length_cons, List.length_drop]
    omega

/-- Reads a string in one line, its opening quote included. -/
def lineText? : List Char → Option (String × List Char)
  | '"' :: rest => (lineString '"' true rest).map fun (s, left) => (String.ofList s, left)
  | '\'' :: rest => (lineString '\'' false rest).map fun (s, left) => (String.ofList s, left)
  | _ => none

/-- Reads a string quoted three times; a line end right after the opening is dropped. -/
def blockText? (quote : Char) (escapes : Bool) (cs : List Char) : Option (String × List Char) :=
  (blockString quote escapes ((newline? cs).getD cs)).map fun (s, left) => (String.ofList s, left)

/-- Reads a string of any kind, its opening included. -/
def text? : List Char → Option (String × List Char)
  | '"' :: '"' :: '"' :: rest => blockText? '"' true rest
  | '\'' :: '\'' :: '\'' :: rest => blockText? '\'' false rest
  | cs => lineText? cs

end LinkedData.Toml
