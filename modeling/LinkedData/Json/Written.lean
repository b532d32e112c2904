import LinkedData.Json.Number
import LinkedData.Text.Hex

/-!
# LinkedData.Json.Written -- JSON values as compact text

No spaces, members in order, and in strings only what must be escaped: the quote, the
backslash and the characters below the space.
-/

namespace LinkedData.Json

open LinkedData.Text

/-- The written form of one character of a string. -/
def escapedChar (c : Char) : List Char :=
  if c = '"' then ['\\', '"']
  else if c = '\\' then ['\\', '\\']
  else if c = '\x08' then ['\\', 'b']
  else if c = '\x0c' then ['\\', 'f']
  else if c = '\n' then ['\\', 'n']
  else if c = '\r' then ['\\', 'r']
  else if c = '\t' then ['\\', 't']
  else if c.toNat < 0x20 then '\\' :: 'u' :: hexLower 4 c.toNat
  else [c]

/-- The written form of a string. -/
def stringChars (s : String) : List Char :=
  '"' :: s.toList.flatMap escapedChar ++ ['"']

/-- Texts with a comma between neighbours. -/
def separated : List (List Char) → List Char
  | [] => []
  | [x] => x
  | x :: y :: rest => x ++ ',' :: separated (y :: rest)

/-- An array of texts that are written already. -/
def arrayChars (items : List (List Char)) : List Char :=
  '[' :: separated items ++ [']']

/-- A member whose value is written already. -/
def memberChars (key : String) (value : List Char) : List Char :=
  stringChars key ++ ':' :: value

/-- An object of members that are written already, in the given order. -/
def objectChars (members : List (List Char)) : List Char :=
  '{' :: separated members ++ ['}']

mutual

/-- The written form of a value. -/
def chars : Json → List Char
  | .null => "null".toList
  | .bool true => "true".toList
  | .bool false => "false".toList
  | .number n => n.chars
  | .string s => stringChars s
  | .array items => arrayChars (itemsChars items)
  | .object members => objectChars (membersChars members)

/-- The written forms of the items of an array. -/
def itemsChars : List Json → List (List Char)
  | [] => []
  | x :: xs => x.chars :: itemsChars xs

/-- The written forms of the members of an object. -/
def membersChars : List (String × Json) → List (List Char)
  | [] => []
  | (k, v) :: rest => memberChars k v.chars :: membersChars rest

end

/-- The written form of a value as a string. -/
def text (j : Json) : String :=
  String.ofList j.chars

end LinkedData.Json
