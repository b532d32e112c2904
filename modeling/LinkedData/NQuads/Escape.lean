import LinkedData.NQuads.Fault

/-!
# LinkedData.NQuads.Escape -- what may follow a backslash

IRIs know the two numeric escapes; literals know eight single letters besides. A numeric
escape names a scalar value in four or eight hexadecimal digits, or the high half of a
surrogate pair whose low half follows as a four-digit escape.

Each reader takes the text after the backslash and returns the character with the text that
is left, which is always shorter.
-/

namespace LinkedData.NQuads

open LinkedData.Text

/-- The high half of a surrogate pair. -/
def isHighSurrogate (n : Nat) : Bool :=
  0xD800 ≤ n && n ≤ 0xDBFF

/-- The low half of a surrogate pair. -/
def isLowSurrogate (n : Nat) : Bool :=
  0xDC00 ≤ n && n ≤ 0xDFFF

/-- The character that a surrogate pair stands for. -/
def joinSurrogates (high low : Nat) : Char :=
  Char.ofNat (0x10000 + (high - 0xD800) * 0x400 + (low - 0xDC00))

/-- Reads exactly `width` hexadecimal digits. -/
def hexDigits (width : Nat) (cs : List Char) : Except Fault (Nat × List Char) :=
  let digits := (cs.take width).takeWhile isHexDigit
  if digits.length = width then .ok (hexNumber digits, cs.drop width)
  else .error (.incompleteEscape digits)

/-- Reads a scalar value in `width` digits, or a surrogate pair that starts with them. -/
def scalarValue (width : Nat) (cs : List Char) : Except Fault (Char × List Char) :=
  match hexDigits width cs with
  | .error e => .error e
  | .ok (n, rest) =>
    if isHighSurrogate n then
      match rest with
      | '\\' :: 'u' :: rest =>
        match hexDigits 4 rest with
        | .error e => .error e
        | .ok (low, rest) =>
          if isLowSurrogate low then .ok (joinSurrogates n low, rest)
          else .error (.invalidLowSurrogate low)
      | _ => .error (.missingLowSurrogate n)
    else if n.isValidChar then .ok (Char.ofNat n, rest)
    else .error (.invalidCodePoint n)

/-- Reads a numeric escape, the only kind that an IRI may hold. -/
def numericEscape : List Char → Except Fault (Char × List Char)
  | [] => .error .trailingBackslash
  | c :: rest =>
    if c = 'u' then scalarValue 4 rest
    else if c = 'U' then scalarValue 8 rest
    else .error (.unknownEscape c)

/-- The character that a single-letter escape stands for. -/
def letterEscape? (c : Char) : Option Char :=
  if c = 't' then some '\t'
  else if c = 'b' then some '\x08'
  else if c = 'n' then some '\n'
  else if c = 'r' then some '\r'
  else if c = 'f' then some '\x0c'
  else if c = '"' then some '"'
  else if c = '\'' then some '\''
  else if c = '\\' then some '\\'
  else none

/-- Reads any escape that a literal may hold. -/
def literalEscape : List Char → Except Fault (Char × List Char)
  | [] => .error .trailingLiteralBackslash
  | c :: rest =>
    if c = 'u' ∨ c = 'U' then numericEscape (c :: rest)
    else
      match letterEscape? c with
      | some d => .ok (d, rest)
      | none => .error (.unknownEscape c)

/-! ## Every escape uses up text -/

theorem hexDigits_length {width : Nat} {cs : List Char} {n : Nat} {rest : List Char}
    (h : hexDigits width cs = .ok (n, rest)) : rest.length ≤ cs.length := by
  unfold hexDigits at h
  simp only at h
  split at h
  · cases h; simp
  · cases h

theorem scalarValue_length {width : Nat} {cs : List Char} {c : Char} {rest : List Char}
    (h : scalarValue width cs = .ok (c, rest)) : rest.length ≤ cs.length := by
  unfold scalarValue at h
  split at h
  · cases h
  · rename_i n after hd
    have h₁ := hexDigits_length hd
    split at h
    · split at h
      · rename_i after'
        split at h
        · cases h
        · rename_i low after'' hd'
          have h₂ := hexDigits_length hd'
          split at h
          · simp only [Except.ok.injEq, Prod.mk.injEq] at h
            simp only [List.length_cons] at h₁
            have := h.2 ▸ h₂
            omega
          · cases h
      · cases h
    · split at h
      · simp only [Except.ok.injEq, Prod.mk.injEq] at h
        exact h.2 ▸ h₁
      · cases h

theorem numericEscape_length {cs : List Char} {c : Char} {rest : List Char}
    (h : numericEscape cs = .ok (c, rest)) : rest.length < cs.length := by
  unfold numericEscape at h
  split at h
  · cases h
  · split at h
    · have := scalarValue_length h; simp only [List.length_cons]; omega
    · split at h
      · have := scalarValue_length h; simp only [List.length_cons]; omega
      · cases h

theorem literalEscape_length {cs : List Char} {c : Char} {rest : List Char}
    (h : literalEscape cs = .ok (c, rest)) : rest.length < cs.length := by
  unfold literalEscape at h
  split at h
  · cases h
  · split at h
    · exact numericEscape_length h
    · split at h
      · cases h; simp
      · cases h

end LinkedData.NQuads
