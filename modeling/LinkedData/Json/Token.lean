import LinkedData.Json.Number
import LinkedData.Text.Hex

/-!
# LinkedData.Json.Token -- the words of JSON text

A token is a punctuation mark or a scalar value. Strings must be free of control characters
and of surrogate escapes without their other half; numbers must have a digit wherever the
grammar asks for one, no needless leading zero, and a finite value.
-/

namespace LinkedData.Json

open LinkedData.Text

/-- A word of JSON text. -/
inductive Token where
  | openArray
  | closeArray
  | openObject
  | closeObject
  | comma
  | colon
  | string (s : String)
  /-- A number, a truth value or `null`. -/
  | atom (value : Json)
deriving Repr

/-- The white space that may stand between tokens. -/
def isSpace (c : Char) : Bool :=
  c == ' ' || c == '\t' || c == '\n' || c == '\r'

/-! ## Strings -/

/-- Reads the four digits of a `u` escape. -/
def hex4? (cs : List Char) : Option (Nat × List Char) :=
  let digits := (cs.take 4).takeWhile isHexDigit
  if digits.length = 4 then some (hexNumber digits, cs.drop 4) else none

/-- Reads the character of a `u` escape, which may take a second escape for the low half of
a surrogate pair. -/
def unicodeEscape? (cs : List Char) : Option (Char × List Char) :=
  match hex4? cs with
  | none => none
  | some (n, rest) =>
    if n.isValidChar then some (Char.ofNat n, rest)
    else if n ≤ 0xDBFF then
      match rest with
      | '\\' :: 'u' :: rest =>
        match hex4? rest with
        | some (low, rest) =>
          if 0xDC00 ≤ low ∧ low ≤ 0xDFFF then
            some (Char.ofNat (0x10000 + (n - 0xD800) * 0x400 + (low - 0xDC00)), rest)
          else none
        | none => none
      | _ => none
    else none

/-- Reads the escape after a backslash. -/
def escape? : List Char → Option (Char × List Char)
  | [] => none
  | c :: rest =>
    if c = '"' then some ('"', rest)
    else if c = '\\' then some ('\\', rest)
    else if c = '/' then some ('/', rest)
    else if c = 'b' then some ('\x08', rest)
    else if c = 'f' then some ('\x0c', rest)
    else if c = 'n' then some ('\n', rest)
    else if c = 'r' then some ('\r', rest)
    else if c = 't' then some ('\t', rest)
    else if c = 'u' then unicodeEscape? rest
    else none

theorem hex4?_length {cs : List Char} {n : Nat} {rest : List Char}
    (h : hex4? cs = some (n, rest)) : rest.length ≤ cs.length := by
  unfold hex4? at h
  simp only at h
  split at h
  · simp only [Option.some.injEq, Prod.mk.injEq] at h
    rw [← h.2, List.length_drop]
    omega
  · cases h

theorem unicodeEscape?_length {cs : List Char} {c : Char} {rest : List Char}
    (h : unicodeEscape? cs = some (c, rest)) : rest.length ≤ cs.length := by
  unfold unicodeEscape? at h
  split at h
  · cases h
  · rename_i n after hn
    have h₁ := hex4?_length hn
    split at h
    · simp only [Option.some.injEq, Prod.mk.injEq] at h
      exact h.2 ▸ h₁
    · split at h
      · split at h
        · split at h
          · rename_i low after' hl
            have h₂ := hex4?_length hl
            split at h
            · simp only [Option.some.injEq, Prod.mk.injEq] at h
              simp only [List.length_cons] at h₁
              have := h.2 ▸ h₂
              omega
            · cases h
          · cases h
        · cases h
      · cases h

theorem escape?_length {cs : List Char} {c : Char} {rest : List Char}
    (h : escape? cs = some (c, rest)) : rest.length < cs.length := by
  unfold escape? at h
  split at h
  · cases h
  · rename_i d after
    simp only [List.length_cons]
    iterate 8
      split at h
      · simp only [Option.some.injEq, Prod.mk.injEq] at h
        rw [h.2]
        omega
    split at h
    · have := unicodeEscape?_length h
      omega
    · cases h

/-- Reads a string up to its closing quote. -/
def stringBody? (cs : List Char) : Option (List Char × List Char) :=
  match cs with
  | [] => none
  | c :: rest =>
    if c = '"' then some ([], rest)
    else if c = '\\' then
      match _h : escape? rest with
      | none => none
      | some (d, after) => (stringBody? after).map fun r => (d :: r.1, r.2)
    else if c.toNat < 0x20 then none
    else (stringBody? rest).map fun r => (c :: r.1, r.2)
termination_by cs.length
decreasing_by
  · have := escape?_length _h
    simp only [List.length_cons]
    omega
  · simp

/-! ## Numbers -/

/-- Reads a run of digits, at least one. -/
def digits? (cs : List Char) : Option (List Char × List Char) :=
  let ds := cs.takeWhile Char.isDigit
  if ds.isEmpty then none else some (ds, cs.dropWhile Char.isDigit)

/-- Reads the whole part: a zero that stands alone, or digits that start with another one. -/
def wholePart? (cs : List Char) : Option (List Char × List Char) :=
  match digits? cs with
  | some ('0' :: _ :: _, _) => none
  | r => r

/-- Reads a point and digits, if a point comes next. -/
def fractionPart? (cs : List Char) : Option (Option (List Char) × List Char) :=
  match cs with
  | '.' :: rest => (digits? rest).map fun r => (some r.1, r.2)
  | _ => some (none, cs)

/-- Reads the digits of an exponent whose sign is known. -/
def exponentDigits? (negative : Bool) (cs : List Char) : Option (Option Int × List Char) :=
  (digits? cs).map fun r =>
    let n : Int := r.1.foldl (fun n d => 10 * n + digitValue d) 0
    (some (if negative then -n else n), r.2)

/-- Reads an exponent, if the letter of one comes next. -/
def exponentPart? (cs : List Char) : Option (Option Int × List Char) :=
  match cs with
  | [] => some (none, [])
  | c :: rest =>
    if c = 'e' ∨ c = 'E' then
      match rest with
      | '+' :: rest => exponentDigits? false rest
      | '-' :: rest => exponentDigits? true rest
      | _ => exponentDigits? false rest
    else some (none, cs)

/-- Whether a minus sign comes first, and what follows it. -/
def signPart : List Char → Bool × List Char
  | '-' :: rest => (true, rest)
  | cs => (false, cs)

/-- Reads a number. -/
def number? (cs : List Char) : Option (Number × List Char) :=
  let (negative, unsigned) := signPart cs
  (wholePart? unsigned).bind fun (whole, afterWhole) =>
  (fractionPart? afterWhole).bind fun (fraction, afterFraction) =>
  (exponentPart? afterFraction).bind fun (exponent, rest) =>
  (NumberText.number? { negative, whole, fraction, exponent }).map fun n => (n, rest)

theorem digits?_length {cs ds rest : List Char} (h : digits? cs = some (ds, rest)) :
    rest.length < cs.length := by
  unfold digits? at h
  simp only at h
  split at h
  · cases h
  · rename_i hne
    simp only [Option.some.injEq, Prod.mk.injEq] at h
    have hsplit := congrArg List.length (List.takeWhile_append_dropWhile (p := Char.isDigit) (l := cs))
    rw [List.length_append] at hsplit
    have hpos : 0 < (cs.takeWhile Char.isDigit).length := by
      simpa [List.length_pos_iff] using hne
    rw [← h.2]
    omega

theorem wholePart?_length {cs ds rest : List Char} (h : wholePart? cs = some (ds, rest)) :
    rest.length < cs.length := by
  unfold wholePart? at h
  split at h
  · cases h
  · exact digits?_length h

theorem fractionPart?_length {cs rest : List Char} {ds : Option (List Char)}
    (h : fractionPart? cs = some (ds, rest)) : rest.length ≤ cs.length := by
  unfold fractionPart? at h
  split at h
  · obtain ⟨⟨ds, r⟩, hd, he⟩ := Option.map_eq_some_iff.1 h
    have := digits?_length hd
    simp only [Prod.mk.injEq] at he
    simp only [List.length_cons, ← he.2]
    omega
  · simp only [Option.some.injEq, Prod.mk.injEq] at h
    simp [h.2]

theorem exponentDigits?_length {negative : Bool} {cs rest : List Char} {e : Option Int}
    (h : exponentDigits? negative cs = some (e, rest)) : rest.length < cs.length := by
  obtain ⟨⟨ds, r⟩, hd, he⟩ := Option.map_eq_some_iff.1 h
  have := digits?_length hd
  simp only [Prod.mk.injEq] at he
  rwa [← he.2]

theorem exponentPart?_length {cs rest : List Char} {e : Option Int}
    (h : exponentPart? cs = some (e, rest)) : rest.length ≤ cs.length := by
  unfold exponentPart? at h
  split at h
  · simp only [Option.some.injEq, Prod.mk.injEq] at h
    simp [← h.2]
  · split at h
    · split at h <;>
      · have := exponentDigits?_length h
        simp only [List.length_cons] at *
        omega
    · simp only [Option.some.injEq, Prod.mk.injEq] at h
      simp [← h.2]

theorem signPart_length (cs : List Char) : (signPart cs).2.length ≤ cs.length := by
  unfold signPart
  split <;> simp

theorem number?_length {cs rest : List Char} {n : Number} (h : number? cs = some (n, rest)) :
    rest.length < cs.length := by
  unfold number? at h
  have h₀ := signPart_length cs
  generalize signPart cs = sign at h h₀
  obtain ⟨negative, unsigned⟩ := sign
  obtain ⟨⟨whole, afterWhole⟩, h₁, h⟩ := Option.bind_eq_some_iff.1 h
  obtain ⟨⟨fraction, afterFraction⟩, h₂, h⟩ := Option.bind_eq_some_iff.1 h
  obtain ⟨⟨exponent, after⟩, h₃, h⟩ := Option.bind_eq_some_iff.1 h
  obtain ⟨_, _, he⟩ := Option.map_eq_some_iff.1 h
  have := wholePart?_length h₁
  have := fractionPart?_length h₂
  have := exponentPart?_length h₃
  simp only [Prod.mk.injEq] at he
  simp only [← he.2] at *
  omega

/-! ## Tokens -/

/-- Reads a fixed word that starts with a given letter. -/
def word? (word : List Char) (value : Json) (cs : List Char) : Option (Token × List Char) :=
  if word.isPrefixOf cs then some (.atom value, cs.drop word.length) else none

/-- Reads the token whose first character is `c`. -/
def token? (c : Char) (rest : List Char) : Option (Token × List Char) :=
  if c = '[' then some (.openArray, rest)
  else if c = ']' then some (.closeArray, rest)
  else if c = '{' then some (.openObject, rest)
  else if c = '}' then some (.closeObject, rest)
  else if c = ',' then some (.comma, rest)
  else if c = ':' then some (.colon, rest)
  else if c = '"' then (stringBody? rest).map fun r => (.string (String.ofList r.1), r.2)
  else if c = 'n' then word? ['u', 'l', 'l'] .null rest
  else if c = 't' then word? ['r', 'u', 'e'] (.bool true) rest
  else if c = 'f' then word? ['a', 'l', 's', 'e'] (.bool false) rest
  else (number? (c :: rest)).map fun r => (.atom (.number r.1), r.2)

theorem stringBody?_length {cs body rest : List Char} (h : stringBody? cs = some (body, rest)) :
    rest.length < cs.length := by
  fun_induction stringBody? cs generalizing body rest with
  | case1 => cases h
  | case2 =>
    simp only [Option.some.injEq, Prod.mk.injEq] at h
    simp [← h.2]
  | case3 => cases h
  | case4 tail d after he _ ih =>
    obtain ⟨⟨b, r⟩, hb, heq⟩ := Option.map_eq_some_iff.1 h
    have := ih hb
    have := escape?_length he
    simp only [Prod.mk.injEq] at heq
    simp only [List.length_cons, ← heq.2]
    omega
  | case5 => cases h
  | case6 c tail _ _ _ ih =>
    obtain ⟨⟨b, r⟩, hb, heq⟩ := Option.map_eq_some_iff.1 h
    have := ih hb
    simp only [Prod.mk.injEq] at heq
    simp only [List.length_cons, ← heq.2]
    omega

theorem word?_length {word cs rest : List Char} {value : Json} {t : Token}
    (h : word? word value cs = some (t, rest)) : rest.length ≤ cs.length := by
  unfold word? at h
  split at h
  · simp only [Option.some.injEq, Prod.mk.injEq] at h
    rw [← h.2, List.length_drop]
    omega
  · cases h

theorem token?_length {c : Char} {cs rest : List Char} {t : Token}
    (h : token? c cs = some (t, rest)) : rest.length ≤ cs.length := by
  unfold token? at h
  iterate 6
    split at h
    · simp only [Option.some.injEq, Prod.mk.injEq] at h
      simp [← h.2]
  split at h
  · obtain ⟨⟨b, r⟩, hb, heq⟩ := Option.map_eq_some_iff.1 h
    have := stringBody?_length hb
    simp only [Prod.mk.injEq] at heq
    rw [← heq.2]
    omega
  · iterate 3
      split at h
      · exact word?_length h
    obtain ⟨⟨n, r⟩, hn, heq⟩ := Option.map_eq_some_iff.1 h
    have := number?_length hn
    simp only [Prod.mk.injEq] at heq
    simp only [List.length_cons] at this
    rw [← heq.2]
    omega

/-- The tokens of a text; `none` if it holds something that is no token. -/
def tokens? (cs : List Char) : Option (List Token) :=
  match cs with
  | [] => some []
  | c :: rest =>
    if isSpace c then tokens? rest
    else
      match _h : token? c rest with
      | none => none
      | some (t, after) => (tokens? after).map (t :: ·)
termination_by cs.length
decreasing_by
  · simp
  · have := token?_length _h
    simp only [List.length_cons]
    omega

end LinkedData.Json
