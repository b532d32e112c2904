import LinkedData.Json.Reader
import LinkedData.Json.Written
import LinkedData.Proofs.Text.Run
import Mathlib.Data.List.Forall2

/-!
# LinkedData.Proofs.Json.Reading -- JSON text is read back

What the writers of this library put together from strings, whole numbers, arrays and objects is
JSON text, and it is read as the values it was put together from. `Reads` says that of one text
within any other: a reader that awaits a value takes the text in as a value, whatever is open
around it, as long as not too much is open.
-/

namespace LinkedData.Json

open LinkedData.Text

/-! ## Strings -/

theorem stringBody?_quote (rest : List Char) : stringBody? ('"' :: rest) = some ([], rest) := by
  rw [stringBody?, if_pos rfl]

theorem stringBody?_escape {d : Char} {cs rest : List Char} (h : escape? cs = some (d, rest)) :
    stringBody? ('\\' :: cs) = (stringBody? rest).map fun r => (d :: r.1, r.2) := by
  rw [stringBody?, if_neg (by decide), if_pos rfl]
  split
  · rename_i hnone
    rw [h] at hnone
    cases hnone
  · rename_i e after hsome
    rw [h] at hsome
    cases hsome
    rfl

theorem stringBody?_raw {c : Char} (hquote : c ≠ '"') (hbackslash : c ≠ '\\')
    (hcontrol : ¬ c.toNat < 0x20) (rest : List Char) :
    stringBody? (c :: rest) = (stringBody? rest).map fun r => (c :: r.1, r.2) := by
  rw [stringBody?, if_neg hquote, if_neg hbackslash, if_neg hcontrol]

theorem hex4?_hexLower {n : Nat} (h : n < 0x20) (rest : List Char) :
    hex4? (hexLower 4 n ++ rest) = some (n, rest) := by
  have hdigits : ∀ n < 0x20, (hexLower 4 n).length = 4 ∧
      (hexLower 4 n).all isHexDigit = true ∧ hexNumber (hexLower 4 n) = n := by decide
  obtain ⟨hlength, hall, hnumber⟩ := hdigits n h
  have htake : (hexLower 4 n ++ rest).take 4 = hexLower 4 n := List.take_left' hlength
  have hdrop : (hexLower 4 n ++ rest).drop 4 = rest := List.drop_left' hlength
  have hrun : (hexLower 4 n).takeWhile isHexDigit = hexLower 4 n :=
    List.takeWhile_eq_self_iff.mpr (List.all_eq_true.mp hall)
  simp only [hex4?, htake, hdrop, hrun, hlength, if_true, hnumber]

/-- The escape of a control character without a letter of its own. -/
theorem escape?_hexLower {c : Char} (h : c.toNat < 0x20) (rest : List Char) :
    escape? ('u' :: (hexLower 4 c.toNat ++ rest)) = some (c, rest) := by
  have hescape : ∀ cs, escape? ('u' :: cs) = unicodeEscape? cs := fun _ => rfl
  have hvalid : c.toNat.isValidChar := c.valid
  rw [hescape, unicodeEscape?, hex4?_hexLower h]
  simp only [hvalid, if_true, Char.ofNat_toNat]

/-- What is written for a character is read as the character. -/
theorem stringBody?_escapedChar (c : Char) (rest : List Char) :
    stringBody? (escapedChar c ++ rest) = (stringBody? rest).map fun r => (c :: r.1, r.2) := by
  unfold escapedChar
  split_ifs with hquote hbackslash hb hf hn hr ht hcontrol
  · subst hquote; exact stringBody?_escape rfl
  · subst hbackslash; exact stringBody?_escape rfl
  · subst hb; exact stringBody?_escape rfl
  · subst hf; exact stringBody?_escape rfl
  · subst hn; exact stringBody?_escape rfl
  · subst hr; exact stringBody?_escape rfl
  · subst ht; exact stringBody?_escape rfl
  · exact stringBody?_escape (escape?_hexLower hcontrol rest)
  · exact stringBody?_raw hquote hbackslash hcontrol rest

theorem stringBody?_flatMap (cs rest : List Char) :
    stringBody? (cs.flatMap escapedChar ++ '"' :: rest) = some (cs, rest) := by
  induction cs with
  | nil => exact stringBody?_quote rest
  | cons c cs ih =>
    rw [List.flatMap_cons, List.append_assoc, stringBody?_escapedChar, ih]
    rfl

/-! ## Whole numbers -/

theorem le_ofDigitChars (digits : List Char) (n : Nat) : n ≤ Nat.ofDigitChars 10 digits n := by
  induction digits generalizing n with
  | nil => exact Nat.le_refl n
  | cons d digits ih =>
    refine Nat.le_trans ?_ (ih (10 * n + (d.toNat - '0'.toNat)))
    omega

/-- Digits are taken in one by one as long as the number that they make fits. -/
theorem appendDigits_eq {digits : List Char} {n : Nat}
    (h : Nat.ofDigitChars 10 digits n ≤ maxWord) :
    appendDigits n digits = (Nat.ofDigitChars 10 digits n, []) := by
  induction digits generalizing n with
  | nil => rfl
  | cons d digits ih =>
    have hnext : 10 * n + digitValue d ≤ maxWord :=
      Nat.le_trans (le_ofDigitChars digits (10 * n + digitValue d)) h
    rw [appendDigits]
    simp only [hnext, if_true]
    exact ih h

theorem toDigits_head_ne_zero {n : Nat} (h : 0 < n) : (Nat.toDigits 10 n).head? ≠ some '0' := by
  induction n using Nat.strongRecOn with
  | _ n ih =>
    rcases Nat.lt_or_ge n 10 with hlt | hge
    · have hdigit : ∀ n < 10, 0 < n → n.digitChar ≠ '0' := by decide
      rw [Nat.toDigits_of_lt_base hlt, List.head?_cons, ne_eq, Option.some.injEq]
      exact hdigit n hlt h
    · have hrest := ih (n / 10) (by omega) (by omega)
      rw [Nat.toDigits_of_base_le (by decide) hge,
        List.head?_append_of_ne_nil _ Nat.toDigits_ne_nil]
      exact hrest

theorem digits?_toDigits (n : Nat) {rest : List Char} (h : StopsAt Char.isDigit rest) :
    digits? (Nat.toDigits 10 n ++ rest) = some (Nat.toDigits 10 n, rest) := by
  have hall : ∀ c ∈ Nat.toDigits 10 n, c.isDigit = true := fun c hc =>
    Nat.isDigit_of_mem_toDigits (by decide) (by decide) hc
  have hne : (Nat.toDigits 10 n).isEmpty = false := by
    rw [List.isEmpty_eq_false_iff]
    exact Nat.toDigits_ne_nil
  simp only [digits?, takeWhile_run hall h, dropWhile_run hall h, hne, Bool.false_eq_true, if_false]

/-- Only a zero that stands alone starts with a zero. -/
theorem wholePart?_toDigits (n : Nat) {rest : List Char} (h : StopsAt Char.isDigit rest) :
    wholePart? (Nat.toDigits 10 n ++ rest) = some (Nat.toDigits 10 n, rest) := by
  rw [wholePart?, digits?_toDigits n h]
  split
  · rename_i d more after heq
    have hdigits : Nat.toDigits 10 n = '0' :: d :: more := congrArg Prod.fst (Option.some.inj heq)
    rcases Nat.eq_zero_or_pos n with rfl | hpos
    · cases hdigits
    · exact absurd (congrArg List.head? hdigits) (toDigits_head_ne_zero hpos)
  · rfl

/-! ## Tokens -/

/-- What may follow a value: nothing, or a mark that ends it. -/
def Ends (rest : List Char) : Prop :=
  ∀ c ∈ rest.head?, c = ',' ∨ c = ']' ∨ c = '\x7d'

theorem ends_nil : Ends [] := nofun

theorem ends_cons {c : Char} (h : c = ',' ∨ c = ']' ∨ c = '\x7d') (rest : List Char) :
    Ends (c :: rest) := by
  intro d hd
  cases hd
  exact h

/-- A whole number that fits in 64 bits. -/
theorem number?_toDigits {n : Nat} (hn : n ≤ maxWord) {rest : List Char} (hrest : Ends rest) :
    number? (Nat.toDigits 10 n ++ rest) = some (.integer n, rest) := by
  have hstops : StopsAt Char.isDigit rest := by
    intro c hc
    rcases hrest c hc with rfl | rfl | rfl <;> rfl
  have hsign : signPart (Nat.toDigits 10 n ++ rest) = (false, Nat.toDigits 10 n ++ rest) := by
    unfold signPart
    split
    · rename_i more heq
      have hdigit : ('-' : Char).isDigit = true := by
        refine Nat.isDigit_of_mem_toDigits (b := 10) (n := n) (by decide) (by decide) ?_
        cases hdigits : Nat.toDigits 10 n with
        | nil => exact absurd hdigits Nat.toDigits_ne_nil
        | cons d digits =>
          rw [hdigits, List.cons_append] at heq
          injection heq with hd
          rw [hd]
          exact List.mem_cons_self
      cases hdigit
    · rfl
  have hfraction : fractionPart? rest = some (none, rest) := by
    unfold fractionPart?
    split
    · rcases hrest '.' rfl with h | h | h <;> cases h
    · rfl
  have hexponent : exponentPart? rest = some (none, rest) := by
    unfold exponentPart?
    split
    · rfl
    · rename_i c more
      rw [if_neg]
      rintro (rfl | rfl)
      · rcases hrest 'e' rfl with h | h | h <;> cases h
      · rcases hrest 'E' rfl with h | h | h <;> cases h
  have hvalue : Nat.ofDigitChars 10 (Nat.toDigits 10 n) 0 = n :=
    Nat.ofDigitChars_toDigits (by decide) (by decide)
  have hdigits : appendDigits 0 (Nat.toDigits 10 n) = (n, []) := by
    rw [appendDigits_eq (by rw [hvalue]; exact hn), hvalue]
  simp [number?, hsign, wholePart?_toDigits n hstops, hfraction, hexponent, NumberText.number?,
    hdigits]

theorem token?_string (s : String) (rest : List Char) :
    token? '"' (s.toList.flatMap escapedChar ++ '"' :: rest) = some (.string s, rest) := by
  have htoken : token? '"' (s.toList.flatMap escapedChar ++ '"' :: rest) =
      (stringBody? (s.toList.flatMap escapedChar ++ '"' :: rest)).map
        fun r => (.string (String.ofList r.1), r.2) := rfl
  rw [htoken, stringBody?_flatMap, Option.map_some, String.ofList_toList]

/-- A token that starts with a digit is a number. -/
theorem token?_digit {c : Char} (h : c.isDigit = true) (rest : List Char) :
    token? c rest = (number? (c :: rest)).map fun r => (.atom (.number r.1), r.2) := by
  have hne : ∀ d : Char, d.isDigit = false → c ≠ d := by
    rintro d hd rfl
    rw [hd] at h
    cases h
  simp only [token?, hne '[' rfl, hne ']' rfl, hne '\x7b' rfl, hne '\x7d' rfl, hne ',' rfl,
    hne ':' rfl, hne '"' rfl, hne 'n' rfl, hne 't' rfl, hne 'f' rfl, if_false]

namespace Reader

/-- Takes in a text. -/
def read (r : Reader) (cs : List Char) : Option Reader :=
  (tokens? cs).bind r.run

theorem read_nil (r : Reader) : r.read [] = some r := by
  rw [read, tokens?]
  rfl

/-- A text is taken in token by token. -/
theorem read_token (r : Reader) {c : Char} {cs rest : List Char} {t : Token}
    (hspace : isSpace c = false) (htoken : token? c cs = some (t, rest)) :
    r.read (c :: cs) = (r.step t).bind fun r => r.read rest := by
  have htokens : tokens? (c :: cs) = (tokens? rest).map (t :: ·) := by
    rw [tokens?, hspace, if_neg Bool.false_ne_true]
    split
    · rename_i hnone
      rw [htoken] at hnone
      cases hnone
    · rename_i u after hsome
      rw [htoken] at hsome
      cases hsome
      rfl
  rw [read, htokens, Option.bind_map]
  exact Option.bind_comm (tokens? rest) (r.step t)

theorem read_string (r : Reader) (s : String) (rest : List Char) :
    r.read (stringChars s ++ rest) = (r.step (.string s)).bind fun r => r.read rest := by
  have htext : stringChars s ++ rest = '"' :: (s.toList.flatMap escapedChar ++ '"' :: rest) := by
    simp [stringChars]
  rw [htext]
  exact r.read_token rfl (token?_string s rest)

theorem read_null (r : Reader) (rest : List Char) :
    r.read ("null".toList ++ rest) = (r.step (.atom .null)).bind fun r => r.read rest :=
  r.read_token rfl rfl

theorem read_nat (r : Reader) {n : Nat} (hn : n ≤ maxWord) {rest : List Char} (hrest : Ends rest) :
    r.read ((toString n).toList ++ rest) =
      (r.step (.atom (.number (.integer n)))).bind fun r => r.read rest := by
  have hnumber := number?_toDigits hn hrest
  rw [Nat.toString_eq_repr, Nat.toList_repr]
  cases hdigits : Nat.toDigits 10 n with
  | nil => exact absurd hdigits Nat.toDigits_ne_nil
  | cons c digits =>
    have hdigit : c.isDigit = true :=
      Nat.isDigit_of_mem_toDigits (b := 10) (n := n) (by decide) (by decide)
        (hdigits ▸ List.mem_cons_self)
    have hspace : isSpace c = false := by
      rw [Bool.eq_false_iff]
      intro hspace
      simp only [isSpace, Bool.or_eq_true, beq_iff_eq] at hspace
      rcases hspace with ((rfl | rfl) | rfl) | rfl <;> cases hdigit
    have htoken : token? c (digits ++ rest) = some (.atom (.number (.integer n)), rest) := by
      rw [token?_digit hdigit, ← List.cons_append, ← hdigits, hnumber, Option.map_some]
    rw [List.cons_append]
    exact r.read_token hspace htoken

/-! ## Values -/

/-- A value may come next. -/
def Awaits (r : Reader) : Prop :=
  r.expecting = .value ∨ r.expecting = .firstItem

theorem step_of_awaits {r : Reader} (h : r.Awaits) {t : Token} (ht : t ≠ .closeArray) :
    r.step t = r.openValue t := by
  obtain ⟨frames, last, expecting⟩ := r
  rcases h with rfl | rfl
  · cases t <;> rfl
  · cases t
    case closeArray => exact absurd rfl ht
    all_goals rfl

end Reader

/-- Within any text, a text is read as a value while no more than `depth` arrays and objects of
its own are open at once. -/
def Reads (depth : Nat) (j : Json) (cs : List Char) : Prop :=
  ∀ (r : Reader) (rest : List Char), r.Awaits → r.frames.length + depth ≤ Reader.maxDepth →
    Ends rest → r.read (cs ++ rest) = (Reader.complete r.frames j).read rest

theorem Reads.mono {depth depth' : Nat} {j : Json} {cs : List Char} (h : Reads depth j cs)
    (hle : depth ≤ depth') : Reads depth' j cs :=
  fun r rest hr hdepth hrest => h r rest hr (by omega) hrest

theorem reads_null : Reads 0 .null "null".toList := by
  intro r rest hr _ _
  rw [Reader.read_null, Reader.step_of_awaits hr (t := .atom .null) nofun]
  rfl

theorem reads_string (s : String) : Reads 0 (.string s) (stringChars s) := by
  intro r rest hr _ _
  rw [Reader.read_string, Reader.step_of_awaits hr (t := .string s) nofun]
  rfl

theorem reads_nat {n : Nat} (hn : n ≤ maxWord) :
    Reads 0 (.number (.integer n)) (toString n).toList := by
  intro r rest hr _ hrest
  rw [Reader.read_nat r hn hrest, Reader.step_of_awaits hr (t := .atom _) nofun]
  rfl

/-- The items of an array are read one after another, up to its end. -/
theorem read_items {depth : Nat} {items : List Json} {texts : List (List Char)}
    (h : List.Forall₂ (Reads depth) items texts) (hne : texts ≠ []) {outer : List Frame}
    (hdepth : outer.length + 1 + depth ≤ Reader.maxDepth) (rest : List Char) {r : Reader}
    {before : List Json} (hframes : r.frames = .array before :: outer) (hr : r.Awaits) :
    r.read (separated texts ++ ']' :: rest) =
      (Reader.complete outer (.array (before.reverse ++ items))).read rest := by
  -- The items that have been read are in the innermost frame, last one first.
  induction h generalizing r before with
  | nil => exact absurd rfl hne
  | @cons item text items texts hfirst hrest ih =>
    have hroom : r.frames.length + depth ≤ Reader.maxDepth := by
      rw [hframes]
      exact hdepth
    cases texts with
    | nil =>
      cases hrest
      rw [separated, hfirst r _ hr hroom (ends_cons (by simp) rest), hframes,
        Reader.read_token _ rfl rfl]
      simp [Reader.complete, Reader.step]
    | cons next texts =>
      have hsplit : separated (text :: next :: texts) ++ ']' :: rest =
          text ++ ',' :: (separated (next :: texts) ++ ']' :: rest) := by
        simp [separated]
      rw [hsplit, hfirst r _ hr hroom (ends_cons (by simp) _), hframes, Reader.read_token _ rfl rfl]
      have hlater := ih (List.cons_ne_nil next texts)
        (r := { frames := .array (item :: before) :: outer, expecting := .value }) rfl (.inl rfl)
      rw [List.reverse_cons, List.append_assoc] at hlater
      exact hlater

theorem reads_array {depth : Nat} {items : List Json} {texts : List (List Char)}
    (h : List.Forall₂ (Reads depth) items texts) :
    Reads (depth + 1) (.array items) (arrayChars texts) := by
  intro r rest hr hdepth _
  have htext : arrayChars texts ++ rest = '[' :: (separated texts ++ ']' :: rest) := by
    simp [arrayChars]
  have hroom : r.frames.length < Reader.maxDepth := by omega
  rw [htext, Reader.read_token r rfl rfl, Reader.step_of_awaits hr (t := .openArray) nofun,
    Reader.openValue,
    if_pos hroom, Option.bind_some]
  by_cases hne : texts = []
  · subst hne
    cases h
    rw [separated, List.nil_append, Reader.read_token _ rfl rfl]
    rfl
  · exact read_items h hne (by omega) rest
      (r := { frames := .array [] :: r.frames, expecting := .firstItem }) rfl (.inr rfl)

/-- A text is read as a member: its key and its value. -/
def ReadsMember (depth : Nat) (member : String × Json) (cs : List Char) : Prop :=
  ∃ value, cs = memberChars member.1 value ∧ Reads depth member.2 value

theorem readsMember {depth : Nat} {key : String} {j : Json} {cs : List Char}
    (h : Reads depth j cs) : ReadsMember depth (key, j) (memberChars key cs) :=
  ⟨cs, rfl, h⟩

/-- A key may come next, after some members. -/
def Reader.AwaitsKey (r : Reader) (before : Members) : Prop :=
  r.expecting = .firstKey before ∨ r.expecting = .key before

/-- A key and its colon. -/
theorem Reader.read_key {r : Reader} {before : Members} (hr : r.AwaitsKey before) (key : String)
    (value rest : List Char) :
    r.read (memberChars key value ++ rest) =
      Reader.read { frames := .object before key :: r.frames, expecting := .value }
        (value ++ rest) := by
  have htext : memberChars key value ++ rest = stringChars key ++ ':' :: (value ++ rest) := by
    simp [memberChars]
  rw [htext, Reader.read_string]
  obtain ⟨frames, last, expecting⟩ := r
  have hcolon : Reader.read ⟨frames, last, .colon before key⟩ (':' :: (value ++ rest)) =
      Reader.read ⟨.object before key :: frames, none, .value⟩ (value ++ rest) := by
    rw [Reader.read_token _ rfl rfl]
    rfl
  rcases hr with rfl | rfl
  · exact hcolon
  · exact hcolon

/-- The members of an object are read one after another, up to its end. -/
theorem read_members {depth : Nat} {members : List (String × Json)} {texts : List (List Char)}
    (h : List.Forall₂ (ReadsMember depth) members texts) (hne : texts ≠ []) (rest : List Char)
    {r : Reader} {before : Members} (hr : r.AwaitsKey before)
    (hdepth : r.frames.length + 1 + depth ≤ Reader.maxDepth) :
    r.read (separated texts ++ '\x7d' :: rest) =
      (Reader.complete r.frames
        (.object (members.foldl (fun d p => Dict.insert p.1 p.2 d) before))).read rest := by
  -- The members that have been read are in the reader, which awaits the key of the next one.
  induction h generalizing r before with
  | nil => exact absurd rfl hne
  | @cons member text members texts hfirst hrest ih =>
    obtain ⟨key, j⟩ := member
    obtain ⟨value, rfl, hvalue⟩ := hfirst
    have hread : ∀ {more : List Char}, Ends more →
        r.read (memberChars key value ++ more) =
          (Reader.complete (.object before key :: r.frames) j).read more := by
      intro more hmore
      rw [Reader.read_key hr]
      refine hvalue _ more (.inl rfl) ?_ hmore
      exact hdepth
    cases texts with
    | nil =>
      cases hrest
      rw [separated, hread (ends_cons (by simp) rest), Reader.read_token _ rfl rfl]
      rfl
    | cons next texts =>
      have hsplit : separated (memberChars key value :: next :: texts) ++ '\x7d' :: rest =
          memberChars key value ++ ',' :: (separated (next :: texts) ++ '\x7d' :: rest) := by
        simp [separated]
      rw [hsplit, hread (ends_cons (by simp) _), Reader.read_token _ rfl rfl]
      exact ih (List.cons_ne_nil next texts)
        (r := { frames := r.frames, expecting := .key (Dict.insert key j before) }) (.inr rfl)
        hdepth

theorem reads_object {depth : Nat} {members : List (String × Json)} {texts : List (List Char)}
    (h : List.Forall₂ (ReadsMember depth) members texts) :
    Reads (depth + 1) (ofPairs members) (objectChars texts) := by
  intro r rest hr hdepth _
  have htext : objectChars texts ++ rest = '\x7b' :: (separated texts ++ '\x7d' :: rest) := by
    simp [objectChars]
  have hroom : r.frames.length < Reader.maxDepth := by omega
  rw [htext, Reader.read_token r rfl rfl, Reader.step_of_awaits hr (t := .openObject) nofun,
    Reader.openValue,
    if_pos hroom, Option.bind_some]
  by_cases hne : texts = []
  · subst hne
    cases h
    rw [separated, List.nil_append, Reader.read_token _ rfl rfl]
    rfl
  · exact read_members h hne rest (r := { r with expecting := .firstKey [] }) (.inl rfl)
      (by show r.frames.length + 1 + depth ≤ _; omega)

/-- A text that is read as a value wherever it stands is JSON text of that value. -/
theorem Reads.parse?_eq {depth : Nat} {j : Json} {cs : List Char} (h : Reads depth j cs)
    (hdepth : depth ≤ Reader.maxDepth) : parse? (String.ofList cs) = some j := by
  have hread : Reader.read {} (cs ++ []) = (Reader.complete [] j).read [] :=
    h {} [] (.inl rfl) (by simpa using hdepth) ends_nil
  have hparse : parse? (String.ofList cs) = (Reader.read {} cs).bind Reader.result? := by
    rw [parse?, String.toList_ofList, Reader.read, Option.bind_assoc]
    rfl
  rw [hparse, ← List.append_nil cs, hread, Reader.read_nil]
  rfl

end LinkedData.Json
