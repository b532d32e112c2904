import LinkedData.Proofs.Text.Run
import LinkedData.Proofs.Text.Step
import LinkedData.Query.Lexer

/-!
# LinkedData.Proofs.Query.Layout -- words and the texts that are read as them

`Token.Occurs` are the words that some text is read as, and `Token.chars` is how a word is
written. A text in which words that occur are laid out, each one followed by something that
does not prolong it and with white space and comments anywhere between them, is read as these
words. In the other direction nothing but words that occur is ever read.
-/

namespace LinkedData.Query

open LinkedData.Rdf LinkedData.Text

/-! ## The characters of names -/

theorem blank_apart_alphanumeric :
    ∀ r ∈ blankRanges, ∀ s ∈ alphanumericRanges, r.2 < s.1 ∨ s.2 < r.1 := by
  decide +kernel

theorem toNat_of_isAsciiAlphanumeric {c : Char} (h : isAsciiAlphanumeric c = true) :
    48 ≤ c.toNat ∧ c.toNat ≤ 122 := by
  simp only [isAsciiAlphanumeric, Bool.or_eq_true, Bool.and_eq_true, decide_eq_true_eq,
    Char.le_def, UInt32.le_iff_toNat_le] at h
  rcases h with (⟨hlow, hhigh⟩ | ⟨hlow, hhigh⟩) | ⟨hlow, hhigh⟩
  · exact ⟨le_trans (by decide) hlow, le_trans hhigh (by decide)⟩
  · exact ⟨le_trans (by decide) hlow, le_trans hhigh (by decide)⟩
  · exact ⟨le_trans (by decide) hlow, le_trans hhigh (by decide)⟩

theorem isBlank_of_isAlphanumeric {c : Char} (h : isAlphanumeric c = true) :
    isBlank c = false := by
  rw [Bool.eq_false_iff]
  intro hblank
  obtain ⟨r, hr, hlow, hhigh⟩ := inRanges_iff.mp hblank
  unfold isAlphanumeric at h
  split at h
  -- In ASCII the class is three intervals, beyond it is a table like the one of white space.
  · have hapart : ∀ r ∈ blankRanges, r.2 < 48 ∨ 122 < r.1 := by decide
    have hascii := toNat_of_isAsciiAlphanumeric h
    have := hapart r hr
    omega
  · obtain ⟨s, hs, hlow', hhigh'⟩ := inRanges_iff.mp h
    have := blank_apart_alphanumeric r hr s hs
    omega

theorem isBlank_of_isNameChar {c : Char} (h : isNameChar c = true) : isBlank c = false := by
  simp only [isNameChar, Bool.or_eq_true, beq_iff_eq] at h
  rcases h with (((h | rfl) | rfl) | rfl) | rfl
  · exact isBlank_of_isAlphanumeric h
  · decide
  · decide
  · decide
  · decide

theorem isNameChar_of_isVariableChar {c : Char} (h : isVariableChar c = true) :
    isNameChar c = true := by
  simp only [isVariableChar, Bool.or_eq_true] at h
  simp only [isNameChar, Bool.or_eq_true]
  exact Or.inl (Or.inl (Or.inl h))

theorem isNameChar_of_isLanguageChar {c : Char} (h : isLanguageChar c = true) :
    isNameChar c = true := by
  simp only [isLanguageChar, Bool.or_eq_true] at h
  simp only [isNameChar, Bool.or_eq_true]
  rcases h with h | h
  · have hascii : c.toNat < 0x80 := by
      have := toNat_of_isAsciiAlphanumeric h
      omega
    rw [isAlphanumeric_of_ascii hascii]
    exact Or.inl (Or.inl (Or.inl (Or.inl h)))
  · exact Or.inl (Or.inl (Or.inr h))

/-- A run of the characters of names that neither starts nor ends with a dot. -/
structure IsName (name : List Char) : Prop where
  nonempty : name ≠ []
  chars : ∀ c ∈ name, isNameChar c = true
  first : ∀ c ∈ name.head?, c ≠ '.'
  last : ∀ c ∈ name.getLast?, (c == '.') = false

theorem isName_iff {name : List Char} :
    IsName name ↔
      name ≠ [] ∧ name.all isNameChar = true ∧ name.head? ≠ some '.' ∧
        name.getLast? ≠ some '.' := by
  constructor
  · rintro ⟨hne, hchars, hfirst, hlast⟩
    refine ⟨hne, List.all_eq_true.mpr hchars, fun h => hfirst '.' h rfl, ?_⟩
    intro h
    exact absurd (hlast '.' h) (by decide)
  · rintro ⟨hne, hchars, hfirst, hlast⟩
    refine ⟨hne, List.all_eq_true.mp hchars, ?_, ?_⟩
    · rintro c hc rfl
      exact hfirst hc
    · intro c hc
      rw [beq_eq_false_iff_ne]
      rintro rfl
      exact hlast hc

instance (name : List Char) : Decidable (IsName name) :=
  decidable_of_iff
    (name ≠ [] ∧ name.all isNameChar = true ∧ name.head? ≠ some '.' ∧ name.getLast? ≠ some '.')
    isName_iff.symm

/-! ## Words -/

/-- How a word is written. -/
def Token.chars : Token → List Char
  | .word text => text.toList
  | .prefixed space tail => space.toList ++ ':' :: tail.toList
  | .variable name => '?' :: name.toList
  | .iri i => iriChars i
  | .blank label => '_' :: ':' :: label.toList
  | .string value => quoted value
  | .language tag => '@' :: tag.toList
  | .caret => ['^', '^']
  | .star => ['*']
  | .dot => ['.']
  | .openBrace => ['{']
  | .closeBrace => ['}']

/-- The words that some text is read as. -/
def Token.Occurs : Token → Prop
  | .word text => IsName text.toList ∧ ':' ∉ text.toList
  | .prefixed space tail =>
    IsName (space.toList ++ ':' :: tail.toList) ∧ ':' ∉ space.toList ∧ space.toList ≠ ['_']
  | .variable name => name.toList ≠ [] ∧ ∀ c ∈ name.toList, isVariableChar c = true
  | .iri i => '>' ∉ i.toList
  | .blank label => IsName ('_' :: ':' :: label.toList)
  | .language tag => tag.toList ≠ [] ∧ ∀ c ∈ tag.toList, isLanguageChar c = true
  | _ => True

instance : DecidablePred Token.Occurs
  | .word _ | .prefixed _ _ => inferInstanceAs (Decidable (_ ∧ _))
  | .variable name =>
    decidable_of_iff (name.toList ≠ [] ∧ name.toList.all isVariableChar = true)
      (and_congr_right' List.all_eq_true)
  | .language tag =>
    decidable_of_iff (tag.toList ≠ [] ∧ tag.toList.all isLanguageChar = true)
      (and_congr_right' List.all_eq_true)
  | .iri _ => inferInstanceAs (Decidable (_ ∉ _))
  | .blank _ => inferInstanceAs (Decidable (IsName _))
  | .string _ | .caret | .star | .dot | .openBrace | .closeBrace => .isTrue trivial

/-- Letters and digits make a plain word. -/
theorem Token.occurs_word {text : String} (hne : text.toList ≠ [])
    (hall : text.toList.all isAlphanumeric = true) : (Token.word text).Occurs := by
  have h : ∀ c ∈ text.toList, isAlphanumeric c = true := List.all_eq_true.mp hall
  have hdot : ∀ c ∈ text.toList, c ≠ '.' := by
    rintro c hc rfl
    exact absurd (h _ hc) (by decide)
  refine ⟨⟨hne, ?_, ?_, ?_⟩, ?_⟩
  · intro c hc
    simp [isNameChar, h c hc]
  · intro c hc
    exact hdot c (List.mem_of_mem_head? hc)
  · intro c hc
    simpa using hdot c (List.mem_of_mem_getLast? hc)
  · intro hmem
    exact absurd (h _ hmem) (by decide)

/-- A text that does not prolong the word in front of it. -/
def Token.EndsBefore (rest : List Char) : Token → Prop
  | .word _ | .prefixed _ _ | .blank _ => StopsAt isNameChar rest
  | .variable _ => StopsAt isVariableChar rest
  | .language _ => StopsAt isLanguageChar rest
  | _ => True

theorem Token.endsBefore_nil (t : Token) : t.EndsBefore [] := by
  match t with
  | .word _ | .prefixed _ _ | .blank _ | .variable _ | .language _ => exact nofun
  | .iri _ | .string _ | .caret | .star | .dot | .openBrace | .closeBrace => trivial

/-- A character that no name is made of does not prolong any word. -/
theorem Token.endsBefore_cons {c : Char} (hname : isNameChar c = false) (rest : List Char)
    (t : Token) : t.EndsBefore (c :: rest) := by
  have hvariable : isVariableChar c = false :=
    Bool.eq_false_iff.mpr fun h => by simp [isNameChar_of_isVariableChar h] at hname
  have hlanguage : isLanguageChar c = false :=
    Bool.eq_false_iff.mpr fun h => by simp [isNameChar_of_isLanguageChar h] at hname
  match t with
  | .word _ | .prefixed _ _ | .blank _ => exact stopsAt_cons.mpr hname
  | .variable _ => exact stopsAt_cons.mpr hvariable
  | .language _ => exact stopsAt_cons.mpr hlanguage
  | .iri _ | .string _ | .caret | .star | .dot | .openBrace | .closeBrace => trivial

/-- White space does not prolong any word. -/
theorem Token.endsBefore_blank {c : Char} (hc : isBlank c = true) (rest : List Char) (t : Token) :
    t.EndsBefore (c :: rest) := by
  have hname : isNameChar c = false := by
    rw [Bool.eq_false_iff]
    intro h
    rw [isBlank_of_isNameChar h] at hc
    cases hc
  exact Token.endsBefore_cons hname rest t

/-! ## Reading one word -/

theorem classify_word {name : List Char} (h : ':' ∉ name) :
    classify name = .word (String.ofList name) := by
  have hdrop : name.dropWhile (· != ':') = [] := by
    rw [List.dropWhile_eq_nil_iff]
    intro c hc
    rw [bne_iff_ne]
    rintro rfl
    exact h hc
  unfold classify
  split
  · exact absurd (by simp) h
  · rw [hdrop]

theorem classify_prefixed {space tail : List Char} (hspace : ':' ∉ space)
    (hblank : space ≠ ['_']) :
    classify (space ++ ':' :: tail) = .prefixed (String.ofList space) (String.ofList tail) := by
  unfold classify
  split
  · rename_i label hlabel
    -- To be read as a blank node the name would have to start with `_` and its first colon.
    match space, hlabel with
    | [], hlabel =>
      injection hlabel with hcolon
      exact absurd hcolon (by decide)
    | [c], hlabel =>
      injection hlabel with hc
      exact absurd (by rw [hc]) hblank
    | c :: d :: space, hlabel =>
      injection hlabel with _ hlabel
      injection hlabel with hd
      exact absurd (by simp [hd]) hspace
  · rw [dropWhile_until hspace, takeWhile_until hspace]

/-- What a name is read as is a word that occurs and is written as that name. -/
theorem classify_name {name : List Char} (h : IsName name) :
    (classify name).Occurs ∧ (classify name).chars = name := by
  by_cases hcolon : ':' ∈ name
  · obtain ⟨space, tail, rfl, hspace⟩ := List.eq_append_cons_of_mem hcolon
    by_cases hblank : space = ['_']
    · subst hblank
      simpa [classify, Token.Occurs, Token.chars] using h
    · rw [classify_prefixed hspace hblank]
      simpa [Token.Occurs, Token.chars, hspace, hblank] using h
  · rw [classify_word hcolon]
    simpa [Token.Occurs, Token.chars, hcolon] using h

theorem nameOf_name {c : Char} {tail rest : List Char} (h : IsName (c :: tail))
    (hrest : StopsAt isNameChar rest) : nameOf c (tail ++ rest) = c :: tail := by
  have hchars : ∀ d ∈ tail, isNameChar d = true := (List.forall_mem_cons.mp h.chars).2
  have hlast : ∀ d ∈ tail.getLast?, (d == '.') = false := by
    intro d hd
    apply h.last
    rw [List.getLast?_cons]
    simp [Option.mem_def.mp hd]
  rw [nameOf, takeWhile_run hchars hrest, dropTailWhile_eq_self hlast]

/-- The characters of names start no word of another kind. -/
theorem lexToken_of_isNameChar {c : Char} (hc : isNameChar c = true) (hdot : c ≠ '.')
    (rest : List Char) :
    lexToken c rest = .ok (classify (nameOf c rest), rest.drop ((nameOf c rest).length - 1)) := by
  have hne : ∀ d, isNameChar d = false → c ≠ d := by
    rintro d hd rfl
    rw [hc] at hd
    cases hd
  rw [lexToken, if_neg (hne '{' (by decide)), if_neg (hne '}' (by decide)), if_neg hdot,
    if_neg (hne '*' (by decide)), if_neg (fun h => hne '^' (by decide) h.1),
    if_neg (hne '<' (by decide)), if_neg (hne '"' (by decide)), if_neg (hne '@' (by decide)),
    if_neg (not_or.mpr ⟨hne '?' (by decide), hne '$' (by decide)⟩), if_pos hc]

theorem lexToken_name {c : Char} {tail rest : List Char} (h : IsName (c :: tail))
    (hrest : StopsAt isNameChar rest) :
    lexToken c (tail ++ rest) = .ok (classify (c :: tail), rest) := by
  rw [lexToken_of_isNameChar (h.chars c (by simp)) (h.first c rfl), nameOf_name h hrest]
  simp

theorem nameOf_isName {c : Char} (hc : isNameChar c = true) (hdot : c ≠ '.') (rest : List Char) :
    IsName (nameOf c rest) := by
  have hdot' : (c == '.') = false := by simpa using hdot
  refine ⟨by simp [nameOf], ?_, ?_, ?_⟩
  · intro d hd
    rcases List.mem_cons.mp hd with rfl | hd
    · exact hc
    · exact List.mem_takeWhile_imp ((dropTailWhile_isPrefix _ _).subset hd)
  · rintro d hd
    cases hd
    exact hdot
  · intro d hd
    rw [nameOf, List.getLast?_cons] at hd
    cases hlast : (dropTailWhile (· == '.') (rest.takeWhile isNameChar)).getLast? with
    | none =>
      simp only [hlast, Option.getD_none, Option.mem_def, Option.some.injEq] at hd
      rwa [← hd]
    | some e =>
      simp only [hlast, Option.getD_some, Option.mem_def, Option.some.injEq] at hd
      rw [← hd]
      exact getLast?_dropTailWhile _ _ e hlast

theorem iriToken_written {i : Iri} (h : '>' ∉ i.toList) (rest : List Char) :
    iriToken (i.toList ++ '>' :: rest) = .ok (.iri i, rest) := by
  simp only [iriToken, dropWhile_until h, takeWhile_until h, String.ofList_toList]

theorem runToken_written {p : Char → Bool} {name : String} {rest : List Char}
    (make : String → Token) (fault : Fault) (hne : name.toList ≠ [])
    (hname : ∀ c ∈ name.toList, p c = true) (hrest : StopsAt p rest) :
    runToken p make fault (name.toList ++ rest) = .ok (make name, rest) := by
  have hnonempty : name.toList.isEmpty = false := by simpa using hne
  simp only [runToken, takeWhile_run hname hrest, dropWhile_run hname hrest, hnonempty,
    Bool.false_eq_true, if_false, String.ofList_toList]

theorem stringBody_escaped (value rest : List Char) :
    stringBody (value.flatMap escapedChar ++ '"' :: rest) = .ok (value, rest) := by
  induction value with
  | nil => rfl
  | cons c value ih =>
    -- Every escape that is written stands for the character that it was written for.
    have hescape : ∀ letter d, escapedLetter? letter = some d →
        stringBody ('\\' :: letter :: (value.flatMap escapedChar ++ '"' :: rest)) =
          .ok (d :: value, rest) := by
      intro letter d hletter
      simp only [stringBody, hletter, ih, Except.map]
    rw [List.flatMap_cons]
    unfold escapedChar
    split
    · rename_i hc
      exact hescape '"' c (by rw [hc]; rfl)
    · rename_i hquote
      split
      · rename_i hc
        exact hescape '\\' c (by rw [hc]; rfl)
      · rename_i hbackslash
        split
        · rename_i hc
          exact hescape 'n' c (by rw [hc]; rfl)
        · split
          · rename_i hc
            exact hescape 'r' c (by rw [hc]; rfl)
          · have hplain : stringBody (c :: (value.flatMap escapedChar ++ '"' :: rest)) =
                .ok (c :: value, rest) := by
              rw [stringBody.eq_5 _ _ hquote (fun heq _ => hbackslash heq)
                (fun _ _ heq _ => hbackslash heq), ih]
              rfl
            exact hplain

/-- The text `cs` starts with the word `t`, and `rest` is what follows it. -/
def StartsWith (t : Token) (cs rest : List Char) : Prop :=
  ∃ c tail, cs = c :: tail ∧ isBlank c = false ∧ c ≠ '#' ∧ lexToken c tail = .ok (t, rest)

theorem startsWith_name {name rest : List Char} (h : IsName name)
    (hrest : StopsAt isNameChar rest) : StartsWith (classify name) (name ++ rest) rest := by
  obtain ⟨c, tail, rfl⟩ := List.exists_cons_of_ne_nil h.nonempty
  have hc : isNameChar c = true := h.chars c (by simp)
  refine ⟨c, tail ++ rest, rfl, isBlank_of_isNameChar hc, ?_, lexToken_name h hrest⟩
  rintro rfl
  exact absurd hc (by decide)

/-- A word that occurs is read from where it is written. -/
theorem startsWith_written {t : Token} (h : t.Occurs) {rest : List Char}
    (hrest : t.EndsBefore rest) : StartsWith t (t.chars ++ rest) rest := by
  match t, h, hrest with
  | .word text, ⟨hname, hcolon⟩, hrest =>
    have hstart := startsWith_name hname hrest
    rwa [classify_word hcolon, String.ofList_toList] at hstart
  | .prefixed space tail, ⟨hname, hcolon, hblank⟩, hrest =>
    have hstart := startsWith_name hname hrest
    rwa [classify_prefixed hcolon hblank, String.ofList_toList, String.ofList_toList] at hstart
  | .blank label, hname, hrest =>
    have hstart := startsWith_name hname hrest
    rwa [classify, String.ofList_toList] at hstart
  | .variable name, ⟨hne, hname⟩, hrest =>
    exact ⟨'?', _, rfl, by decide, by decide, runToken_written .variable _ hne hname hrest⟩
  | .language tag, ⟨hne, htag⟩, hrest =>
    exact ⟨'@', _, rfl, by decide, by decide, runToken_written .language _ hne htag hrest⟩
  | .iri i, hi, _ =>
    have htext : (Token.iri i).chars ++ rest = '<' :: (i.toList ++ '>' :: rest) := by
      simp [Token.chars, iriChars]
    rw [htext]
    exact ⟨'<', _, rfl, by decide, by decide, iriToken_written hi rest⟩
  | .string value, _, _ =>
    have htext : (Token.string value).chars ++ rest =
        '"' :: (value.toList.flatMap escapedChar ++ '"' :: rest) := by
      simp [Token.chars, quoted]
    have hread : lexToken '"' (value.toList.flatMap escapedChar ++ '"' :: rest) =
        .ok (.string value, rest) := by
      have hbody := stringBody_escaped value.toList rest
      show (stringBody _).map _ = _
      rw [hbody]
      simp only [Except.map, String.ofList_toList]
    rw [htext]
    exact ⟨'"', _, rfl, by decide, by decide, hread⟩
  | .caret, _, _ => exact ⟨'^', _, rfl, by decide, by decide, rfl⟩
  | .star, _, _ => exact ⟨'*', _, rfl, by decide, by decide, rfl⟩
  | .dot, _, _ => exact ⟨'.', _, rfl, by decide, by decide, rfl⟩
  | .openBrace, _, _ => exact ⟨'{', _, rfl, by decide, by decide, rfl⟩
  | .closeBrace, _, _ => exact ⟨'}', _, rfl, by decide, by decide, rfl⟩

theorem iriToken_occurs {rest after : List Char} {t : Token}
    (h : iriToken rest = .ok (t, after)) : t.Occurs := by
  unfold iriToken at h
  split at h
  · cases h
  · cases h
    show '>' ∉ (String.ofList _).toList
    rw [String.toList_ofList]
    intro hmem
    exact absurd (List.mem_takeWhile_imp hmem) (by decide)

theorem runToken_eq_ok {p : Char → Bool} {make : String → Token} {fault : Fault}
    {rest after : List Char} {t : Token} (h : runToken p make fault rest = .ok (t, after)) :
    ∃ name, t = make name ∧ name.toList ≠ [] ∧ ∀ c ∈ name.toList, p c = true := by
  unfold runToken at h
  simp only at h
  split at h
  · cases h
  · rename_i hnonempty
    cases h
    refine ⟨_, rfl, ?_, ?_⟩
    · rw [String.toList_ofList]
      simpa using hnonempty
    · rw [String.toList_ofList]
      intro c hc
      exact List.mem_takeWhile_imp hc

/-- Only words that occur are read. -/
theorem lexToken_occurs {c : Char} {rest after : List Char} {t : Token}
    (h : lexToken c rest = .ok (t, after)) : t.Occurs := by
  unfold lexToken at h
  split at h
  · cases h; trivial
  split at h
  · cases h; trivial
  split at h
  · cases h; trivial
  rename_i hdot
  split at h
  · cases h; trivial
  split at h
  · cases h; trivial
  split at h
  · exact iriToken_occurs h
  split at h
  · obtain ⟨_, -, hstring⟩ := map_eq_ok_iff.mp h
    cases hstring
    trivial
  split at h
  · obtain ⟨tag, rfl, hne, htag⟩ := runToken_eq_ok h
    exact ⟨hne, htag⟩
  split at h
  · obtain ⟨name, rfl, hne, hname⟩ := runToken_eq_ok h
    exact ⟨hne, hname⟩
  split at h
  · rename_i hname
    cases h
    exact (classify_name (nameOf_isName hname hdot rest)).1
  · cases h

/-! ## Reading all words -/

theorem tokenize_blank {c : Char} (hc : isBlank c = true) (cs : List Char) :
    tokenize (c :: cs) = tokenize cs := by
  rw [tokenize, if_pos hc]

theorem tokenize_comment {text : List Char} (h : '\n' ∉ text) (cs : List Char) :
    tokenize ('#' :: (text ++ '\n' :: cs)) = tokenize cs := by
  rw [tokenize, if_neg (by decide), if_pos rfl, afterComment, dropWhile_until h]
  exact tokenize_blank (by decide) cs

theorem tokenize_startsWith {t : Token} {cs rest : List Char} (h : StartsWith t cs rest) :
    tokenize cs = (tokenize rest).map (t :: ·) := by
  obtain ⟨c, tail, rfl, hblank, hcomment, hread⟩ := h
  rw [tokenize, if_neg (by simp [hblank]), if_neg hcomment]
  split
  · rename_i fault hfault
    rw [hread] at hfault
    cases hfault
  · rename_i t' after hok
    rw [hread] at hok
    cases hok
    rfl

/-- The words `ts`, laid out as a text: one after another, each with something behind it that
does not prolong it, and white space and comments anywhere between them. -/
inductive Layout : List Token → List Char → Prop
  | done : Layout [] []
  | blank {c : Char} {ts : List Token} {cs : List Char} :
      isBlank c = true → Layout ts cs → Layout ts (c :: cs)
  | comment {text : List Char} {ts : List Token} {cs : List Char} :
      '\n' ∉ text → Layout ts cs → Layout ts ('#' :: (text ++ '\n' :: cs))
  | word {t : Token} {ts : List Token} {cs : List Char} :
      t.Occurs → t.EndsBefore cs → Layout ts cs → Layout (t :: ts) (t.chars ++ cs)

theorem Layout.tokenize_eq {ts : List Token} {cs : List Char} (h : Layout ts cs) :
    tokenize cs = .ok ts := by
  induction h with
  | done => rw [tokenize]
  | blank hc _ ih => rw [tokenize_blank hc, ih]
  | comment htext _ ih => rw [tokenize_comment htext, ih]
  | word ht hrest _ ih =>
    rw [tokenize_startsWith (startsWith_written ht hrest), ih]
    rfl

theorem tokenize_occurs {cs : List Char} {ts : List Token} (h : tokenize cs = .ok ts) :
    ∀ t ∈ ts, t.Occurs := by
  fun_induction tokenize cs generalizing ts with
  | case1 =>
    cases h
    simp
  | case2 _ _ _ ih => exact ih h
  | case3 _ _ ih => exact ih h
  | case4 => cases h
  | case5 c rest _ _ t after hread ih =>
    obtain ⟨ts', hts', rfl⟩ := map_eq_ok_iff.mp h
    exact List.forall_mem_cons.mpr ⟨lexToken_occurs hread, ih hts'⟩

end LinkedData.Query
