import LinkedData.NQuads.Statement
import LinkedData.Proofs.Text.Run
import LinkedData.Proofs.Text.Step

/-!
# LinkedData.Proofs.NQuads.Grammar -- what stands between delimiters

The text of an IRI and the value of a literal are spelled character by character: a character
stands for itself, or an escape stands for it. The readers of both accept exactly the
spellings, and what a spelling spells is what they return. `NumericEscape` and
`LiteralEscape` are the escapes; a numeric escape names a scalar value or, as two surrogate
halves, a character beyond the first plane.
-/

namespace LinkedData.NQuads

open LinkedData.Rdf LinkedData.Text

/-! ## Escapes -/

/-- How many digits follow the letter of a numeric escape. -/
def escapeWidth? (letter : Char) : Option Nat :=
  if letter = 'u' then some 4 else if letter = 'U' then some 8 else none

/-- A text of hexadecimal digits alone. -/
def AreHexDigits (cs : List Char) : Prop :=
  ∀ c ∈ cs, isHexDigit c = true

/-- What follows the backslash of a numeric escape, and the character that it names. -/
inductive NumericEscape : List Char → Char → Prop
  | scalar {letter : Char} {digits : List Char} :
      escapeWidth? letter = some digits.length → AreHexDigits digits →
      isHighSurrogate (hexNumber digits) = false → (hexNumber digits).isValidChar →
      NumericEscape (letter :: digits) (Char.ofNat (hexNumber digits))
  | pair {letter : Char} {digits low : List Char} :
      escapeWidth? letter = some digits.length → AreHexDigits digits →
      isHighSurrogate (hexNumber digits) = true →
      low.length = 4 → AreHexDigits low → isLowSurrogate (hexNumber low) = true →
      NumericEscape (letter :: (digits ++ '\\' :: 'u' :: low))
        (joinSurrogates (hexNumber digits) (hexNumber low))

/-- What follows the backslash of an escape in a literal, and the character that it names. -/
inductive LiteralEscape : List Char → Char → Prop
  | letter {c d : Char} : letterEscape? c = some d → LiteralEscape [c] d
  | numeric {written : List Char} {d : Char} : NumericEscape written d → LiteralEscape written d

theorem hexDigits_append {digits : List Char} (h : AreHexDigits digits) (rest : List Char) :
    hexDigits digits.length (digits ++ rest) = .ok (hexNumber digits, rest) := by
  have htake : ((digits ++ rest).take digits.length).takeWhile isHexDigit = digits := by
    rw [List.take_left, List.takeWhile_eq_self_iff]
    exact h
  unfold hexDigits
  simp only [htake, if_true, List.drop_left]

theorem hexDigits_eq_ok {width : Nat} {cs rest : List Char} {n : Nat}
    (h : hexDigits width cs = .ok (n, rest)) :
    ∃ digits, digits.length = width ∧ AreHexDigits digits ∧ n = hexNumber digits ∧
      cs = digits ++ rest := by
  unfold hexDigits at h
  simp only at h
  split at h
  · rename_i hlen
    simp only [Except.ok.injEq, Prod.mk.injEq] at h
    obtain ⟨rfl, rfl⟩ := h
    -- The digits are all of the text that was taken, as they are as many.
    have hall : (cs.take width).takeWhile isHexDigit = cs.take width := by
      apply (List.takeWhile_prefix isHexDigit).eq_of_length_le
      rw [hlen]
      exact List.length_take_le width cs
    refine ⟨_, hlen, fun c hc => List.mem_takeWhile_imp hc, rfl, ?_⟩
    rw [hall, List.take_append_drop]
  · cases h

/-- The readers of four and of eight digits accept a scalar value or a surrogate pair. -/
theorem scalarValue_eq_ok_iff {letter : Char} {width : Nat} {cs rest : List Char} {c : Char}
    (hwidth : escapeWidth? letter = some width) :
    scalarValue width cs = .ok (c, rest) ↔
      ∃ written, NumericEscape (letter :: written) c ∧ cs = written ++ rest := by
  constructor
  · intro h
    unfold scalarValue at h
    split at h
    · cases h
    · rename_i n after hn
      obtain ⟨digits, rfl, hdigits, rfl, rfl⟩ := hexDigits_eq_ok hn
      split at h
      · rename_i hhigh
        split at h
        · rename_i lowText
          split at h
          · cases h
          · rename_i lowNumber after' hlowNumber
            obtain ⟨low, hlength, hlow, rfl, rfl⟩ := hexDigits_eq_ok hlowNumber
            split at h
            · rename_i hislow
              simp only [Except.ok.injEq, Prod.mk.injEq] at h
              obtain ⟨rfl, rfl⟩ := h
              exact ⟨digits ++ '\\' :: 'u' :: low,
                .pair hwidth hdigits hhigh hlength hlow hislow, by simp⟩
            · cases h
        · cases h
      · rename_i hhigh
        split at h
        · rename_i hvalid
          simp only [Except.ok.injEq, Prod.mk.injEq] at h
          obtain ⟨rfl, rfl⟩ := h
          exact ⟨digits, .scalar hwidth hdigits (by simpa using hhigh) hvalid, rfl⟩
        · cases h
  · rintro ⟨written, h, rfl⟩
    cases h with
    | scalar hwidth' hdigits hhigh hvalid =>
      obtain rfl := Option.some_inj.mp (hwidth.symm.trans hwidth')
      unfold scalarValue
      rw [hexDigits_append hdigits]
      simp [hhigh, hvalid]
    | @pair _ digits low hwidth' hdigits hhigh hlength hlow hislow =>
      obtain rfl := Option.some_inj.mp (hwidth.symm.trans hwidth')
      have hlowRead := hexDigits_append hlow rest
      rw [hlength] at hlowRead
      unfold scalarValue
      rw [List.append_assoc, hexDigits_append hdigits]
      simp [hhigh, hlowRead, hislow]

theorem NumericEscape.width {letter : Char} {written : List Char} {c : Char}
    (h : NumericEscape (letter :: written) c) : ∃ width, escapeWidth? letter = some width := by
  cases h with
  | scalar hwidth => exact ⟨_, hwidth⟩
  | pair hwidth => exact ⟨_, hwidth⟩

theorem numericEscape_eq_ok_iff {cs rest : List Char} {c : Char} :
    numericEscape cs = .ok (c, rest) ↔
      ∃ written, NumericEscape written c ∧ cs = written ++ rest := by
  constructor
  · intro h
    unfold numericEscape at h
    split at h
    · cases h
    · rename_i letter after
      split at h
      · rename_i hu
        have hwidth : escapeWidth? letter = some 4 := by rw [hu]; rfl
        obtain ⟨written, hwritten, rfl⟩ := (scalarValue_eq_ok_iff hwidth).mp h
        exact ⟨letter :: written, hwritten, rfl⟩
      · split at h
        · rename_i hU
          have hwidth : escapeWidth? letter = some 8 := by rw [hU]; rfl
          obtain ⟨written, hwritten, rfl⟩ := (scalarValue_eq_ok_iff hwidth).mp h
          exact ⟨letter :: written, hwritten, rfl⟩
        · cases h
  · rintro ⟨written, h, rfl⟩
    cases written with
    | nil => cases h
    | cons letter written =>
      obtain ⟨width, hwidth⟩ := h.width
      have hread : scalarValue width (written ++ rest) = .ok (c, rest) :=
        (scalarValue_eq_ok_iff hwidth).mpr ⟨written, h, rfl⟩
      unfold escapeWidth? at hwidth
      rw [List.cons_append, numericEscape]
      split at hwidth
      · rename_i hu
        cases hwidth
        rw [if_pos hu]
        exact hread
      · rename_i hu
        split at hwidth
        · rename_i hU
          cases hwidth
          rw [if_neg hu, if_pos hU]
          exact hread
        · cases hwidth

theorem literalEscape_eq_ok_iff {cs rest : List Char} {c : Char} :
    literalEscape cs = .ok (c, rest) ↔
      ∃ written, LiteralEscape written c ∧ cs = written ++ rest := by
  constructor
  · intro h
    unfold literalEscape at h
    split at h
    · cases h
    · rename_i letter after
      split at h
      · obtain ⟨written, hwritten, heq⟩ := numericEscape_eq_ok_iff.mp h
        exact ⟨written, .numeric hwritten, heq⟩
      · split at h
        · rename_i d hd
          cases h
          exact ⟨[letter], .letter hd, rfl⟩
        · cases h
  · rintro ⟨written, h, rfl⟩
    cases h with
    | @letter letter d hletter =>
      have hnotNumeric : ¬ (letter = 'u' ∨ letter = 'U') := by
        rintro (rfl | rfl)
        · cases hletter
        · cases hletter
      rw [List.singleton_append, literalEscape, if_neg hnotNumeric]
      simp only [hletter]
    | numeric hnumeric =>
      have hread : numericEscape (written ++ rest) = .ok (c, rest) :=
        numericEscape_eq_ok_iff.mpr ⟨written, hnumeric, rfl⟩
      cases written with
      | nil => cases hnumeric
      | cons letter written =>
        obtain ⟨width, hwidth⟩ := hnumeric.width
        have hletter : letter = 'u' ∨ letter = 'U' := by
          unfold escapeWidth? at hwidth
          grind
        rw [List.cons_append, literalEscape, if_pos hletter]
        exact hread

/-! ## Texts of IRIs and values of literals -/

/-- A text spelled character by character: a character of a class stands for itself, and
others are escaped. -/
inductive Spelled (raw : Char → Prop) (escape : List Char → Char → Prop) :
    List Char → List Char → Prop
  | nil : Spelled raw escape [] []
  | raw {c : Char} {written text : List Char} :
      raw c → Spelled raw escape written text → Spelled raw escape (c :: written) (c :: text)
  | escaped {e : List Char} {c : Char} {written text : List Char} :
      escape e c → Spelled raw escape written text →
      Spelled raw escape ('\\' :: e ++ written) (c :: text)

/-- The characters that stand for themselves in an IRI. -/
def IsRawInIri (c : Char) : Prop :=
  c ≠ '>' ∧ c ≠ '\\' ∧ c ≠ ' ' ∧ c ≠ '<' ∧ c ≠ '"'

/-- The characters that stand for themselves in a literal. -/
def IsRawInLiteral (c : Char) : Prop :=
  c ≠ '"' ∧ c ≠ '\\'

theorem consRead_eq_ok_iff {c : Char} {r : Except Fault (List Char × List Char)}
    {text rest : List Char} :
    consRead c r = .ok (text, rest) ↔ ∃ text', r = .ok (text', rest) ∧ text = c :: text' := by
  cases r with
  | error e => simp [consRead]
  | ok r =>
    obtain ⟨text', rest'⟩ := r
    simp only [consRead, Except.ok.injEq, Prod.mk.injEq]
    constructor
    · rintro ⟨rfl, rfl⟩
      exact ⟨text', ⟨rfl, rfl⟩, rfl⟩
    · rintro ⟨_, ⟨rfl, rfl⟩, rfl⟩
      exact ⟨rfl, rfl⟩

/-- The text of an IRI is read exactly when it is spelled up to the closing bracket. -/
theorem iriBody_eq_ok_iff {cs text rest : List Char} :
    iriBody cs = .ok (text, rest) ↔
      ∃ written, Spelled IsRawInIri NumericEscape written text ∧ cs = written ++ '>' :: rest := by
  constructor
  · intro h
    fun_induction iriBody cs generalizing text with
    | case1 => cases h
    | case2 after =>
      cases h
      exact ⟨[], .nil, rfl⟩
    | case3 => cases h
    | case4 tail d after hd _ ih =>
      obtain ⟨text', htext, rfl⟩ := consRead_eq_ok_iff.mp h
      obtain ⟨written, hwritten, rfl⟩ := ih htext
      obtain ⟨e, he, rfl⟩ := numericEscape_eq_ok_iff.mp hd
      exact ⟨'\\' :: e ++ written, .escaped he hwritten, by simp⟩
    | case5 => cases h
    | case6 c tail hclose hescape hraw ih =>
      obtain ⟨text', htext, rfl⟩ := consRead_eq_ok_iff.mp h
      obtain ⟨written, hwritten, rfl⟩ := ih htext
      simp only [not_or] at hraw
      exact ⟨c :: written, .raw ⟨hclose, hescape, hraw⟩ hwritten, rfl⟩
  · rintro ⟨written, h, rfl⟩
    induction h with
    | nil => rw [List.nil_append, iriBody, if_pos rfl]
    | raw hc _ ih =>
      obtain ⟨hclose, hescape, hspace, hopen, hquote⟩ := hc
      rw [List.cons_append, iriBody, if_neg hclose, if_neg hescape,
        if_neg (by simp [hspace, hopen, hquote]), ih, consRead]
    | @escaped e c written text he _ ih =>
      have hread : numericEscape (e ++ (written ++ '>' :: rest)) =
          .ok (c, written ++ '>' :: rest) := numericEscape_eq_ok_iff.mpr ⟨e, he, rfl⟩
      rw [List.cons_append, List.cons_append, iriBody, if_neg (by decide), if_pos rfl,
        List.append_assoc]
      split
      · rename_i fault hfault
        rw [hread] at hfault
        cases hfault
      · rename_i d after hd
        rw [hread] at hd
        cases hd
        rw [ih, consRead]

/-- The value of a literal is read exactly when it is spelled up to the closing quote. -/
theorem literalBody_eq_ok_iff {cs text rest : List Char} :
    literalBody cs = .ok (text, rest) ↔
      ∃ written, Spelled IsRawInLiteral LiteralEscape written text ∧
        cs = written ++ '"' :: rest := by
  constructor
  · intro h
    fun_induction literalBody cs generalizing text with
    | case1 => cases h
    | case2 after =>
      cases h
      exact ⟨[], .nil, rfl⟩
    | case3 => cases h
    | case4 tail d after hd _ ih =>
      obtain ⟨text', htext, rfl⟩ := consRead_eq_ok_iff.mp h
      obtain ⟨written, hwritten, rfl⟩ := ih htext
      obtain ⟨e, he, rfl⟩ := literalEscape_eq_ok_iff.mp hd
      exact ⟨'\\' :: e ++ written, .escaped he hwritten, by simp⟩
    | case5 c tail hclose hescape ih =>
      obtain ⟨text', htext, rfl⟩ := consRead_eq_ok_iff.mp h
      obtain ⟨written, hwritten, rfl⟩ := ih htext
      exact ⟨c :: written, .raw ⟨hclose, hescape⟩ hwritten, rfl⟩
  · rintro ⟨written, h, rfl⟩
    induction h with
    | nil => rw [List.nil_append, literalBody, if_pos rfl]
    | raw hc _ ih =>
      rw [List.cons_append, literalBody, if_neg hc.1, if_neg hc.2, ih, consRead]
    | @escaped e c written text he _ ih =>
      have hread : literalEscape (e ++ (written ++ '"' :: rest)) =
          .ok (c, written ++ '"' :: rest) := literalEscape_eq_ok_iff.mpr ⟨e, he, rfl⟩
      rw [List.cons_append, List.cons_append, literalBody, if_neg (by decide), if_pos rfl,
        List.append_assoc]
      split
      · rename_i fault hfault
        rw [hread] at hfault
        cases hfault
      · rename_i d after hd
        rw [hread] at hd
        cases hd
        rw [ih, consRead]

/-! ## Terms -/

theorem expect_eq_ok_iff {wanted : Char} {cs rest : List Char} :
    expect wanted cs = .ok rest ↔ cs = wanted :: rest := by
  cases cs with
  | nil => simp [expect]
  | cons c cs =>
    by_cases hc : c = wanted
    · simp [expect, hc]
    · simp [expect, hc]

theorem iri_eq_ok_iff {cs rest : List Char} {i : Iri} :
    iri cs = .ok (i, rest) ↔
      ∃ written, Spelled IsRawInIri NumericEscape written i.toList ∧
        cs = '<' :: (written ++ '>' :: rest) := by
  unfold iri
  simp only [bind_eq_ok_iff, expect_eq_ok_iff, pure_eq_ok_iff, Prod.exists, iriBody_eq_ok_iff,
    Prod.mk.injEq]
  constructor
  · rintro ⟨after, rfl, text, rest', ⟨written, hwritten, rfl⟩, rfl, rfl⟩
    exact ⟨written, by rwa [String.toList_ofList], rfl⟩
  · rintro ⟨written, hwritten, rfl⟩
    exact ⟨_, rfl, i.toList, rest, ⟨written, hwritten, rfl⟩, String.ofList_toList, rfl⟩

/-- A text ends the label in front of it: it goes on with dots at most, and then with no
character of labels. -/
def EndsLabel (rest : List Char) : Prop :=
  ∃ dots after, rest = dots ++ after ∧ (∀ c ∈ dots, c = '.') ∧ StopsAt isLabelChar after

theorem endsLabel_of_stopsAt {rest : List Char} (h : StopsAt isLabelChar rest) : EndsLabel rest :=
  ⟨[], rest, rfl, nofun, h⟩

/-- A label is cut off where it was ended. -/
theorem labelOf_append {label rest : List Char} (hchars : ∀ c ∈ label, isLabelChar c = true)
    (hlast : ∀ c ∈ label.getLast?, (c == '.') = false) (hrest : EndsLabel rest) :
    labelOf (label ++ rest) = label := by
  obtain ⟨dots, after, rfl, hdots, hafter⟩ := hrest
  have hrun : ∀ c ∈ label ++ dots, isLabelChar c = true := by
    intro c hc
    rcases List.mem_append.mp hc with hc | hc
    · exact hchars c hc
    · rw [hdots c hc]
      decide
  rw [labelOf, ← List.append_assoc, takeWhile_run hrun hafter]
  exact dropTailWhile_run hlast fun c hc => by simp [hdots c hc]

/-- A blank node is read up to the end of its label, which is a run of label characters that
does not end in a dot. -/
theorem blankNode_eq_ok {cs rest : List Char} {label : String}
    (h : blankNode cs = .ok (label, rest)) :
    cs = '_' :: ':' :: (label.toList ++ rest) ∧ label.toList ≠ [] ∧
      (∀ c ∈ label.toList, isLabelChar c = true) ∧
      (∀ c ∈ label.toList.getLast?, (c == '.') = false) ∧ EndsLabel rest := by
  unfold blankNode at h
  simp only [bind_eq_ok_iff, expect_eq_ok_iff] at h
  obtain ⟨_, rfl, after, rfl, h⟩ := h
  split at h
  · cases h
  · rename_i hnonempty
    simp only [pure_eq_ok_iff, Prod.mk.injEq] at h
    obtain ⟨rfl, rfl⟩ := h
    rw [String.toList_ofList]
    have hlabel : labelOf after <+: after :=
      (dropTailWhile_isPrefix _ _).trans (List.takeWhile_prefix _)
    have hcut := List.prefix_iff_eq_append.mp hlabel
    refine ⟨by rw [hcut], by simpa using hnonempty, ?_, getLast?_dropTailWhile _ _, ?_⟩
    · intro c hc
      exact List.mem_takeWhile_imp ((dropTailWhile_isPrefix _ _).subset hc)
    · -- What the label leaves of the run are dots.
      obtain ⟨dots, hrun, hdots⟩ :=
        exists_dropTailWhile_append (· == '.') (after.takeWhile isLabelChar)
      refine ⟨dots, after.dropWhile isLabelChar, ?_, fun c hc => by simpa using hdots c hc,
        stopsAt_dropWhile isLabelChar after⟩
      rw [← List.append_right_inj (labelOf after), hcut, ← List.append_assoc, labelOf, ← hrun,
        List.takeWhile_append_dropWhile]

/-- A literal is a spelled value between quotes and what follows the closing one. -/
theorem literal_eq_ok_iff {cs rest : List Char} {l : Literal} :
    literal cs = .ok (l, rest) ↔
      ∃ written value after, Spelled IsRawInLiteral LiteralEscape written value ∧
        cs = '"' :: (written ++ '"' :: after) ∧
        literalSuffix (String.ofList value) after = .ok (l, rest) := by
  unfold literal
  simp only [bind_eq_ok_iff, expect_eq_ok_iff, Prod.exists, literalBody_eq_ok_iff]
  constructor
  · rintro ⟨_, rfl, value, after, ⟨written, hwritten, rfl⟩, hsuffix⟩
    exact ⟨written, value, after, hwritten, rfl, hsuffix⟩
  · rintro ⟨written, value, after, hwritten, rfl, hsuffix⟩
    exact ⟨_, rfl, value, after, ⟨written, hwritten, rfl⟩, hsuffix⟩

/-- What may follow the closing quote: a language, a datatype, or nothing of the literal. -/
theorem literalSuffix_eq_ok {value : String} {cs rest : List Char} {l : Literal}
    (h : literalSuffix value cs = .ok (l, rest)) :
    (∃ tag, l = .tagged value tag ∧ cs = '@' :: (tag.toList ++ rest) ∧ tag.toList ≠ [] ∧
        ∀ c ∈ tag.toList, isTagChar c = true) ∨
      (∃ datatype after, l = .typed value datatype ∧ cs = '^' :: '^' :: after ∧
        iri after = .ok (datatype, rest)) ∨
      l = .string value ∧ cs = rest := by
  unfold literalSuffix at h
  split at h
  · rename_i after
    simp only at h
    split at h
    · cases h
    · rename_i hnonempty
      simp only [Except.ok.injEq, Prod.mk.injEq] at h
      obtain ⟨rfl, rfl⟩ := h
      refine Or.inl ⟨_, rfl, ?_, ?_, ?_⟩
      · rw [String.toList_ofList, List.takeWhile_append_dropWhile]
      · rw [String.toList_ofList]
        simpa using hnonempty
      · rw [String.toList_ofList]
        exact fun c hc => List.mem_takeWhile_imp hc
  · simp only [bind_eq_ok_iff, expect_eq_ok_iff, Prod.exists, pure_eq_ok_iff,
      Prod.mk.injEq] at h
    obtain ⟨after, rfl, datatype, rest', hiri, rfl, rfl⟩ := h
    exact Or.inr (Or.inl ⟨datatype, after, rfl, rfl, hiri⟩)
  · cases h
    exact Or.inr (Or.inr ⟨rfl, rfl⟩)

/-- A term is an IRI, a blank node or a literal. -/
theorem term_eq_ok_iff {cs rest : List Char} {t : Term} :
    term cs = .ok (t, rest) ↔
      (∃ i, t = .iri i ∧ iri cs = .ok (i, rest)) ∨
        (∃ label, t = .blank label ∧ blankNode cs = .ok (label, rest)) ∨
        ∃ l, t = .literal l ∧ literal cs = .ok (l, rest) := by
  constructor
  · intro h
    unfold term at h
    split at h
    · cases h
    · split at h
      · simp only [bind_eq_ok_iff, Prod.exists, pure_eq_ok_iff, Prod.mk.injEq] at h
        obtain ⟨i, _, hi, rfl, rfl⟩ := h
        exact Or.inl ⟨i, rfl, hi⟩
      · split at h
        · simp only [bind_eq_ok_iff, Prod.exists, pure_eq_ok_iff, Prod.mk.injEq] at h
          obtain ⟨label, _, hlabel, rfl, rfl⟩ := h
          exact Or.inr (Or.inl ⟨label, rfl, hlabel⟩)
        · split at h
          · simp only [bind_eq_ok_iff, Prod.exists, pure_eq_ok_iff, Prod.mk.injEq] at h
            obtain ⟨l, _, hl, rfl, rfl⟩ := h
            exact Or.inr (Or.inr ⟨l, rfl, hl⟩)
          · cases h
  · rintro (⟨i, rfl, h⟩ | ⟨label, rfl, h⟩ | ⟨l, rfl, h⟩)
    · obtain ⟨written, -, rfl⟩ := iri_eq_ok_iff.mp h
      rw [term, if_pos rfl, h, ok_bind]
      rfl
    · obtain ⟨rfl, -⟩ := blankNode_eq_ok h
      rw [term, if_neg (by decide), if_pos rfl, h, ok_bind]
      rfl
    · obtain ⟨written, value, after, -, rfl, -⟩ := literal_eq_ok_iff.mp h
      rw [term, if_neg (by decide), if_neg (by decide), if_pos rfl, h, ok_bind]
      rfl

theorem node_eq_ok_iff {fault : Fault} {cs rest : List Char} {n : Node} :
    node fault cs = .ok (n, rest) ↔ term cs = .ok (.node n, rest) := by
  unfold node
  rw [bind_eq_ok_iff]
  constructor
  · rintro ⟨⟨t, after⟩, ht, h⟩
    cases t with
    | node n' =>
      cases h
      exact ht
    | literal l => cases h
  · intro h
    exact ⟨_, h, rfl⟩

end LinkedData.NQuads
