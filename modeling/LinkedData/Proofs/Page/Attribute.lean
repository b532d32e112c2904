import LinkedData.Page.Base
import LinkedData.Proofs.Page.Tag

/-!
# LinkedData.Proofs.Page.Attribute -- what the search for a base reads in an attribute

The search does not read attributes. It takes the last place of a tag where the word `href`
stands at the beginning of a word, with an equals sign and a quote behind it. A hyphen begins a
word, so that the name of another attribute may end in such a place, and a value may hold one or
end in one. In all other attributes the name `href` is the only place.
-/

namespace LinkedData.Page

open LinkedData.Text

/-! ## Places where an attribute is read -/

theorem quoted?_eq_some_iff {cs value : List Char} :
    quoted? cs = some value ↔
      ∃ q q' rest, cs = q :: (value ++ q' :: rest) ∧ isQuote q = true ∧ isQuote q' = true ∧
        value ≠ [] ∧ ∀ c ∈ value, isQuote c = false := by
  cases cs with
  | nil => simp [quoted?]
  | cons q cs =>
    constructor
    · intro h
      simp only [quoted?, Option.ite_none_right_eq_some, Bool.and_eq_true, Bool.not_eq_true',
        decide_eq_true_eq, Option.some.injEq] at h
      obtain ⟨⟨⟨hq, hne⟩, hlength⟩, rfl⟩ := h
      have hsplit := List.takeWhile_append_dropWhile (p := (!isQuote ·)) (l := cs)
      cases hrest : cs.dropWhile (!isQuote ·) with
      | nil =>
        rw [hrest, List.append_nil] at hsplit
        rw [hsplit] at hlength
        exact absurd hlength (Nat.lt_irrefl _)
      | cons q' rest =>
        have hq' := stopsAt_dropWhile (!isQuote ·) cs q' (by rw [hrest]; rfl)
        refine ⟨q, q', rest, by rw [← hrest, hsplit], hq, by simpa using hq', ?_, ?_⟩
        · simpa [List.isEmpty_eq_false_iff] using hne
        · intro c hc
          simpa using List.mem_takeWhile_imp hc
    · rintro ⟨_, q', rest, heq, hq, hq', hne, hvalue⟩
      cases heq
      have htake : (value ++ q' :: rest).takeWhile (!isQuote ·) = value :=
        takeWhile_run (fun c hc => by simp [hvalue c hc]) (stopsAt_cons.mpr (by simp [hq']))
      simp [quoted?, htake, hq, hne]

/-- A place where the search reads an attribute with a value. -/
theorem href?_eq_some_iff {cs value : List Char} :
    href? cs = some value ↔
      ∃ word gap gap' q q' rest,
        cs = word ++ (gap ++ '=' :: (gap' ++ q :: (value ++ q' :: rest))) ∧
        Spells "href" word ∧ (∀ c ∈ gap, isBlank c = true) ∧ (∀ c ∈ gap', isBlank c = true) ∧
        isQuote q = true ∧ isQuote q' = true ∧ value ≠ [] ∧ ∀ c ∈ value, isQuote c = false := by
  rw [href?, Option.bind_eq_some_iff]
  constructor
  · rintro ⟨quoted, hattribute, hquoted⟩
    obtain ⟨word, gap, gap', rfl, hword, hgap, hgap', -⟩ := attribute?_eq_some_iff.mp hattribute
    obtain ⟨q, q', rest, rfl, hq, hq', hne, hvalue⟩ := quoted?_eq_some_iff.mp hquoted
    exact ⟨word, gap, gap', q, q', rest, rfl, hword, hgap, hgap', hq, hq', hne, hvalue⟩
  · rintro ⟨word, gap, gap', q, q', rest, rfl, hword, hgap, hgap', hq, hq', hne, hvalue⟩
    exact ⟨_, attribute?_eq_some_iff.mpr ⟨word, gap, gap', rfl, hword, hgap, hgap',
      stopsAt_cons.mpr (isBlank_of_isQuote hq)⟩,
      quoted?_eq_some_iff.mpr ⟨q, q', rest, rfl, hq, hq', hne, hvalue⟩⟩

/-- A value begins behind a quote and goes on to the next one, wherever that stands. -/
theorem exists_quoted {q c q' : Char} {rest : List Char} (hq : isQuote q = true)
    (hc : isQuote c = false) (hq' : isQuote q' = true) (hmem : q' ∈ rest) :
    ∃ value, quoted? (q :: c :: rest) = some value := by
  obtain ⟨d, hfind⟩ := Option.isSome_iff_exists.mp (List.find?_isSome.mpr ⟨q', hmem, hq'⟩)
  obtain ⟨hd, front, beyond, rfl, hfront⟩ := List.find?_eq_some_iff_append.mp hfind
  refine ⟨c :: front, quoted?_eq_some_iff.mpr
    ⟨q, d, beyond, rfl, hq, hd, List.cons_ne_nil c front, ?_⟩⟩
  intro e he
  rcases List.mem_cons.mp he with rfl | he
  · exact hc
  · simpa using hfront e he

/-- The last character of a text that has another one in front of it. -/
def lastFrom (before : Char) (cs : List Char) : Char :=
  cs.foldl (fun _ c => c) before

@[simp] theorem lastFrom_concat (before : Char) (cs : List Char) (c : Char) :
    lastFrom before (cs ++ [c]) = c := by
  simp [lastFrom]

theorem lastHref?_cons {before c : Char} {cs : List Char} (hc : c ≠ '>') :
    lastHref? before (c :: cs) =
      (lastHref? c cs).or (if isWord before then none else href? (c :: cs)) := by
  rw [lastHref?, if_neg hc]
  cases lastHref? c cs <;> rfl

/-- What is read in a later part of a tag is read whatever stands in front of that part. -/
theorem lastHref?_keep {before : Char} {front rest value : List Char} (hfront : '>' ∉ front)
    (h : lastHref? (lastFrom before front) rest = some value) :
    lastHref? before (front ++ rest) = some value := by
  induction front generalizing before with
  | nil => exact h
  | cons c front ih =>
    obtain ⟨hc, hfront⟩ := not_or.mp (mt List.mem_cons.mpr hfront)
    rw [List.cons_append, lastHref?_cons (Ne.symm hc), ih hfront h]
    rfl

/-- A part of a tag without such a place may be left out. -/
theorem lastHref?_skip {before : Char} {front rest : List Char} (hfront : '>' ∉ front)
    (hplaces : ∀ front' c tail, front = front' ++ c :: tail →
      isWord (lastFrom before front') = false → href? (c :: (tail ++ rest)) = none) :
    lastHref? before (front ++ rest) = lastHref? (lastFrom before front) rest := by
  induction front generalizing before with
  | nil => rfl
  | cons c front ih =>
    obtain ⟨hc, hfront⟩ := not_or.mp (mt List.mem_cons.mpr hfront)
    have hrest : lastHref? c (front ++ rest) = lastHref? (lastFrom c front) rest := by
      apply ih hfront
      rintro front' d tail rfl
      exact hplaces (c :: front') d tail rfl
    have hhere : (if isWord before then none else href? (c :: (front ++ rest))) = none := by
      cases hword : isWord before with
      | true => rfl
      | false => exact hplaces [] c front rfl hword
    rw [List.cons_append, lastHref?_cons (Ne.symm hc), hrest, hhere, Option.or_none]
    rfl

theorem lastHref?_close (before : Char) (rest : List Char) :
    lastHref? before ('>' :: rest) = none := by
  rw [lastHref?, if_pos rfl]

theorem lastHref?_later {before : Char} {front rest : List Char} (hfront : '>' ∉ front)
    (h : lastHref? before (front ++ rest) = none) :
    lastHref? (lastFrom before front) rest = none := by
  rw [Option.eq_none_iff_forall_ne_some]
  intro value hvalue
  rw [lastHref?_keep hfront hvalue] at h
  cases h

/-- Behind a letter nothing is read that is not read behind another character. -/
theorem lastHref?_behind {before letter : Char} {cs : List Char} (hletter : isWord letter = true)
    (h : lastHref? before cs = none) : lastHref? letter cs = none := by
  cases cs with
  | nil => rfl
  | cons c cs =>
    by_cases hc : c = '>'
    · rw [hc]
      exact lastHref?_close letter cs
    · rw [lastHref?_cons hc, Option.or_eq_none_iff] at h ⊢
      exact ⟨h.1, by rw [hletter]; rfl⟩

/-- Whatever stands in front of an attribute with a value, something is read. -/
theorem lastHref?_ne_none {before q c q' : Char} {front word gap gap' rest : List Char}
    (hfront : '>' ∉ front) (hplace : isWord (lastFrom before front) = false)
    (hword : Spells "href" word) (hgap : ∀ c ∈ gap, isBlank c = true)
    (hgap' : ∀ c ∈ gap', isBlank c = true) (hq : isQuote q = true) (hc : isQuote c = false)
    (hq' : isQuote q' = true) (hmem : q' ∈ rest) :
    lastHref? before (front ++ (word ++ (gap ++ '=' :: (gap' ++ q :: c :: rest)))) ≠ none := by
  obtain ⟨value, hquoted⟩ := exists_quoted hq hc hq' hmem
  have hread : href? (word ++ (gap ++ '=' :: (gap' ++ q :: c :: rest))) = some value := by
    rw [href?, attribute?_eq_some_iff.mpr ⟨word, gap, gap', rfl, hword, hgap, hgap',
      stopsAt_cons.mpr (isBlank_of_isQuote hq)⟩]
    exact hquoted
  intro hnone
  have hlater := lastHref?_later hfront hnone
  cases word with
  | nil => cases hword
  | cons letter word =>
    have hletter : letter ≠ '>' := by
      rintro rfl
      exact absurd (List.cons.inj hword).1 (by decide)
    rw [List.cons_append] at hlater hread
    rw [lastHref?_cons hletter, hplace, Option.or_eq_none_iff] at hlater
    rw [hread] at hlater
    cases hlater.2

/-! ## Attributes -/

/-- An attribute of a tag, with the white space in front of it. -/
structure Attribute where
  gap : List Char
  name : List Char
  quote : Char
  value : List Char
  gap_ne_nil : gap ≠ []
  gap_blank : ∀ c ∈ gap, isBlank c = true
  name_ne_nil : name ≠ []
  name_chars : ∀ c ∈ name, c.isAlpha = true ∨ c = '-'
  isQuote_quote : isQuote quote = true
  value_ne_nil : value ≠ []
  quote_not_mem : quote ∉ value
  close_not_mem : '>' ∉ value

namespace Attribute

/-- The attribute as it stands in its tag. -/
def text (a : Attribute) : List Char :=
  a.gap ++ (a.name ++ '=' :: a.quote :: (a.value ++ [a.quote]))

/-- The attribute that names the base, in any letter case. -/
def IsHref (a : Attribute) : Prop :=
  Spells "href" a.name

instance (a : Attribute) : Decidable a.IsHref :=
  inferInstanceAs (Decidable (Spells _ _))

/-- An attribute that holds a place where the search reads an attribute that is not there;
`following` is what follows it in the page. -/
inductive Misleads (a : Attribute) (following : List Char) : Prop
  /-- Its name ends in the word, behind a hyphen. -/
  | name {front word : List Char} :
      a.name = front ++ '-' :: word → Spells "href" word →
      (∀ c ∈ a.value.head?, isQuote c = false) → Misleads a following
  /-- Its value holds an attribute with quotes of the other kind. -/
  | inside {front word gap gap' rest : List Char} {q c : Char} :
      a.value = front ++ (word ++ (gap ++ '=' :: (gap' ++ q :: c :: rest))) →
      (∀ c ∈ front.getLast?, isWord c = false) → Spells "href" word →
      (∀ c ∈ gap, isBlank c = true) → (∀ c ∈ gap', isBlank c = true) →
      isQuote q = true → isQuote c = false → Misleads a following
  /-- Its value ends in an attribute that has no value, so that the quote that closes it seems
  to open one, which goes on to the next quote. -/
  | ending {front word gap gap' : List Char} {q : Char} :
      a.value = front ++ (word ++ (gap ++ '=' :: gap')) →
      (∀ c ∈ front.getLast?, isWord c = false) → Spells "href" word →
      (∀ c ∈ gap, isBlank c = true) → (∀ c ∈ gap', isBlank c = true) →
      q ∈ following → isQuote q = true → Misleads a following

end Attribute

/-- Two parts of a text, and a character in it: it stands in one of the parts. -/
theorem append_eq_append_cons {xs ys front tail : List Char} {c : Char}
    (h : xs ++ ys = front ++ c :: tail) :
    (∃ rest, xs = front ++ c :: rest ∧ tail = rest ++ ys) ∨
      ∃ front', front = xs ++ front' ∧ ys = front' ++ c :: tail := by
  rcases List.append_eq_append_iff.mp h with ⟨front', hfront, hys⟩ | ⟨rest, hxs, htail⟩
  · exact Or.inr ⟨front', hfront, hys⟩
  · cases rest with
    | nil => exact Or.inr ⟨[], by simpa using hxs.symm, by simpa using htail.symm⟩
    | cons d rest =>
      obtain ⟨rfl, rfl⟩ := List.cons.inj htail
      exact Or.inl ⟨rest, hxs, rfl⟩

/-- Texts are equal up to the first occurrence of a character and behind it. -/
theorem eq_of_append_cons {xs xs' ys ys' : List Char} {c : Char} (hxs : c ∉ xs) (hxs' : c ∉ xs')
    (h : xs ++ c :: ys = xs' ++ c :: ys') : xs = xs' ∧ ys = ys' := by
  have hfront := congrArg (List.takeWhile (· != c)) h
  rw [takeWhile_until hxs, takeWhile_until hxs'] at hfront
  refine ⟨hfront, ?_⟩
  rw [hfront] at h
  exact (List.cons.inj (List.append_cancel_left h)).2

theorem isWord_of_isAlpha {c : Char} (h : c.isAlpha = true) : isWord c = true := by
  have hall : ∀ n < 128, (Char.ofNat n).isAlpha = true → isWord (Char.ofNat n) = true := by
    decide +kernel
  have hlow : c.toNat < 128 := by
    rcases Bool.or_eq_true_iff.mp h with h | h
    · have hlast : c.val ≤ 'Z'.val := (of_decide_eq_true h).2
      exact Nat.lt_of_le_of_lt (UInt32.le_iff_toNat_le.mp hlast) (by decide)
    · have hbounds : (decide ('a'.val ≤ c.val) && decide (c.val ≤ 'z'.val)) = true := h
      have hlast := of_decide_eq_true (Bool.and_eq_true_iff.mp hbounds).2
      exact Nat.lt_of_le_of_lt (UInt32.le_iff_toNat_le.mp hlast) (by decide)
  have hword := hall c.toNat hlow
  rw [Char.ofNat_toNat] at hword
  exact hword h

/-- The word at a place begins with a letter, which is neither white space nor a sign. -/
theorem first_of_href? {c : Char} {cs value : List Char} (h : href? (c :: cs) = some value) :
    fold c = 'h' := by
  obtain ⟨word, gap, gap', q, q', rest, htext, hword, -⟩ := href?_eq_some_iff.mp h
  cases word with
  | nil => cases hword
  | cons d word =>
    obtain ⟨rfl, -⟩ := List.cons.inj htext
    exact (List.cons.inj hword).1

/-- White space that begins with something else is empty. -/
theorem eq_nil_of_head? {gap : List Char} (hgap : ∀ c ∈ gap, isBlank c = true)
    (hhead : ∀ c ∈ gap.head?, isBlank c = false) : gap = [] := by
  cases gap with
  | nil => rfl
  | cons c gap =>
    have hblank := hgap c (by simp)
    rw [hhead c rfl] at hblank
    cases hblank

theorem equals_not_mem_lead {word gap : List Char} (hword : Spells "href" word)
    (hgap : ∀ c ∈ gap, isBlank c = true) : '=' ∉ word ++ gap := by
  intro hmem
  rcases List.mem_append.mp hmem with hmem | hmem
  · have hfold : '=' ∈ "href".toList := hword ▸ List.mem_map.mpr ⟨'=', hmem, rfl⟩
    exact absurd hfold (by decide)
  · exact absurd (hgap '=' hmem) (by decide)

/-- No quote stands in front of the one that opens the value. -/
theorem isQuote_of_mem_lead {word gap gap' : List Char} (hword : Spells "href" word)
    (hgap : ∀ c ∈ gap, isBlank c = true) (hgap' : ∀ c ∈ gap', isBlank c = true) {c : Char}
    (hc : c ∈ word ++ (gap ++ '=' :: gap')) : isQuote c = false := by
  have hblank : ∀ d, isBlank d = true → isQuote d = false := by
    intro d hd
    rw [Bool.eq_false_iff]
    intro hquote
    rw [isBlank_of_isQuote hquote] at hd
    cases hd
  simp only [List.mem_append, List.mem_cons] at hc
  rcases hc with hc | hc | rfl | hc
  · have hletters : ∀ e ∈ "href".toList, isQuote e = false :=
      forall_mem_of_all (by decide)
    exact apart_of_fold fold_quote rfl (hletters _ (hword ▸ List.mem_map_of_mem hc))
  · exact hblank c (hgap c hc)
  · rfl
  · exact hblank c (hgap' c hc)

namespace Attribute

variable {a : Attribute} {following front tail value : List Char} {c : Char}

theorem isBlank_of_mem_name (h : c ∈ a.name) : isBlank c = false := by
  rw [Bool.eq_false_iff]
  intro hblank
  have hall : ∀ c ∈ blanks, ¬ (c.isAlpha = true ∨ c = '-') :=
    forall_mem_of_all (by decide +kernel)
  exact hall c (mem_blanks hblank) (a.name_chars c h)

theorem equals_not_mem_name (a : Attribute) : '=' ∉ a.name := by
  intro h
  exact absurd (a.name_chars '=' h) (by decide)

/-- A place inside the name is the end of the name, and the value is read up to a quote. -/
theorem spells_of_place_in_name (hname : a.name = front ++ c :: tail)
    (h : href? (c :: (tail ++ '=' :: a.quote :: (a.value ++ a.quote :: following))) = some value) :
    Spells "href" (c :: tail) ∧ ∀ d ∈ a.value.head?, isQuote d = false := by
  obtain ⟨word, gap, gap', q, q', rest, htext, hword, hgap, hgap', -, -, hne, hvalue⟩ :=
    href?_eq_some_iff.mp h
  have hmem : ∀ d ∈ c :: tail, d ∈ a.name := by
    intro d hd
    rw [hname]
    exact List.mem_append_right front hd
  have hequals : '=' ∉ c :: tail := mt (hmem '=') a.equals_not_mem_name
  -- Up to the first equals sign both texts are the same, and there is no room for white space.
  have htext' : (c :: tail) ++ '=' :: (a.quote :: (a.value ++ a.quote :: following)) =
      (word ++ gap) ++ '=' :: (gap' ++ q :: (value ++ q' :: rest)) := by
    simpa using htext
  obtain ⟨hleft, hright⟩ := eq_of_append_cons hequals (equals_not_mem_lead hword hgap) htext'
  obtain rfl : gap = [] := by
    apply eq_nil_of_head? hgap
    intro d hd
    have hd' : d ∈ word ++ gap := List.mem_append_right word (List.mem_of_mem_head? hd)
    exact isBlank_of_mem_name (hmem d (hleft ▸ hd'))
  obtain rfl : gap' = [] := by
    apply eq_nil_of_head? hgap'
    intro d hd
    obtain ⟨gap', rfl⟩ := List.head?_eq_some_iff.mp hd
    rw [← (List.cons.inj hright).1]
    exact isBlank_of_isQuote a.isQuote_quote
  rw [List.append_nil] at hleft
  refine ⟨hleft ▸ hword, ?_⟩
  intro d hd
  obtain ⟨tail', htail'⟩ := List.head?_eq_some_iff.mp hd
  obtain ⟨e, value, rfl⟩ := List.exists_cons_of_ne_nil hne
  have hvalues := (List.cons.inj hright).2
  rw [htail'] at hvalues
  have hde : d = e := (List.cons.inj hvalues).1
  exact hde ▸ hvalue e (by simp)

/-- A place inside the value is an attribute with quotes of the other kind, or it ends in the
quote that closes the value. -/
theorem misleads_of_place_in_value (hinside : a.value = front ++ c :: tail)
    (hfront : ∀ d ∈ front.getLast?, isWord d = false)
    (h : href? (c :: (tail ++ a.quote :: following)) = some value) : a.Misleads following := by
  obtain ⟨word, gap, gap', q, q', rest, htext, hword, hgap, hgap', hq, hq', hne, hvalue⟩ :=
    href?_eq_some_iff.mp h
  have htext' : (c :: tail) ++ a.quote :: following =
      (word ++ (gap ++ '=' :: gap')) ++ q :: (value ++ q' :: rest) := by
    simpa using htext
  rcases append_eq_append_cons htext' with ⟨behind, hleft, hright⟩ | ⟨behind, hleft, hright⟩
  · -- The quote that opens stands in the value, so it is of the other kind.
    obtain ⟨d, value, rfl⟩ := List.exists_cons_of_ne_nil hne
    cases behind with
    | nil =>
      have hd : d = a.quote := (List.cons.inj hright).1
      have hplain := hvalue d (by simp)
      rw [hd, a.isQuote_quote] at hplain
      cases hplain
    | cons e behind =>
      have hde : d = e := (List.cons.inj hright).1
      have hplain : isQuote e = false := hde ▸ hvalue d (by simp)
      have hsplit : a.value = front ++ (word ++ (gap ++ '=' :: (gap' ++ q :: e :: behind))) := by
        rw [hinside, hleft]
        simp
      exact .inside hsplit hfront hword hgap hgap' hq hplain
  · cases behind with
    | nil =>
      have hfollowing : following = value ++ q' :: rest := (List.cons.inj hright).2
      refine .ending (q := q') ?_ hfront hword hgap hgap' (by rw [hfollowing]; simp) hq'
      rw [hinside, ← List.append_nil (c :: tail), ← hleft]
    | cons e behind =>
      -- The quote that closes the value is none of the signs in front of the one that opens.
      have he : a.quote = e := (List.cons.inj hright).1
      have hmem : a.quote ∈ word ++ (gap ++ '=' :: gap') := by
        rw [hleft, he]
        simp
      have hplain := isQuote_of_mem_lead hword hgap hgap' hmem
      rw [a.isQuote_quote] at hplain
      cases hplain

/-- A character that is no sign and no white space stands in the name or in the value. -/
theorem name_or_value (htext : a.text = front ++ c :: tail) (hblank : isBlank c = false)
    (hequals : c ≠ '=') (hquote : c ≠ a.quote) :
    (∃ inName rest, front = a.gap ++ inName ∧ a.name = inName ++ c :: rest ∧
      tail = rest ++ '=' :: a.quote :: (a.value ++ [a.quote])) ∨
    ∃ inValue rest, front = a.gap ++ (a.name ++ '=' :: a.quote :: inValue) ∧
      a.value = inValue ++ c :: rest ∧ tail = rest ++ [a.quote] := by
  rcases append_eq_append_cons htext with ⟨rest, hgap, -⟩ | ⟨inName, rfl, hname⟩
  · rw [a.gap_blank c (by rw [hgap]; simp)] at hblank
    cases hblank
  rcases append_eq_append_cons hname with ⟨rest, hinName, rfl⟩ | ⟨behind, rfl, hbehind⟩
  · exact Or.inl ⟨inName, rest, rfl, hinName, rfl⟩
  · match behind, hbehind with
    | [], hbehind => exact absurd (List.cons.inj hbehind).1.symm hequals
    | [_], hbehind =>
      obtain ⟨-, hbehind⟩ := List.cons.inj hbehind
      exact absurd (List.cons.inj hbehind).1.symm hquote
    | d :: e :: inValue, hbehind =>
      obtain ⟨hd, hbehind⟩ := List.cons.inj hbehind
      obtain ⟨he, hbehind⟩ := List.cons.inj hbehind
      rcases append_eq_append_cons hbehind with ⟨rest, hvalue, rfl⟩ | ⟨beyond, -, hbeyond⟩
      · exact Or.inr ⟨inValue, rest, by rw [hd, he], hvalue, rfl⟩
      · cases beyond with
        | nil => exact absurd (List.cons.inj hbeyond).1.symm hquote
        | cons f beyond => simp at hbeyond

/-- Inside the name a word begins at the front and behind a hyphen. -/
theorem nil_or_hyphen {before : Char} {inName rest : List Char}
    (hname : a.name = inName ++ c :: rest)
    (hfront : isWord (lastFrom before (a.gap ++ inName)) = false) :
    inName = [] ∨ ∃ init, inName = init ++ ['-'] := by
  rcases List.eq_nil_or_concat inName with rfl | ⟨init, last, rfl⟩
  · exact Or.inl rfl
  · rw [List.concat_eq_append] at hname hfront ⊢
    rw [← List.append_assoc, lastFrom_concat] at hfront
    rcases a.name_chars last (by rw [hname]; simp) with hletter | rfl
    · rw [isWord_of_isAlpha hletter] at hfront
      cases hfront
    · exact Or.inr ⟨init, rfl⟩

/-- In the value a word begins behind the quote, or where one begins in the value itself. -/
theorem isWord_in_value (before : Char) :
    isWord (lastFrom before (a.gap ++ (a.name ++ '=' :: a.quote :: front))) = false ↔
      ∀ c ∈ front.getLast?, isWord c = false := by
  rcases List.eq_nil_or_concat front with rfl | ⟨init, last, rfl⟩
  · have htext : a.gap ++ (a.name ++ ['=', a.quote]) =
        (a.gap ++ (a.name ++ ['='])) ++ [a.quote] := by simp
    rw [htext, lastFrom_concat]
    exact iff_of_true (isWord_of_isQuote a.isQuote_quote) (by simp)
  · have htext : a.gap ++ (a.name ++ '=' :: a.quote :: (init ++ [last])) =
        (a.gap ++ (a.name ++ '=' :: a.quote :: init)) ++ [last] := by simp
    rw [List.concat_eq_append, htext, lastFrom_concat]
    simp

/-- A place in an attribute is the beginning of the name `href`, or it misleads. -/
theorem isHref_or_misleads {before : Char} (htext : a.text = front ++ c :: tail)
    (hfront : isWord (lastFrom before front) = false)
    (h : href? (c :: (tail ++ following)) = some value) :
    (a.IsHref ∧ front = a.gap) ∨ a.Misleads following := by
  have hfold := first_of_href? h
  have hblank : isBlank c = false := apart_of_fold fold_blank hfold (by decide)
  have hequals : c ≠ '=' := by
    rintro rfl
    exact absurd hfold (by decide)
  have hquote : c ≠ a.quote := by
    rintro rfl
    have hplain : isQuote a.quote = false := apart_of_fold fold_quote hfold (by decide)
    rw [a.isQuote_quote] at hplain
    cases hplain
  rcases name_or_value htext hblank hequals hquote with
    ⟨inName, rest, rfl, hname, rfl⟩ | ⟨inValue, rest, rfl, hvalue, rfl⟩
  · obtain ⟨hspells, hhead⟩ := spells_of_place_in_name hname (by simpa using h)
    rcases nil_or_hyphen hname hfront with rfl | ⟨init, rfl⟩
    · refine Or.inl ⟨?_, List.append_nil _⟩
      rw [IsHref, hname]
      exact hspells
    · have hsplit : a.name = init ++ '-' :: c :: rest := by
        rw [hname]
        simp
      exact Or.inr (.name hsplit hspells hhead)
  · have hlast := (isWord_in_value before).mp hfront
    exact Or.inr (misleads_of_place_in_value hvalue hlast (by simpa using h))

/-- An attribute ends with its quote. -/
theorem lastFrom_text (a : Attribute) (before : Char) : lastFrom before a.text = a.quote := by
  have htext : a.text = (a.gap ++ (a.name ++ '=' :: a.quote :: a.value)) ++ [a.quote] := by
    simp [text]
  rw [htext, lastFrom_concat]

theorem close_not_mem_text (a : Attribute) : '>' ∉ a.text := by
  intro h
  simp only [text, List.mem_append, List.mem_cons, List.not_mem_nil, or_false] at h
  have hquote : '>' ≠ a.quote := by
    intro heq
    have hplain : isQuote '>' = true := heq ▸ a.isQuote_quote
    cases hplain
  rcases h with h | h | h | h | h | h
  · exact absurd (a.gap_blank '>' h) (by decide)
  · exact absurd (a.name_chars '>' h) (by decide)
  · exact absurd h (by decide)
  · exact hquote h
  · exact a.close_not_mem h
  · exact hquote h

/-- Nothing is read in an attribute that neither is `href` nor misleads. -/
theorem lastHref?_pass (before : Char) (hhref : ¬ a.IsHref) (hmisleads : ¬ a.Misleads following) :
    lastHref? before (a.text ++ following) = lastHref? a.quote following := by
  rw [lastHref?_skip a.close_not_mem_text, lastFrom_text]
  intro front c tail htext hfront
  rw [Option.eq_none_iff_forall_ne_some]
  intro value hvalue
  rcases isHref_or_misleads htext hfront hvalue with ⟨h, -⟩ | h
  · exact hhref h
  · exact hmisleads h

/-- The value of `href` is read when nothing is read behind it. -/
theorem lastHref?_href (before : Char) (hhref : a.IsHref) (hmisleads : ¬ a.Misleads following)
    (hvalue : ∀ c ∈ a.value, isQuote c = false) (hnone : lastHref? a.quote following = none) :
    lastHref? before (a.text ++ following) = some a.value := by
  obtain ⟨letter, name, hname⟩ := List.exists_cons_of_ne_nil a.name_ne_nil
  obtain ⟨tail, htext⟩ : ∃ tail, a.text = a.gap ++ letter :: tail :=
    ⟨_, by rw [text, hname, List.cons_append]⟩
  have hclose := a.close_not_mem_text
  simp only [htext, List.mem_append, List.mem_cons, not_or] at hclose
  obtain ⟨hgap, hletter, htail⟩ := hclose
  have hhere : href? (letter :: (tail ++ following)) = some a.value := by
    refine href?_eq_some_iff.mpr ⟨a.name, [], [], a.quote, a.quote, following, ?_, hhref,
      List.forall_mem_nil _, List.forall_mem_nil _, a.isQuote_quote, a.isQuote_quote,
      a.value_ne_nil, hvalue⟩
    rw [text] at htext
    rw [← List.cons_append, ← List.append_cancel_left htext]
    simp
  -- Behind the first letter of its name the attribute has no place where anything is read.
  have hlater : lastHref? letter (tail ++ following) = none := by
    have hlast : lastFrom letter tail = a.quote := by
      rw [← a.lastFrom_text before, htext, lastFrom, lastFrom, List.foldl_append, List.foldl_cons]
    rw [lastHref?_skip htail, hlast, hnone]
    intro front c rest hplace hfront
    rw [Option.eq_none_iff_forall_ne_some]
    intro value hread
    have hplace' : a.text = (a.gap ++ letter :: front) ++ c :: rest := by simp [htext, hplace]
    have hfront' : isWord (lastFrom before (a.gap ++ letter :: front)) = false := by
      rw [lastFrom, List.foldl_append, List.foldl_cons]
      exact hfront
    rcases isHref_or_misleads hplace' hfront' hread with ⟨-, hsame⟩ | h
    · simp at hsame
    · exact hmisleads h
  have hbefore : isWord (lastFrom before a.gap) = false := by
    rcases List.eq_nil_or_concat a.gap with h | ⟨init, last, h⟩
    · exact absurd h a.gap_ne_nil
    · rw [h, List.concat_eq_append, lastFrom_concat]
      exact isWord_blank (a.gap_blank last (by rw [h]; simp))
  rw [htext, List.append_assoc]
  apply lastHref?_keep hgap
  rw [List.cons_append, lastHref?_cons (Ne.symm hletter), hlater, hbefore]
  exact hhere

/-- Something is read in an attribute that misleads. -/
theorem Misleads.lastHref?_ne_none (h : a.Misleads following) (before : Char)
    (hfollowing : ∀ c ∈ following.head?, isQuote c = false) :
    lastHref? before (a.text ++ following) ≠ none := by
  have hclose {front rest : List Char} (htext : a.text = front ++ rest) : '>' ∉ front := by
    intro hmem
    exact a.close_not_mem_text (by rw [htext]; exact List.mem_append_left rest hmem)
  cases h with
  | @name front word hname hword hvalue =>
    obtain ⟨c, value, hcons⟩ := List.exists_cons_of_ne_nil a.value_ne_nil
    have htext : a.text ++ following = (a.gap ++ front ++ ['-']) ++
        (word ++ ([] ++ '=' :: ([] ++ a.quote :: c :: (value ++ a.quote :: following)))) := by
      simp [text, hname, hcons]
    have hfront : a.text = (a.gap ++ front ++ ['-']) ++
        (word ++ '=' :: a.quote :: (a.value ++ [a.quote])) := by
      simp [text, hname]
    have hhyphen : isWord (lastFrom before (a.gap ++ front ++ ['-'])) = false := by
      rw [lastFrom_concat]
      decide
    rw [htext]
    exact Page.lastHref?_ne_none (hclose hfront) hhyphen hword (by simp) (by simp)
      a.isQuote_quote (hvalue c (by rw [hcons]; rfl)) a.isQuote_quote (by simp)
  | @inside front word gap gap' rest q c hvalue hfront hword hgap hgap' hq hc =>
    have htext : a.text ++ following = (a.gap ++ (a.name ++ '=' :: a.quote :: front)) ++
        (word ++ (gap ++ '=' :: (gap' ++ q :: c :: (rest ++ a.quote :: following)))) := by
      simp [text, hvalue]
    rw [htext]
    exact Page.lastHref?_ne_none (hclose (by simp [text, hvalue]; rfl))
      ((isWord_in_value before).mpr hfront) hword hgap hgap' hq hc a.isQuote_quote (by simp)
  | @ending front word gap gap' q hvalue hfront hword hgap hgap' hmem hq =>
    obtain ⟨c, rest, rfl⟩ := List.exists_cons_of_ne_nil (List.ne_nil_of_mem hmem)
    have hc : isQuote c = false := hfollowing c rfl
    have hrest : q ∈ rest := by
      rcases List.mem_cons.mp hmem with rfl | hrest
      · rw [hq] at hc
        cases hc
      · exact hrest
    have htext : a.text ++ c :: rest = (a.gap ++ (a.name ++ '=' :: a.quote :: front)) ++
        (word ++ (gap ++ '=' :: (gap' ++ a.quote :: c :: rest))) := by
      simp [text, hvalue]
    rw [htext]
    exact Page.lastHref?_ne_none (hclose (by simp [text, hvalue]; rfl))
      ((isWord_in_value before).mpr hfront) hword hgap hgap' a.isQuote_quote hc hq hrest

/-- An attribute does not mislead when its name has no hyphen and its value has no quote of the
other kind and does not end in an equals sign. -/
theorem not_misleads (hname : '-' ∉ a.name) (hvalue : ∀ c ∈ a.value, isQuote c = false)
    (hlast : ∀ c ∈ a.value.getLast?, isBlank c = false ∧ c ≠ '=') : ¬ a.Misleads following := by
  intro h
  cases h with
  | name hsplit =>
    apply hname
    rw [hsplit]
    simp
  | @inside _ _ _ _ _ q _ hsplit _ _ _ _ hq =>
    have hplain := hvalue q (by rw [hsplit]; simp)
    rw [hq] at hplain
    cases hplain
  | @ending front word gap gap' _ hsplit _ _ _ hgap' =>
    rcases List.eq_nil_or_concat gap' with rfl | ⟨init, last, rfl⟩
    · exact (hlast '=' (by rw [hsplit]; simp)).2 rfl
    · rw [List.concat_eq_append] at hsplit hgap'
      have hend : a.value = (front ++ (word ++ (gap ++ '=' :: init))) ++ [last] := by
        rw [hsplit]
        simp
      have hblank := (hlast last (by rw [hend, List.getLast?_concat]; rfl)).1
      rw [hgap' last (by simp)] at hblank
      cases hblank

end Attribute

end LinkedData.Page
