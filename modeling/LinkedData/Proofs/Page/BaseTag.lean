import LinkedData.Proofs.Page.Attribute

/-!
# LinkedData.Proofs.Page.BaseTag -- which base a page is given by the attributes of its tag

A page with one base tag names its base in the attribute `href`. It has the value of this
attribute as its base, and no base without it, apart from attributes that mislead the search:
`href` itself when its value holds a quote of the other kind, and those behind it, or all when
there is none, that hold a place where the search reads something else.
-/

namespace LinkedData.Page

open LinkedData.Text

/-! ## The tag -/

/-- The attributes of a tag. -/
def attributesText (attributes : List Attribute) : List Char :=
  attributes.flatMap Attribute.text

/-- The value of the attribute `href`; of several ones the last counts. -/
def hrefOf : List Attribute → Option (List Char)
  | [] => none
  | a :: rest => (hrefOf rest).or (if a.IsHref then some a.value else none)

/-- From the attribute `href` on, or everywhere when there is none, no attribute misleads, and
the value of `href` holds no quote. What stands in front of `href` does not matter. -/
def ReadAsMeant (attributes : List Attribute) (after : List Char) : Prop :=
  ∀ (before behind : List Attribute) (a : Attribute), attributes = before ++ a :: behind →
    (∀ b ∈ behind, ¬ b.IsHref) →
    ¬ a.Misleads (attributesText behind ++ '>' :: after) ∧
      (a.IsHref → ∀ c ∈ a.value, isQuote c = false)

theorem close_not_mem_attributesText (attributes : List Attribute) :
    '>' ∉ attributesText attributes := by
  intro h
  obtain ⟨a, -, ha⟩ := List.mem_flatMap.mp h
  exact a.close_not_mem_text ha

/-- Behind an attribute, or the name of the tag, the tag goes on with white space or ends. -/
theorem head_attributesText {attributes : List Attribute} {after : List Char} {c : Char}
    (h : c ∈ (attributesText attributes ++ '>' :: after).head?) : isBlank c = true ∨ c = '>' := by
  cases attributes with
  | nil => exact Or.inr (by simpa [attributesText] using h.symm)
  | cons a rest =>
    obtain ⟨d, gap, hgap⟩ := List.exists_cons_of_ne_nil a.gap_ne_nil
    obtain rfl : d = c := by simpa [attributesText, Attribute.text, hgap] using h
    exact Or.inl (a.gap_blank d (by rw [hgap]; simp))

theorem isWord_head_attributesText (attributes : List Attribute) (after : List Char) :
    ∀ c ∈ (attributesText attributes ++ '>' :: after).head?, isWord c = false := by
  intro c hc
  rcases head_attributesText hc with hblank | rfl
  · exact isWord_blank hblank
  · decide

theorem isQuote_head_attributesText (attributes : List Attribute) (after : List Char) :
    ∀ c ∈ (attributesText attributes ++ '>' :: after).head?, isQuote c = false := by
  intro c hc
  rcases head_attributesText hc with hblank | rfl
  · rw [Bool.eq_false_iff]
    intro hquote
    rw [isBlank_of_isQuote hquote] at hblank
    cases hblank
  · decide

theorem ReadAsMeant.nil (after : List Char) : ReadAsMeant [] after := by
  intro before behind a hsplit
  simp at hsplit

theorem ReadAsMeant.cons {a : Attribute} {rest : List Attribute} {after : List Char}
    (hrest : ReadAsMeant rest after)
    (ha : (∀ b ∈ rest, ¬ b.IsHref) → ¬ a.Misleads (attributesText rest ++ '>' :: after) ∧
      (a.IsHref → ∀ c ∈ a.value, isQuote c = false)) :
    ReadAsMeant (a :: rest) after := by
  intro before behind b hsplit hbehind
  cases before with
  | nil =>
    obtain ⟨rfl, rfl⟩ := List.cons.inj hsplit
    exact ha hbehind
  | cons _ before => exact hrest before behind b (List.cons.inj hsplit).2 hbehind

theorem hrefOf_eq_none_iff {attributes : List Attribute} :
    hrefOf attributes = none ↔ ∀ a ∈ attributes, ¬ a.IsHref := by
  induction attributes with
  | nil => simp [hrefOf]
  | cons a rest ih => simp [hrefOf, Option.or_eq_none_iff, ih, and_comm]

theorem lastHref?_attributes {attributes : List Attribute} {after : List Char} (before : Char)
    (h : ReadAsMeant attributes after) :
    lastHref? before (attributesText attributes ++ '>' :: after) = hrefOf attributes := by
  induction attributes generalizing before with
  | nil => exact lastHref?_close before after
  | cons a rest ih =>
    have hrest : ReadAsMeant rest after := by
      intro before' behind b hsplit
      exact h (a :: before') behind b (by rw [hsplit, List.cons_append])
    have hlater := ih a.quote hrest
    have htext : attributesText (a :: rest) ++ '>' :: after =
        a.text ++ (attributesText rest ++ '>' :: after) := by
      simp [attributesText]
    rw [htext, hrefOf]
    cases hfound : hrefOf rest with
    | some value =>
      rw [hfound] at hlater
      rw [← a.lastFrom_text before] at hlater
      rw [lastHref?_keep a.close_not_mem_text hlater, Option.some_or]
    | none =>
      rw [hfound] at hlater
      obtain ⟨hmisleads, hvalue⟩ := h [] rest a rfl (hrefOf_eq_none_iff.mp hfound)
      by_cases hhref : a.IsHref
      · rw [a.lastHref?_href before hhref hmisleads (hvalue hhref) hlater, if_pos hhref,
          Option.none_or]
      · rw [a.lastHref?_pass before hhref hmisleads, hlater, if_neg hhref, Option.none_or]

/-! ## The page -/

theorem baseHref?_cons_of_opening {c : Char} {cs rest : List Char}
    (h : opening? "base".toList (c :: cs) = some rest) :
    baseHref? (c :: cs) = (lastHref? 'e' rest).or (baseHref? cs) := by
  rw [baseHref?, h, Option.bind_some]
  cases lastHref? 'e' rest <;> rfl

theorem baseHref?_cons_of_none {c : Char} {cs : List Char}
    (h : opening? "base".toList (c :: cs) = none) : baseHref? (c :: cs) = baseHref? cs := by
  rw [baseHref?, h]
  rfl

/-- The search passes over text without base tags, up to the next tag. -/
theorem baseHref?_filler {filler rest : List Char} (hlacks : Lacks "<base" filler)
    (hrest : ∀ c ∈ rest.head?, c = '<') : baseHref? (filler ++ rest) = baseHref? rest := by
  induction filler with
  | nil => rfl
  | cons c filler ih =>
    have hopening : opening? "base".toList (c :: (filler ++ rest)) = none :=
      opening?_eq_none (show "<base".toList = _ from rfl) (by decide) hlacks
        (List.cons_ne_nil c filler) hrest
    rw [List.cons_append, baseHref?_cons_of_none hopening, ih hlacks.tail]

theorem baseHref?_skip {cs rest : List Char} (h : '<' ∉ cs) :
    baseHref? (cs ++ rest) = baseHref? rest := by
  induction cs with
  | nil => rfl
  | cons c cs ih =>
    obtain ⟨hc, hcs⟩ := not_or.mp (mt List.mem_cons.mpr h)
    have hopening : opening? "base".toList (c :: (cs ++ rest)) = none := by
      rw [Option.eq_none_iff_forall_ne_some]
      intro tail htail
      obtain ⟨front, htext, -⟩ := opening?_eq_some_iff.mp htail
      exact hc (List.cons.inj htext).1.symm
    rw [List.cons_append, baseHref?_cons_of_none hopening, ih hcs]

/-- Where nothing is read from a tag on, nothing is read from an opening inside it either, for
which the value of an attribute has room. -/
theorem baseHref?_inside {before : Char} {tag rest : List Char} (htag : '>' ∉ tag)
    (h : lastHref? before (tag ++ rest) = none) : baseHref? (tag ++ rest) = baseHref? rest := by
  induction tag generalizing before with
  | nil => rfl
  | cons c tag ih =>
    obtain ⟨hc, htag⟩ := not_or.mp (mt List.mem_cons.mpr htag)
    have hfirst : '>' ∉ [c] := mt List.mem_singleton.mp hc
    have hlater : lastHref? c (tag ++ rest) = none := lastHref?_later hfirst h
    cases hopening : opening? "base".toList (c :: (tag ++ rest)) with
    | none => rw [List.cons_append, baseHref?_cons_of_none hopening, ih htag hlater]
    | some behind =>
      obtain ⟨word, htext, hword, -⟩ := opening?_eq_some_iff.mp hopening
      have hclose : '>' ∉ '<' :: word := by
        intro hmem
        have hfold : '>' ∈ "base".toList :=
          hword ▸ List.mem_map.mpr ⟨'>', (List.mem_cons.mp hmem).resolve_left (by decide), rfl⟩
        exact absurd hfold (by decide)
      rw [List.cons_append, htext, ← List.cons_append] at h
      have hnone : lastHref? 'e' behind = none :=
        lastHref?_behind (by decide) (lastHref?_later hclose h)
      rw [List.cons_append, baseHref?_cons_of_opening hopening, hnone, Option.none_or,
        ih htag hlater]

/-- A page without a URL has the base that it names. -/
theorem base_of_page (page : String) :
    base page none = (baseHref? page.toList).map String.ofList := by
  unfold base
  cases baseHref? page.toList with
  | none => rfl
  | some href => rfl

section Page

variable {before after name : List Char} {attributes : List Attribute}

/-- The base of a page with one base tag is what is read in the tag. -/
theorem base_of_tag (hbefore : Lacks "<base" before) (hafter : Lacks "<base" after)
    (hname : Spells "base" name) :
    base (String.ofList
      (before ++ '<' :: (name ++ (attributesText attributes ++ '>' :: after)))) none =
        (lastHref? 'e' (attributesText attributes ++ '>' :: after)).map String.ofList := by
  have hopening : opening? "base".toList
      ('<' :: (name ++ (attributesText attributes ++ '>' :: after))) =
        some (attributesText attributes ++ '>' :: after) :=
    opening?_eq_some_iff.mpr ⟨name, rfl, hname, isWord_head_attributesText attributes after⟩
  have hnothing : baseHref? after = none := by
    have hend : ∀ c ∈ ([] : List Char).head?, c = '<' := nofun
    rw [← List.append_nil after, baseHref?_filler hafter hend]
    rfl
  rw [base_of_page, String.toList_ofList, baseHref?_filler hbefore (by simp),
    baseHref?_cons_of_opening hopening]
  cases hread : lastHref? 'e' (attributesText attributes ++ '>' :: after) with
  | some value => rfl
  | none =>
    have hopen : '<' ∉ name := by
      intro hmem
      have hfold : '<' ∈ "base".toList := hname ▸ List.mem_map.mpr ⟨'<', hmem, rfl⟩
      exact absurd hfold (by decide)
    have hclose : baseHref? ('>' :: after) = baseHref? after :=
      baseHref?_skip (show '<' ∉ ['>'] by decide)
    rw [Option.none_or, baseHref?_skip hopen,
      baseHref?_inside (close_not_mem_attributesText attributes) hread, hclose, hnothing]

/-- The base of a page with one base tag is the value of the attribute `href`, and without one
the page has no base, unless an attribute misleads the search. -/
theorem base_of_attributes (hbefore : Lacks "<base" before) (hafter : Lacks "<base" after)
    (hname : Spells "base" name) (hmeant : ReadAsMeant attributes after) :
    base (String.ofList
      (before ++ '<' :: (name ++ (attributesText attributes ++ '>' :: after)))) none =
        (hrefOf attributes).map String.ofList := by
  rw [base_of_tag hbefore hafter hname, lastHref?_attributes 'e' hmeant]

/-- The address of a shop, and a note of its old one. -/
def shopHref : Attribute where
  gap := [' ']
  name := "href".toList
  quote := '"'
  value := "/shop/".toList
  gap_ne_nil := by decide
  gap_blank := isBlank_space
  name_ne_nil := by decide
  name_chars := forall_mem_of_all (by decide)
  isQuote_quote := by decide
  value_ne_nil := by decide
  quote_not_mem := by decide
  close_not_mem := by decide

def oldHref : Attribute :=
  { shopHref with
    name := "data-href".toList
    value := "/old/".toList
    name_ne_nil := by decide
    name_chars := forall_mem_of_all (by decide)
    value_ne_nil := by decide
    quote_not_mem := by decide
    close_not_mem := by decide }

/-- The old address in front of the new one does no harm. -/
theorem base_of_attributes_shop :
    let page := "<i title=\"<\">base</i><BASE data-href=\"/old/\" href=\"/shop/\"><p>'href='"
    Lacks "<base" "<i title=\"<\">base</i>".toList ∧ Lacks "<base" "<p>'href='".toList ∧
      Spells "base" "BASE".toList ∧ ReadAsMeant [oldHref, shopHref] "<p>'href='".toList ∧
      base page none = some "/shop/" := by
  intro page
  have hbefore : Lacks "<base" "<i title=\"<\">base</i>".toList := by decide +kernel
  have hafter : Lacks "<base" "<p>'href='".toList := by decide +kernel
  have hname : Spells "base" "BASE".toList := by decide
  have hplain : ∀ c ∈ shopHref.value, isQuote c = false := forall_mem_of_all (by decide)
  have hlast : ∀ c ∈ shopHref.value.getLast?, isBlank c = false ∧ c ≠ '=' := by
    rintro c ⟨⟩
    decide
  have hshop : ¬ shopHref.Misleads (attributesText [] ++ '>' :: "<p>'href='".toList) :=
    Attribute.not_misleads (by decide) hplain hlast
  have hmeant : ReadAsMeant [oldHref, shopHref] "<p>'href='".toList := by
    refine ReadAsMeant.cons (.cons (.nil _) fun _ => ⟨hshop, fun _ => hplain⟩) ?_
    intro hbehind
    exact absurd (by decide) (hbehind shopHref (by simp))
  have hpage : page.toList = "<i title=\"<\">base</i>".toList ++ '<' :: ("BASE".toList ++
      (attributesText [oldHref, shopHref] ++ '>' :: "<p>'href='".toList)) := by decide +kernel
  have hvalue : hrefOf [oldHref, shopHref] = some "/shop/".toList := by decide
  refine ⟨hbefore, hafter, hname, hmeant, ?_⟩
  have hbase := base_of_attributes hbefore hafter hname hmeant
  rw [← hpage, String.ofList_toList, hvalue, Option.map_some, String.ofList_toList] at hbase
  exact hbase

/-- Behind the new address the old one takes its place. -/
theorem base_misled_by_name :
    let page := "<base href=\"/shop/\" data-href=\"/old/\">"
    page.toList = '<' :: ("base".toList ++ (attributesText [shopHref, oldHref] ++ ['>'])) ∧
      shopHref.name ≠ oldHref.name ∧ hrefOf [shopHref, oldHref] = some "/shop/".toList ∧
      base page none = some "/old/" := by
  intro page
  have hread : baseHref? page.toList = some "/old/".toList := by decide +kernel
  refine ⟨by decide +kernel, by decide, by decide, ?_⟩
  rw [base_of_page, hread, Option.map_some, String.ofList_toList]

/-- Where the tag has no attribute `href`, every attribute that misleads gives a base. -/
theorem base_eq_none_iff (hbefore : Lacks "<base" before) (hafter : Lacks "<base" after)
    (hname : Spells "base" name) (hhref : ∀ a ∈ attributes, ¬ a.IsHref) :
    base (String.ofList
      (before ++ '<' :: (name ++ (attributesText attributes ++ '>' :: after)))) none = none ↔
      ∀ (front behind : List Attribute) (a : Attribute), attributes = front ++ a :: behind →
        ¬ a.Misleads (attributesText behind ++ '>' :: after) := by
  rw [base_of_tag hbefore hafter hname, Option.map_eq_none_iff]
  constructor
  · rintro hnone front behind a rfl hmisleads
    have htext : attributesText (front ++ a :: behind) ++ '>' :: after =
        attributesText front ++ (a.text ++ (attributesText behind ++ '>' :: after)) := by
      simp [attributesText]
    rw [htext] at hnone
    exact hmisleads.lastHref?_ne_none _ (isQuote_head_attributesText behind after)
      (lastHref?_later (close_not_mem_attributesText front) hnone)
  · intro hmisleads
    rw [lastHref?_attributes 'e', hrefOf_eq_none_iff.mpr hhref]
    intro front behind a hsplit hbehind
    exact ⟨hmisleads front behind a hsplit,
      fun h => absurd h (hhref a (by rw [hsplit]; simp))⟩

end Page

end LinkedData.Page
