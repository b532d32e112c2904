import LinkedData.Page.Tag
import LinkedData.Proofs.Text.Caseless

/-!
# LinkedData.Proofs.Page.Tag -- where tags and attributes stand

The readers of tags and attributes as exact statements about the text in front of them, and the
texts in which a search finds no tag.
-/

namespace LinkedData.Page

open LinkedData.Text

/-! ## Quotes -/

theorem eq_of_isQuote {c : Char} (h : isQuote c = true) : c = '"' ∨ c = '\'' := by
  simpa [isQuote] using h

theorem isBlank_of_isQuote {c : Char} (h : isQuote c = true) : isBlank c = false := by
  rcases eq_of_isQuote h with rfl | rfl
  · decide
  · decide

theorem isWord_of_isQuote {c : Char} (h : isQuote c = true) : isWord c = false := by
  rcases eq_of_isQuote h with rfl | rfl
  · decide
  · decide

theorem fold_quote {c : Char} (h : isQuote c = true) : fold c = c := by
  rcases eq_of_isQuote h with rfl | rfl
  · rfl
  · rfl

/-! ## Tags -/

/-- A tag is opened by its name, whatever its case, with no further letter behind it. -/
theorem opening?_eq_some_iff {name : String} {cs rest : List Char} :
    opening? name.toList cs = some rest ↔
      ∃ front, cs = '<' :: (front ++ rest) ∧ Spells name front ∧
        ∀ c ∈ rest.head?, isWord c = false := by
  unfold opening?
  constructor
  · intro h
    split at h
    · rename_i tail
      split at h
      · rename_i hdrop
        cases h
        obtain ⟨front, rfl, hfront⟩ := dropWord?_eq_some_iff.mp hdrop
        exact ⟨front, rfl, hfront, by simp⟩
      · rename_i c after hdrop
        split at h
        · cases h
        · rename_i hword
          cases h
          obtain ⟨front, rfl, hfront⟩ := dropWord?_eq_some_iff.mp hdrop
          exact ⟨front, rfl, hfront, by simpa using hword⟩
      · cases h
    · cases h
  · rintro ⟨front, rfl, hfront, hrest⟩
    simp only [hfront.dropWord?_append]
    cases rest with
    | nil => rfl
    | cons c rest =>
      have hc : isWord c = false := hrest c (by simp)
      simp [hc]

/-- No tag is opened inside a text that lacks its first signs, nor at the end of one where
another tag begins. -/
theorem opening?_eq_none {name tagged : String} (htagged : tagged.toList = '<' :: name.toList)
    (hname : '<' ∉ name.toList) {filler rest : List Char} (hlacks : Lacks tagged filler)
    (hfiller : filler ≠ []) (hrest : ∀ c ∈ rest.head?, c = '<') :
    opening? name.toList (filler ++ rest) = none := by
  cases hopening : opening? name.toList (filler ++ rest) with
  | none => rfl
  | some after =>
    obtain ⟨front, htext, hfront, -⟩ := opening?_eq_some_iff.mp hopening
    have hfold : ∀ c ∈ rest.head?, fold c = '<' := by
      intro c hc
      rw [hrest c hc]
      rfl
    have hfront' : filler ++ rest = ('<' :: front) ++ after := htext
    refine absurd ?_ (hlacks.not_spells htagged hname hfiller hfold hfront')
    show fold '<' :: front.map fold = _
    rw [htagged, ← hfront]
    rfl

/-- A tag ends at the first bracket that closes one. -/
theorem inside_tag {tag : List Char} (h : '>' ∉ tag) (rest : List Char) :
    inside (tag ++ '>' :: rest) = tag :=
  takeWhile_until h rest

theorem beyond_tag {tag : List Char} (h : '>' ∉ tag) (rest : List Char) :
    beyond (tag ++ '>' :: rest) = rest := by
  rw [beyond, dropWhile_until h]
  rfl

/-! ## Attributes -/

/-- An attribute is its name, whatever its case, and an equals sign, perhaps between white
space, and what follows is its value. -/
theorem attribute?_eq_some_iff {name : String} {cs value : List Char} :
    attribute? name.toList cs = some value ↔
      ∃ word gap gap', cs = word ++ (gap ++ '=' :: (gap' ++ value)) ∧ Spells name word ∧
        (∀ c ∈ gap, isBlank c = true) ∧ (∀ c ∈ gap', isBlank c = true) ∧
        StopsAt isBlank value := by
  unfold attribute?
  constructor
  · intro h
    split at h
    · cases h
    · rename_i rest hdrop
      split at h
      · rename_i after hafter
        cases h
        obtain ⟨word, rfl, hword⟩ := dropWord?_eq_some_iff.mp hdrop
        refine ⟨word, rest.takeWhile isBlank, after.takeWhile isBlank, ?_, hword,
          fun c hc => List.mem_takeWhile_imp hc, fun c hc => List.mem_takeWhile_imp hc,
          stopsAt_dropWhile isBlank after⟩
        rw [List.takeWhile_append_dropWhile, ← hafter, List.takeWhile_append_dropWhile]
      · cases h
  · rintro ⟨word, gap, gap', rfl, hword, hgap, hgap', hvalue⟩
    simp only [hword.dropWord?_append]
    rw [dropWhile_run hgap (stopsAt_cons.mpr (by decide))]
    simp only [dropWhile_run hgap' hvalue]

end LinkedData.Page
