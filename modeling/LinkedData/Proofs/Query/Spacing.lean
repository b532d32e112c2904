import LinkedData.Proofs.Query.Layout

/-!
# LinkedData.Proofs.Query.Spacing -- words with separators between them

What stands between the words of a query text is white space and comments, in any number and
order. Words that are kept apart by it are read as themselves, whichever words they are and
however far they are kept apart. A comment may begin right behind a word, since no word is
prolonged by its sign, and the sign within an IRI or a string begins no comment.
-/

namespace LinkedData.Query

open LinkedData.Text

/-- A word that some text is read as. -/
def Token.IsRead (t : Token) : Prop :=
  ∃ cs ts, tokenize cs = .ok ts ∧ t ∈ ts

/-- The words that texts are read as are known by their letters: each of them is read from its
own written form. -/
theorem Token.isRead_iff {t : Token} : t.IsRead ↔ t.Occurs := by
  constructor
  · rintro ⟨cs, ts, hread, ht⟩
    exact tokenize_occurs hread t ht
  · intro ht
    exact ⟨_, [t], (Layout.word ht t.endsBefore_nil .done).tokenize_eq, List.mem_singleton_self t⟩

/-! ## Separators -/

/-- A run of white space and comments; a comment goes on to the end of its line. -/
inductive Separator : List Char → Prop
  | nothing : Separator []
  | blank {c : Char} {cs : List Char} : isBlank c = true → Separator cs → Separator (c :: cs)
  | comment {text cs : List Char} :
      '\n' ∉ text → Separator cs → Separator ('#' :: (text ++ '\n' :: cs))

/-- Separators may stand in front of any text. -/
theorem Separator.layout {gap : List Char} (h : Separator gap) {ts : List Token}
    {cs : List Char} (hcs : Layout ts cs) : Layout ts (gap ++ cs) := by
  induction h with
  | nothing => exact hcs
  | blank hc _ ih => exact .blank hc ih
  | @comment text gap htext _ ih =>
    have hcomment := Layout.comment htext ih
    simpa using hcomment

/-- Nothing that a separator begins with prolongs a word, and neither does the end of a text. -/
theorem Separator.endsBefore {gap : List Char} (h : Separator gap) {rest : List Char}
    (hrest : gap = [] → rest = []) (t : Token) : t.EndsBefore (gap ++ rest) := by
  cases h with
  | nothing =>
    rw [hrest rfl]
    exact t.endsBefore_nil
  | blank hc _ => exact t.endsBefore_blank hc _
  | comment _ _ => exact Token.endsBefore_cons (by decide) _ t

/-! ## Words kept apart -/

/-- Words, each followed by a separator. -/
def spacedChars (words : List (Token × List Char)) : List Char :=
  words.flatMap fun w => w.1.chars ++ w.2

theorem layout_spaced {words : List (Token × List Char)}
    (hwords : ∀ w ∈ words, w.1.Occurs ∧ Separator w.2)
    (hapart : ∀ w ∈ words.dropLast, w.2 ≠ []) :
    Layout (words.map (·.1)) (spacedChars words) := by
  induction words with
  | nil => exact .done
  | cons w words ih =>
    obtain ⟨⟨hoccurs, hgap⟩, hrest⟩ := List.forall_mem_cons.mp hwords
    have hends : w.2 = [] → spacedChars words = [] := by
      intro hnone
      cases words with
      | nil => rfl
      | cons w' words => exact absurd hnone (hapart w (by simp))
    have hapart' : ∀ w' ∈ words.dropLast, w'.2 ≠ [] := by
      intro w' hw'
      cases words with
      | nil => cases hw'
      | cons v words => exact hapart w' (by simp [hw'])
    have hlayout := Layout.word hoccurs (hgap.endsBefore hends w.1) (hgap.layout (ih hrest hapart'))
    rwa [← List.append_assoc] at hlayout

/-- A text that is made of words with separators between them, whether or not there are more in
front of the first word and behind the last, is read as these words. -/
theorem tokenize_spaced {front : List Char} {words : List (Token × List Char)}
    (hfront : Separator front) (hwords : ∀ w ∈ words, w.1.IsRead ∧ Separator w.2)
    (hapart : ∀ w ∈ words.dropLast, w.2 ≠ []) :
    tokenize (front ++ spacedChars words) = .ok (words.map (·.1)) := by
  have hoccur : ∀ w ∈ words, w.1.Occurs ∧ Separator w.2 := fun w hw =>
    ⟨Token.isRead_iff.mp (hwords w hw).1, (hwords w hw).2⟩
  exact (hfront.layout (layout_spaced hoccur hapart)).tokenize_eq

/-- Comments right behind words, signs of comments inside words, and a dot in a name and behind
one. -/
theorem tokenize_spaced_signs :
    let words : List (Token × List Char) :=
      [(.variable "s", "#a. b\n".toList), (.blank "x.y", [' ']), (.dot, [' ']), (.caret, [' ']),
        (.string "a\"#\n", [' ']), (.language "nl-BE", "#a. b\n".toList), (.iri "#a", [' ']),
        (.prefixed "e" "p:q", [])]
    Separator "#a. b\n".toList ∧ (∀ w ∈ words, w.1.IsRead ∧ Separator w.2) ∧
      (∀ w ∈ words.dropLast, w.2 ≠ []) ∧
      tokenize "#a. b\n?s#a. b\n_:x.y . ^^ \"a\\\"#\\n\" @nl-BE#a. b\n<#a> e:p:q".toList =
        .ok (words.map (·.1)) := by
  intro words
  have hcomment : Separator ('#' :: ("a. b".toList ++ ['\n'])) := .comment (by decide) .nothing
  have hspace : Separator [' '] := .blank (by decide) .nothing
  have hoccur : ∀ w ∈ words, w.1.Occurs := by decide +kernel
  have hgaps : ∀ w ∈ words, w.2 = "#a. b\n".toList ∨ w.2 = [' '] ∨ w.2 = [] := by decide
  have hwords : ∀ w ∈ words, w.1.IsRead ∧ Separator w.2 := by
    intro w hw
    refine ⟨Token.isRead_iff.mpr (hoccur w hw), ?_⟩
    rcases hgaps w hw with h | h | h
    · rw [h]
      exact hcomment
    · rw [h]
      exact hspace
    · rw [h]
      exact .nothing
  have hapart : ∀ w ∈ words.dropLast, w.2 ≠ [] := by decide
  have htext : "#a. b\n?s#a. b\n_:x.y . ^^ \"a\\\"#\\n\" @nl-BE#a. b\n<#a> e:p:q".toList =
      "#a. b\n".toList ++ spacedChars words := by decide +kernel
  refine ⟨hcomment, hwords, hapart, ?_⟩
  rw [htext]
  exact tokenize_spaced hcomment hwords hapart

end LinkedData.Query
