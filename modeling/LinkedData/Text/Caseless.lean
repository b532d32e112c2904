/-
# LinkedData.Text.Caseless -- words recognised whatever their case

A word of small ASCII letters is compared with a text up to simple case folding. Two letters
beyond ASCII fold to ASCII ones: the long s and the sign of the kelvin.
-/

namespace LinkedData.Text

/-- The small ASCII letter that a character folds to; other characters stay as they are. -/
def fold (c : Char) : Char :=
  if c = 'ſ' then 's' else if c = '\u212A' then 'k' else c.toLower

/-- What follows a word of small letters at the front of a text. -/
def dropWord? : List Char → List Char → Option (List Char)
  | [], cs => some cs
  | _ :: _, [] => none
  | w :: word, c :: cs => if fold c = w then dropWord? word cs else none

theorem dropWord?_eq_some_iff {word cs rest : List Char} :
    dropWord? word cs = some rest ↔ ∃ front, cs = front ++ rest ∧ front.map fold = word := by
  induction word generalizing cs with
  | nil => simp [dropWord?, eq_comm]
  | cons w word ih =>
    cases cs with
    | nil => simp [dropWord?]
    | cons c cs =>
      simp only [dropWord?]
      constructor
      · intro h
        split at h
        · obtain ⟨front, rfl, rfl⟩ := ih.1 h
          exact ⟨c :: front, rfl, by simp [*]⟩
        · cases h
      · rintro ⟨front, hcs, hfront⟩
        cases front with
        | nil => simp at hfront
        | cons f front =>
          simp only [List.map_cons, List.cons.injEq] at hfront
          simp only [List.cons_append, List.cons.injEq] at hcs
          rw [hcs.1, if_pos hfront.1]
          exact ih.2 ⟨front, hcs.2, hfront.2⟩

theorem dropWord?_length {word cs rest : List Char} (h : dropWord? word cs = some rest) :
    rest.length + word.length = cs.length := by
  obtain ⟨front, rfl, rfl⟩ := dropWord?_eq_some_iff.1 h
  simp [Nat.add_comm]

end LinkedData.Text
