/-
# LinkedData.Text.Split -- texts cut at every separator

Cutting a text at a separator gives at least one part, and one part more than there are
separators; parts may be empty.
-/

namespace LinkedData.Text

/-- The parts of a text between the characters that satisfy `p`. -/
def splitWhere (p : Char → Bool) : List Char → List (List Char)
  | [] => [[]]
  | c :: cs =>
    if p c then [] :: splitWhere p cs
    else
      match splitWhere p cs with
      | [] => [[c]]
      | part :: parts => (c :: part) :: parts

/-- The parts of a text between the occurrences of a character. -/
def splitAt (separator : Char) (cs : List Char) : List (List Char) :=
  splitWhere (· == separator) cs

theorem splitWhere_ne_nil (p : Char → Bool) (cs : List Char) : splitWhere p cs ≠ [] := by
  cases cs with
  | nil => simp [splitWhere]
  | cons c cs =>
    unfold splitWhere
    split
    · simp
    · split <;> simp

theorem length_splitWhere (p : Char → Bool) (cs : List Char) :
    (splitWhere p cs).length = cs.countP p + 1 := by
  induction cs with
  | nil => rfl
  | cons c cs ih =>
    unfold splitWhere
    split
    · rename_i h
      simp [h, ih]
    · rename_i h
      split
      · rename_i hnil
        exact absurd hnil (splitWhere_ne_nil p cs)
      · rename_i part parts hparts
        rw [hparts] at ih
        simp only [List.length_cons] at ih ⊢
        simp [h, ih]

end LinkedData.Text
