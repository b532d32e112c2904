import LinkedData.Text.CombiningClass
import LinkedData.Text.Composite

/-!
# LinkedData.Text.Normal -- one spelling for texts that are the same

A letter with marks can be spelled in several ways: as one character or as several, with the
marks in one order or another. The normal form takes every character apart, puts the marks of
a letter in the order of their combining classes, and puts together what can be put together.
-/

namespace LinkedData.Text

/-! ## Syllables of Hangul -/

/-- What a syllable of Hangul is made of: a consonant, a vowel, and perhaps a consonant. -/
def syllableParts (n : Nat) : List Char :=
  let i := n - 0xAC00
  let final := i % 28
  Char.ofNat (0x1100 + i / 588) :: Char.ofNat (0x1161 + i / 28 % 21) ::
    if final = 0 then [] else [Char.ofNat (0x11A7 + final)]

/-- Whether a number lies in a run of so many numbers. -/
def inRun (first count n : Nat) : Bool :=
  first ≤ n && n < first + count

/-- The syllable of Hangul that two characters make up: a consonant and a vowel, or an open
syllable and a consonant. -/
def syllable? (a b : Char) : Option Char :=
  if inRun 0x1100 19 a.toNat && inRun 0x1161 21 b.toNat then
    some (Char.ofNat (0xAC00 + 588 * (a.toNat - 0x1100) + 28 * (b.toNat - 0x1161)))
  else if inRun 0xAC00 11172 a.toNat && (a.toNat - 0xAC00) % 28 == 0 && inRun 0x11A8 27 b.toNat then
    some (Char.ofNat (a.toNat + (b.toNat - 0x11A7)))
  else none

/-! ## Taking apart -/

/-- What a character is made of, down to characters that are made of nothing else. -/
def parts (c : Char) : List Char :=
  if c.toNat < 0xC0 then [c]
  else if inRun 0xAC00 11172 c.toNat then syllableParts c.toNat
  else ((composites.image? c).or (replacedCharacters.image? c)).getD [c]

/-! ## The order of marks -/

/-- Puts a character in front of a text; a mark goes behind the marks of lower classes that
the text begins with. -/
def putInOrder (c : Char) : List Char → List Char
  | [] => [c]
  | d :: rest =>
    if 0 < combiningClass d ∧ combiningClass d < combiningClass c then d :: putInOrder c rest
    else c :: d :: rest

/-- A text whose marks are in order. Marks of one class stay in the order they have. -/
def ordered (cs : List Char) : List Char :=
  cs.foldr putInOrder []

/-- No character is lost, and none is added. -/
theorem putInOrder_perm (c : Char) (cs : List Char) : (putInOrder c cs).Perm (c :: cs) := by
  induction cs with
  | nil => exact .refl _
  | cons d rest ih =>
    unfold putInOrder
    split
    · exact (ih.cons d).trans (.swap c d rest)
    · exact .refl _

/-- A text and its ordered form hold the same characters. -/
theorem ordered_perm (cs : List Char) : (ordered cs).Perm cs := by
  induction cs with
  | nil => exact .refl _
  | cons c rest ih => exact (putInOrder_perm c _).trans (ih.cons c)

/-- Whether no mark of a text follows a mark of a higher class. -/
def IsOrdered : List Char → Prop
  | a :: b :: rest =>
    (combiningClass b = 0 ∨ combiningClass a ≤ combiningClass b) ∧ IsOrdered (b :: rest)
  | _ => True

/-- Marks stay in order around a character that is put among them. -/
theorem isOrdered_putInOrder (c : Char) {cs : List Char} (h : IsOrdered cs) :
    IsOrdered (putInOrder c cs) := by
  induction cs with
  | nil => trivial
  | cons d rest ih =>
    unfold putInOrder
    by_cases hd : 0 < combiningClass d ∧ combiningClass d < combiningClass c
    · rw [if_pos hd]
      cases rest with
      | nil => exact ⟨.inr (Nat.le_of_lt hd.2), trivial⟩
      | cons e rest =>
        have tail := ih h.2
        unfold putInOrder at tail ⊢
        by_cases he : 0 < combiningClass e ∧ combiningClass e < combiningClass c
        · rw [if_pos he] at tail ⊢
          exact ⟨h.1, tail⟩
        · rw [if_neg he] at tail ⊢
          exact ⟨.inr (Nat.le_of_lt hd.2), tail⟩
    · rw [if_neg hd]
      exact ⟨by omega, h⟩

/-- The marks of an ordered text are in order. -/
theorem isOrdered_ordered (cs : List Char) : IsOrdered (ordered cs) := by
  induction cs with
  | nil => trivial
  | cons c rest ih => exact isOrdered_putInOrder c ih

/-! ## Putting together -/

/-- The character that is made of a character and one more. -/
def together? (a b : Char) : Option Char :=
  if b.toNat < 0x300 then none
  else
    let made := parts a ++ [b]
    (syllable? a b).or
      ((composites.find? fun composite => composite.2 == made).map fun composite =>
        Char.ofNat composite.1)

/-- Puts a text together onto a character. Each character that follows becomes one with it
unless a mark between them stands in its way: one of the same class, or any if the character
is no mark. `marks` holds the marks between, the last one first. -/
def putTogether (base : Char) (marks : List Char) : List Char → List Char
  | [] => base :: marks.reverse
  | c :: rest =>
    let free := marks.head?.all fun mark => combiningClass mark < combiningClass c
    match if free then together? base c else none with
    | some base => putTogether base marks rest
    | none =>
      if combiningClass c = 0 then base :: marks.reverse ++ putTogether c [] rest
      else putTogether base (c :: marks) rest

/-- The normal form of a text. -/
def normalForm (cs : List Char) : List Char :=
  match ordered (cs.flatMap parts) with
  | [] => []
  | c :: rest => putTogether c [] rest

end LinkedData.Text
