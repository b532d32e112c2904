import LinkedData.Text.Blank
import Mathlib.Data.List.TakeWhile

/-!
# LinkedData.Proofs.Text.Run -- runs of characters and what ends them

A reader takes the longest run of a class of characters, and some readers give back the dots
at the end of the run. The run is what was written exactly when what was written belongs to
the class and what follows does not start with a character of it.
-/

namespace LinkedData.Text

/-- A text does not start with a character of a class. -/
def StopsAt (p : Char → Bool) (rest : List Char) : Prop :=
  ∀ c ∈ rest.head?, p c = false

theorem stopsAt_cons {p : Char → Bool} {c : Char} {rest : List Char} :
    StopsAt p (c :: rest) ↔ p c = false := by
  simp [StopsAt]

section Run

variable {p : Char → Bool} {run rest : List Char}

theorem takeWhile_eq_nil (hrest : StopsAt p rest) : rest.takeWhile p = [] := by
  cases rest with
  | nil => rfl
  | cons c rest => rw [List.takeWhile_cons_of_neg (by simp [stopsAt_cons.mp hrest])]

theorem dropWhile_eq_self (hrest : StopsAt p rest) : rest.dropWhile p = rest := by
  cases rest with
  | nil => rfl
  | cons c rest => rw [List.dropWhile_cons_of_neg (by simp [stopsAt_cons.mp hrest])]

/-- The longest run is the one that was written. -/
theorem takeWhile_run (hrun : ∀ c ∈ run, p c = true) (hrest : StopsAt p rest) :
    (run ++ rest).takeWhile p = run := by
  rw [List.takeWhile_append_of_pos hrun, takeWhile_eq_nil hrest, List.append_nil]

theorem dropWhile_run (hrun : ∀ c ∈ run, p c = true) (hrest : StopsAt p rest) :
    (run ++ rest).dropWhile p = rest := by
  rw [List.dropWhile_append_of_pos hrun, dropWhile_eq_self hrest]

/-- What stands in front of the first occurrence of a character. -/
theorem takeWhile_until {d : Char} {front : List Char} (h : d ∉ front) (rest : List Char) :
    (front ++ d :: rest).takeWhile (· != d) = front := by
  apply takeWhile_run
  · intro c hc
    rw [bne_iff_ne]
    rintro rfl
    exact h hc
  · simp [stopsAt_cons]

theorem dropWhile_until {d : Char} {front : List Char} (h : d ∉ front) (rest : List Char) :
    (front ++ d :: rest).dropWhile (· != d) = d :: rest := by
  apply dropWhile_run
  · intro c hc
    rw [bne_iff_ne]
    rintro rfl
    exact h hc
  · simp [stopsAt_cons]

theorem drop_length_takeWhile (p : Char → Bool) (cs : List Char) :
    cs.drop (cs.takeWhile p).length = cs.dropWhile p := by
  have hdrop : (cs.takeWhile p ++ cs.dropWhile p).drop (cs.takeWhile p).length =
      cs.dropWhile p := List.drop_left
  rwa [List.takeWhile_append_dropWhile] at hdrop

theorem stopsAt_dropWhile (p : Char → Bool) (cs : List Char) : StopsAt p (cs.dropWhile p) := by
  intro c hc
  have hhead := List.head?_dropWhile_not p cs
  rw [Option.mem_def.mp hc] at hhead
  simpa using hhead

/-! ## Dropping tails -/

theorem dropTailWhile_isPrefix (p : Char → Bool) (cs : List Char) :
    dropTailWhile p cs <+: cs := by
  rw [← List.reverse_suffix, dropTailWhile, List.reverse_reverse]
  exact List.dropWhile_suffix p

/-- What is left does not end in a character of the class. -/
theorem getLast?_dropTailWhile (p : Char → Bool) (cs : List Char) :
    ∀ c ∈ (dropTailWhile p cs).getLast?, p c = false := by
  rw [dropTailWhile, List.getLast?_reverse]
  exact stopsAt_dropWhile p cs.reverse

/-- What is dropped is the run of the class at the end. -/
theorem dropTailWhile_run {front tail : List Char} (hfront : ∀ c ∈ front.getLast?, p c = false)
    (htail : ∀ c ∈ tail, p c = true) : dropTailWhile p (front ++ tail) = front := by
  have hrun : ∀ c ∈ tail.reverse, p c = true := fun c hc => htail c (List.mem_reverse.mp hc)
  rw [← List.head?_reverse] at hfront
  rw [dropTailWhile, List.reverse_append, dropWhile_run hrun hfront, List.reverse_reverse]

theorem dropTailWhile_eq_self {cs : List Char} (h : ∀ c ∈ cs.getLast?, p c = false) :
    dropTailWhile p cs = cs := by
  have hnothing : ∀ c ∈ ([] : List Char), p c = true := nofun
  simpa using dropTailWhile_run h hnothing

theorem exists_dropTailWhile_append (p : Char → Bool) (cs : List Char) :
    ∃ tail, cs = dropTailWhile p cs ++ tail ∧ ∀ c ∈ tail, p c = true := by
  refine ⟨(cs.reverse.takeWhile p).reverse, ?_, ?_⟩
  · rw [dropTailWhile, ← List.reverse_append, List.takeWhile_append_dropWhile, List.reverse_reverse]
  · intro c hc
    exact List.mem_takeWhile_imp (List.mem_reverse.mp hc)

/-- A character that is kept keeps all that stands in front of it. -/
theorem dropTailWhile_cons {c : Char} (hc : p c = false) (cs : List Char) :
    ∃ tail, dropTailWhile p (c :: cs) = c :: tail ∧ tail <+: cs := by
  obtain ⟨dropped, hdropped⟩ := dropTailWhile_isPrefix p (c :: cs)
  cases hkept : dropTailWhile p (c :: cs) with
  | nil =>
    -- Nothing is kept only of a text that belongs to the class altogether.
    rw [dropTailWhile, List.reverse_eq_nil_iff, List.dropWhile_eq_nil_iff] at hkept
    have hclass := hkept c (by simp)
    rw [hc] at hclass
    cases hclass
  | cons d tail =>
    rw [hkept, List.cons_append] at hdropped
    injection hdropped with hd htail
    exact ⟨tail, by rw [hd], dropped, htail⟩

/-! ## White space at both ends -/

theorem trim_isInfix (cs : List Char) : trim cs <:+: cs :=
  (dropTailWhile_isPrefix _ _).isInfix.trans (List.dropWhile_suffix _).isInfix

theorem trim_eq_self {cs : List Char} (hfirst : StopsAt isBlank cs)
    (hlast : ∀ c ∈ cs.getLast?, isBlank c = false) : trim cs = cs := by
  rw [trim, dropWhile_eq_self hfirst, dropTailWhile_eq_self hlast]

theorem trim_cons {c : Char} (hc : isBlank c = false) (cs : List Char) :
    ∃ tail, trim (c :: cs) = c :: tail ∧ tail <+: cs := by
  rw [trim, dropWhile_eq_self (stopsAt_cons.mpr hc)]
  exact dropTailWhile_cons hc cs

end Run

end LinkedData.Text
