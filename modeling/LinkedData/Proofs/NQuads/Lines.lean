import LinkedData.NQuads.Document
import LinkedData.Proofs.Text.Run

/-!
# LinkedData.Proofs.NQuads.Lines -- what a document hands out

A document hands out what its first line holds and then what the document after that line
hands out, or nothing more when the line is at fault.
-/

namespace LinkedData.NQuads.Lines

open LinkedData.Rdf LinkedData.Text

theorem toList_eq_nil {d : Lines} (h : d.next = none) : d.toList = [] := by
  unfold toList drain
  split
  · rfl
  · rename_i item d' hnext
    rw [h] at hnext
    cases hnext

theorem toList_eq_cons {d d' : Lines} {item : Except LineFault Quad}
    (h : d.next = some (item, d')) : d.toList = item :: d'.toList := by
  rw [toList, drain]
  split
  · rename_i hnext
    rw [h] at hnext
    cases hnext
  · rename_i item' last hnext
    rw [h] at hnext
    cases hnext
    rfl

/-- What a document hands out depends only on what it hands out next. -/
theorem toList_congr {d d' : Lines} (h : d.next = d'.next) : d.toList = d'.toList := by
  cases hnext : d'.next with
  | none => rw [toList_eq_nil (h.trans hnext), toList_eq_nil hnext]
  | some call => rw [toList_eq_cons (h.trans hnext), toList_eq_cons hnext]

/-- What a document hands out when its first line is passed over. -/
theorem toList_of_skipped {cs : List Char} (count : Nat) (hne : cs ≠ [])
    (hline : isSkipped (trim (splitLine cs).1) = true) :
    toList { rest := cs, count } = toList { rest := (splitLine cs).2, count := count + 1 } := by
  apply toList_congr
  show advance count cs = advance (count + 1) (splitLine cs).2
  rw [advance, dif_neg hne, if_pos hline]

/-- What a document hands out when its first line is not passed over. -/
theorem toList_of_line {cs : List Char} (count : Nat) (hne : cs ≠ [])
    (hline : isSkipped (trim (splitLine cs).1) = false) :
    toList { rest := cs, count } =
      match statement (trim (splitLine cs).1) with
      | .ok q => .ok q :: toList { rest := (splitLine cs).2, count := count + 1 }
      | .error fault => [.error { line := count + 1, fault }] := by
  have hnext : next { rest := cs, count } = advance count cs := rfl
  rw [advance, dif_neg hne, if_neg (by simp [hline])] at hnext
  cases hread : statement (trim (splitLine cs).1) with
  | ok q =>
    simp only [hread] at hnext
    exact toList_eq_cons hnext
  | error fault =>
    simp only [hread] at hnext
    exact (toList_eq_cons hnext).trans (by rw [toList_eq_nil rfl])

/-- A text is cut at its first line feed. -/
theorem splitLine_line {line : List Char} (h : '\n' ∉ line) (rest : List Char) :
    splitLine (line ++ '\n' :: rest) = (line, rest) := by
  rw [splitLine, takeWhile_until h, dropWhile_until h, List.drop_one, List.tail_cons]

/-- The last line of a text has no line feed. -/
theorem splitLine_of_not_mem {line : List Char} (h : '\n' ∉ line) :
    splitLine line = (line, []) := by
  have hall : ∀ c ∈ line, (c != '\n') = true := by
    intro c hc
    rw [bne_iff_ne]
    rintro rfl
    exact h hc
  rw [splitLine, List.takeWhile_eq_self_iff.mpr hall, List.dropWhile_eq_nil_iff.mpr hall,
    List.drop_nil]

end LinkedData.NQuads.Lines
