import LinkedData.Proofs.Text.Run
import LinkedData.Service.Settings.Placeholder

/-!
# LinkedData.Proofs.Service.Placeholders -- what a line with placeholders becomes

The reader of placeholders as an exact statement about the text in front of it, and from it
what any line becomes: from the left, each placeholder that begins outside the ones before it
is replaced, and every other character stays. What is put in is not looked at again. So of a
line that is made of placeholders and of text in which none is opened, the text stays as it is
and each placeholder becomes its value.
-/

namespace LinkedData.Service.Settings

open LinkedData.Text

namespace Placeholder

/-! ## Reading a placeholder -/

/-- The characters of defaults: all but the closing brace and the line feed. -/
def isDefaultChar (c : Char) : Bool :=
  c != '}' && c != '\n'

/-- A placeholder that a line can hold. -/
structure WellFormed (p : Placeholder) : Prop where
  start : p.name.head?.any isNameStart = true
  name : ∀ c ∈ p.name, isNameChar c = true
  default : ∀ c ∈ p.default, isDefaultChar c = true

instance (p : Placeholder) : Decidable p.WellFormed :=
  decidable_of_iff
    (p.name.head?.any isNameStart = true ∧ p.name.all isNameChar = true ∧
      p.default.all isDefaultChar = true)
    ⟨fun ⟨hstart, hname, hdefault⟩ =>
        ⟨hstart, List.all_eq_true.mp hname, List.all_eq_true.mp hdefault⟩,
      fun ⟨hstart, hname, hdefault⟩ =>
        ⟨hstart, List.all_eq_true.mpr hname, List.all_eq_true.mpr hdefault⟩⟩

/-- What is read is a well-formed placeholder, up to the brace that closes it. -/
theorem inside?_eq_some_iff {p : Placeholder} {cs after : List Char} :
    inside? cs = some (p, after) ↔
      p.WellFormed ∧ cs = p.name ++ ':' :: (p.default ++ '}' :: after) := by
  constructor
  · intro h
    simp only [inside?, drop_length_takeWhile] at h
    split at h
    · rename_i rest hrest
      split at h
      · rename_i tail htail
        split at h
        · rename_i hstart
          cases h
          refine ⟨⟨?_, ?_, ?_⟩, ?_⟩
          · exact hstart
          · exact fun c hc => List.mem_takeWhile_imp hc
          · exact fun c hc => List.mem_takeWhile_imp hc
          · rw [← htail, List.takeWhile_append_dropWhile, ← hrest, List.takeWhile_append_dropWhile]
        · cases h
      · cases h
    · cases h
  · rintro ⟨⟨hstart, hname, hdefault⟩, rfl⟩
    have hcolon : StopsAt isNameChar (':' :: (p.default ++ '}' :: after)) :=
      stopsAt_cons.mpr (by decide)
    have hbrace : StopsAt isDefaultChar ('}' :: after) := stopsAt_cons.mpr (by decide)
    have htake : (p.default ++ '}' :: after).takeWhile (fun c => c != '}' && c != '\n') =
        p.default := takeWhile_run hdefault hbrace
    simp only [inside?, takeWhile_run hname hcolon, List.drop_left, htake, hstart, if_true]

/-! ## Reading a line -/

theorem chars_append (p : Placeholder) (after : List Char) :
    p.chars ++ after = '$' :: '{' :: (p.name ++ ':' :: (p.default ++ '}' :: after)) := by
  simp [chars]

/-- A placeholder becomes its value, and what follows it is read on its own. -/
theorem WellFormed.expand_chars {p : Placeholder} (h : p.WellFormed) (environment : Dict String)
    (after : List Char) :
    expand environment (p.chars ++ after) = p.value environment ++ expand environment after := by
  have hread : inside? (p.name ++ ':' :: (p.default ++ '}' :: after)) = some (p, after) :=
    inside?_eq_some_iff.mpr ⟨h, rfl⟩
  rw [chars_append, expand]
  split
  · rename_i p' after' hread'
    rw [hread] at hread'
    cases hread'
    rfl
  · rename_i hread'
    rw [hread] at hread'
    cases hread'

/-- A character stays when no placeholder begins with it. -/
theorem expand_cons {c : Char} {cs : List Char}
    (h : ∀ (p : Placeholder) (after : List Char), p.WellFormed → c :: cs ≠ p.chars ++ after)
    (environment : Dict String) :
    expand environment (c :: cs) = c :: expand environment cs := by
  rw [expand.eq_def environment (c :: cs)]
  split
  · rename_i hnil
    cases hnil
  · rename_i rest hcons
    split
    · rename_i p after hread
      obtain ⟨hp, rfl⟩ := inside?_eq_some_iff.mp hread
      exact absurd (hcons.trans (p.chars_append after).symm) (h p after hp)
    · cases hcons
      rfl
  · rename_i hcons
    cases hcons
    rfl

/-- What a line becomes in an environment, from the left: a placeholder its value, and a
character with which none begins itself. -/
inductive Becomes (environment : Dict String) : List Char → List Char → Prop
  | nothing : Becomes environment [] []
  | placeholder {p : Placeholder} {cs out : List Char} :
      p.WellFormed → Becomes environment cs out →
      Becomes environment (p.chars ++ cs) (p.value environment ++ out)
  | char {c : Char} {cs out : List Char} :
      (∀ (p : Placeholder) (after : List Char), p.WellFormed → c :: cs ≠ p.chars ++ after) →
      Becomes environment cs out → Becomes environment (c :: cs) (c :: out)

theorem becomes_iff {environment : Dict String} {cs out : List Char} :
    Becomes environment cs out ↔ out = expand environment cs := by
  constructor
  · intro h
    induction h with
    | nothing => rw [expand]
    | placeholder hp _ ih => rw [hp.expand_chars, ih]
    | char hc _ ih => rw [expand_cons hc, ih]
  · rintro rfl
    -- The induction is on the length, since a placeholder takes up many characters at once.
    induction hlength : cs.length using Nat.strong_induction_on generalizing cs with
    | _ n ih =>
      cases cs with
      | nil =>
        rw [expand]
        exact .nothing
      | cons c cs =>
        by_cases h : ∃ (p : Placeholder) (after : List Char),
            p.WellFormed ∧ c :: cs = p.chars ++ after
        · obtain ⟨p, after, hp, heq⟩ := h
          have hshorter : after.length < n := by
            rw [← hlength, heq, chars_append]
            simp
            omega
          rw [heq, hp.expand_chars]
          exact .placeholder hp (ih _ hshorter rfl)
        · have hchar : ∀ (p : Placeholder) (after : List Char), p.WellFormed →
              c :: cs ≠ p.chars ++ after := fun p after hp heq => h ⟨p, after, hp, heq⟩
          rw [expand_cons hchar]
          exact .char hchar (ih _ (by simp [← hlength]) rfl)

/-! ## Lines made of placeholders and other text -/

/-- A text in which no placeholder is opened. -/
def Unopened (piece : List Char) : Prop :=
  ¬ ['$', '{'] <:+: piece

instance (piece : List Char) : Decidable (Unopened piece) :=
  inferInstanceAs (Decidable (¬ ['$', '{'] <:+: piece))

/-- Other text stays as it is, also when it ends in the sign that begins the next placeholder. -/
theorem Unopened.expand_append {piece rest : List Char} (h : Unopened piece)
    (hrest : ∀ c ∈ rest.head?, c ≠ '{') (environment : Dict String) :
    expand environment (piece ++ rest) = piece ++ expand environment rest := by
  induction piece with
  | nil => rfl
  | cons c piece ih =>
    have hpiece : Unopened piece := fun hopened => h (List.infix_cons hopened)
    have hchar : ∀ (p : Placeholder) (after : List Char), p.WellFormed →
        c :: (piece ++ rest) ≠ p.chars ++ after := by
      intro p after _ heq
      rw [chars_append] at heq
      obtain ⟨rfl, hopened⟩ := List.cons.inj heq
      cases piece with
      | nil => exact hrest '{' (by rw [List.nil_append] at hopened; rw [hopened]; rfl) rfl
      | cons d piece =>
        obtain ⟨rfl, -⟩ := List.cons.inj hopened
        exact h ⟨[], piece, rfl⟩
    rw [List.cons_append, expand_cons hchar, ih hpiece]
    rfl

/-- Placeholders, each followed by other text. -/
def placesChars (places : List (Placeholder × List Char)) : List Char :=
  places.flatMap fun s => s.1.chars ++ s.2

theorem head?_placesChars (places : List (Placeholder × List Char)) :
    ∀ c ∈ (placesChars places).head?, c ≠ '{' := by
  cases places with
  | nil => simp [placesChars]
  | cons s places =>
    rintro c ⟨⟩
    decide

theorem expand_placesChars {places : List (Placeholder × List Char)}
    (h : ∀ s ∈ places, s.1.WellFormed ∧ Unopened s.2) (environment : Dict String) :
    expand environment (placesChars places) =
      places.flatMap fun s => s.1.value environment ++ s.2 := by
  induction places with
  | nil =>
    show expand environment [] = []
    rw [expand]
  | cons s places ih =>
    obtain ⟨⟨hplaceholder, hpiece⟩, hplaces⟩ := List.forall_mem_cons.mp h
    have hchars : placesChars (s :: places) = s.1.chars ++ (s.2 ++ placesChars places) := by
      simp [placesChars]
    rw [hchars, hplaceholder.expand_chars, hpiece.expand_append (head?_placesChars places),
      ih hplaces, List.flatMap_cons, List.append_assoc]

/-- In a line of placeholders and other text, the text stays and each placeholder becomes the
value of its name, or its default where the name has none. The values may be any texts. -/
theorem expand_line {front : List Char} {places : List (Placeholder × List Char)}
    (hfront : Unopened front) (hplaces : ∀ s ∈ places, s.1.WellFormed ∧ Unopened s.2)
    (environment : Dict String) :
    expand environment (front ++ placesChars places) =
      front ++ places.flatMap fun s =>
        (environment.find? (String.ofList s.1.name)).elim s.1.default String.toList ++ s.2 := by
  have hvalue : ∀ s : Placeholder × List Char, s.1.value environment =
      (environment.find? (String.ofList s.1.name)).elim s.1.default String.toList := by
    intro s
    unfold value
    cases environment.find? (String.ofList s.1.name) with
    | none => rfl
    | some v => rfl
  rw [hfront.expand_append (head?_placesChars places), expand_placesChars hplaces]
  simp only [hvalue]

/-- A sign in front of a placeholder, a value that looks like a placeholder, a default in which
another one is opened, and a sign at the end. -/
theorem expand_line_nested :
    let front := "a = \"$".toList
    let places : List (Placeholder × List Char) :=
      [(⟨"HOST".toList, []⟩, []), (⟨"_A1".toList, "$\x7bB:x".toList⟩, ['$'])]
    let line := "a = \"$$\x7bHOST:\x7d$\x7b_A1:$\x7bB:x\x7d$"
    Unopened front ∧ (∀ s ∈ places, s.1.WellFormed ∧ Unopened s.2) ∧
      expand [("HOST", "$\x7b_A1:y\x7d")] line.toList =
        "a = \"$$\x7b_A1:y\x7d$\x7bB:x$".toList := by
  intro front places line
  have hfront : Unopened front := by decide
  have hplaces : ∀ s ∈ places, s.1.WellFormed ∧ Unopened s.2 := by decide
  have hline : line.toList = front ++ placesChars places := by decide
  refine ⟨hfront, hplaces, ?_⟩
  rw [hline, expand_line hfront hplaces]
  decide

end Placeholder

end LinkedData.Service.Settings
