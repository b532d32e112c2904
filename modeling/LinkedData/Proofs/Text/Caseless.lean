import LinkedData.Proofs.Text.Run
import LinkedData.Text.Caseless
import LinkedData.Text.Word

/-!
# LinkedData.Proofs.Text.Caseless -- words in a text, whatever their case

A word that is nowhere in a text does not come up where the text meets another one either, as
long as the other one begins with the character that the word begins with and the word has that
character at its front only. So a search for a tag passes over everything that stands between
two tags.
-/

namespace LinkedData.Text

/-- A text is a word of small letters, in any letter case. -/
def Spells (word : String) (cs : List Char) : Prop :=
  cs.map fold = word.toList

/-- A word of small letters is nowhere in a text, in no letter case. -/
def Lacks (word : String) (cs : List Char) : Prop :=
  ¬ word.toList <:+: cs.map fold

instance (word : String) (cs : List Char) : Decidable (Spells word cs) :=
  inferInstanceAs (Decidable (_ = _))

instance (word : String) (cs : List Char) : Decidable (Lacks word cs) :=
  inferInstanceAs (Decidable (¬ _))

/-- A property of all characters of a text, checked one after the other. -/
theorem forall_mem_of_all {P : Char → Prop} [DecidablePred P] {cs : List Char}
    (h : cs.all (fun c => decide (P c)) = true) : ∀ c ∈ cs, P c := by
  intro c hc
  exact of_decide_eq_true (List.all_eq_true.mp h c hc)

/-! ## White space -/

/-- All white space. -/
def blanks : List Char :=
  blankRanges.flatMap fun r => (List.range' r.1 (r.2 + 1 - r.1)).map Char.ofNat

theorem mem_blanks {c : Char} (h : isBlank c = true) : c ∈ blanks := by
  obtain ⟨r, hr, hlow, hhigh⟩ := inRanges_iff.mp h
  refine List.mem_flatMap.mpr ⟨r, hr, List.mem_map.mpr ⟨c.toNat, ?_, Char.ofNat_toNat c⟩⟩
  rw [List.mem_range'_1]
  omega

/-- White space has no letter case, and it belongs to no word. -/
theorem fold_blank {c : Char} (h : isBlank c = true) : fold c = c := by
  have hall : ∀ c ∈ blanks, fold c = c := forall_mem_of_all (by decide +kernel)
  exact hall c (mem_blanks h)

theorem isWord_blank {c : Char} (h : isBlank c = true) : isWord c = false := by
  have hall : ∀ c ∈ blanks, isWord c = false := forall_mem_of_all (by decide +kernel)
  exact hall c (mem_blanks h)

theorem isBlank_space : ∀ c ∈ [' '], isBlank c = true :=
  forall_mem_of_all (by decide)

/-- Of a class of characters without letter case, a character is no member when it folds to one
that is none. -/
theorem apart_of_fold {p : Char → Bool} (hp : ∀ {c}, p c = true → fold c = c) {c d : Char}
    (h : fold c = d) (hd : p d = false) : p c = false := by
  rw [Bool.eq_false_iff]
  intro hc
  rw [hp hc] at h
  rw [h, hd] at hc
  cases hc

/-! ## Words at the front -/

theorem Spells.dropWord?_append {word : String} {front : List Char} (h : Spells word front)
    (rest : List Char) : dropWord? word.toList (front ++ rest) = some rest :=
  dropWord?_eq_some_iff.mpr ⟨front, rfl, h⟩

/-- A word starts neither inside a text that lacks it nor at the end of one. -/
theorem Lacks.not_spells {word : String} {first : Char} {tail : List Char}
    (hword : word.toList = first :: tail) (hfirst : first ∉ tail) {filler rest : List Char}
    (hlacks : Lacks word filler) (hfiller : filler ≠ []) (hrest : ∀ c ∈ rest.head?, fold c = first)
    {front after : List Char} (h : filler ++ rest = front ++ after) : ¬ Spells word front := by
  intro hspells
  apply hlacks
  rcases List.append_eq_append_iff.mp h with ⟨beyond, rfl, hafter⟩ | ⟨within, rfl, -⟩
  · -- The word would go on behind the filler, with the character that is at its front only.
    cases beyond with
    | nil => exact hspells ▸ (by simp)
    | cons c beyond =>
      obtain ⟨d, filler, rfl⟩ := List.exists_cons_of_ne_nil hfiller
      have hc : fold c = first := hrest c (by simp [hafter])
      have htail : filler.map fold ++ fold c :: beyond.map fold = tail := by
        have hspelled :
            fold d :: (filler.map fold ++ fold c :: beyond.map fold) = first :: tail := by
          rw [← hword, ← hspells]
          simp
        exact (List.cons.inj hspelled).2
      exact absurd (by rw [← htail, hc]; simp) hfirst
  · rw [← hspells, List.map_append]
    exact List.infix_append' [] _ _

theorem Lacks.tail {word : String} {c : Char} {cs : List Char} (h : Lacks word (c :: cs)) :
    Lacks word cs := by
  intro hinfix
  apply h
  exact hinfix.trans (List.suffix_cons (fold c) (cs.map fold)).isInfix

end LinkedData.Text
