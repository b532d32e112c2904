import LinkedData.Dict
import Mathlib.Data.List.Induction
import Mathlib.Data.String.Basic

/-!
# LinkedData.Proofs.Dict.Ordered -- dictionaries are determined by their look-ups

The keys of a dictionary increase. Inserting and dropping entries keep it so, and two
dictionaries in which every key has the same value are the same list. A statement about the
values of a dictionary is therefore a statement about the dictionary.
-/

namespace LinkedData.Dict

variable {β : Type}

/-- The keys increase, so each key stands once. -/
def Ordered (d : Dict β) : Prop :=
  d.Pairwise fun a b => a.1 < b.1

theorem ordered_nil : Ordered ([] : Dict β) :=
  List.Pairwise.nil

theorem mem_of_mem_insert {d : Dict β} {key : String} {value : β} {e : String × β}
    (h : e ∈ insert key value d) : e = (key, value) ∨ e ∈ d := by
  induction d with
  | nil => exact Or.inl (List.mem_singleton.mp h)
  | cons p rest ih =>
    obtain ⟨k, v⟩ := p
    unfold insert at h
    split at h
    · exact List.mem_cons.mp h
    · split at h
      · rcases List.mem_cons.mp h with h | h
        · exact Or.inl h
        · exact Or.inr (List.mem_cons_of_mem _ h)
      · rcases List.mem_cons.mp h with rfl | h
        · exact Or.inr (List.mem_cons_self ..)
        · rcases ih h with h | h
          · exact Or.inl h
          · exact Or.inr (List.mem_cons_of_mem _ h)

theorem insert_ne_nil (key : String) (value : β) (d : Dict β) : Dict.insert key value d ≠ [] := by
  cases d with
  | nil => exact List.cons_ne_nil _ _
  | cons p rest =>
    unfold Dict.insert
    split
    · exact List.cons_ne_nil _ _
    · split <;> exact List.cons_ne_nil _ _

theorem Ordered.insert {d : Dict β} (hd : d.Ordered) (key : String) (value : β) :
    Ordered (Dict.insert key value d) := by
  induction d with
  | nil => exact List.pairwise_singleton _ _
  | cons p rest ih =>
    obtain ⟨k, v⟩ := p
    obtain ⟨hfirst, hrest⟩ := List.pairwise_cons.mp hd
    unfold Dict.insert
    split
    · rename_i hlt
      refine List.pairwise_cons.mpr ⟨?_, hd⟩
      intro e he
      rcases List.mem_cons.mp he with rfl | he
      · exact hlt
      · exact lt_trans hlt (hfirst e he)
    · rename_i hnlt
      split
      · rename_i heq
        subst heq
        exact List.pairwise_cons.mpr ⟨hfirst, hrest⟩
      · rename_i hne
        have hlt : k < key := lt_of_le_of_ne (not_lt.mp hnlt) (Ne.symm hne)
        refine List.pairwise_cons.mpr ⟨?_, ih hrest⟩
        intro e he
        rcases mem_of_mem_insert he with rfl | he
        · exact hlt
        · exact hfirst e he

theorem Ordered.filter {d : Dict β} (hd : d.Ordered) (keep : String × β → Bool) :
    Ordered (d.filter keep) :=
  List.Pairwise.filter keep hd

/-- An entry with the greatest key stands at the end. -/
theorem insert_last {d : Dict β} {key : String} (h : ∀ e ∈ d, e.1 < key) (value : β) :
    Dict.insert key value d = d ++ [(key, value)] := by
  induction d with
  | nil => rfl
  | cons p rest ih =>
    have hlt : p.1 < key := h p (List.mem_cons_self ..)
    rw [Dict.insert, if_neg (not_lt.mpr hlt.le), if_neg hlt.ne', List.cons_append,
      ih fun e he => h e (List.mem_cons_of_mem _ he)]

theorem insert_after {k k' : String} (h : k < k') (v v' : β) :
    Dict.insert k' v' [(k, v)] = [(k, v), (k', v')] :=
  insert_last (by simpa using h) v'

theorem insert_before {k k' : String} (h : k' < k) (v v' : β) :
    Dict.insert k' v' [(k, v)] = [(k', v'), (k, v)] := by
  rw [Dict.insert, if_pos h]

/-- Of two values of one key the later one counts. -/
theorem insert_insert (key : String) (v v' : β) (d : Dict β) :
    Dict.insert key v (Dict.insert key v' d) = Dict.insert key v d := by
  induction d with
  | nil => simp [Dict.insert]
  | cons p rest ih =>
    obtain ⟨k, u⟩ := p
    by_cases hlt : key < k
    · simp [Dict.insert, hlt]
    · by_cases heq : key = k
      · subst heq
        simp [Dict.insert]
      · simp [Dict.insert, hlt, heq, ih]

/-- Two entries stand in the order of their keys, whichever comes first. -/
theorem insert_comm {k k' : String} (h : k ≠ k') (v v' : β) (d : Dict β) :
    Dict.insert k v (Dict.insert k' v' d) = Dict.insert k' v' (Dict.insert k v d) := by
  induction d with
  | nil =>
    rcases lt_or_gt_of_ne h with hlt | hlt
    · exact (insert_before hlt v' v).trans (insert_after hlt v v').symm
    · exact (insert_after hlt v' v).trans (insert_before hlt v v').symm
  | cons p rest ih =>
    obtain ⟨l, u⟩ := p
    -- The first key says where each of the two goes; only in front of it do they meet.
    rcases lt_trichotomy k l with hk | hk | hk <;> rcases lt_trichotomy k' l with hk' | hk' | hk'
    · rcases lt_or_gt_of_ne h with hlt | hlt
      · simp [Dict.insert, hk, hk', hlt, hlt.not_gt, h.symm]
      · simp [Dict.insert, hk, hk', hlt, hlt.not_gt, h]
    · subst hk'
      simp [Dict.insert, hk, hk.not_gt, h.symm]
    · have hlt := hk.trans hk'
      simp [Dict.insert, hk, hk'.not_gt, hk'.ne', hlt.not_gt, h.symm]
    · subst hk
      simp [Dict.insert, hk', hk'.not_gt, h]
    · exact absurd (hk.trans hk'.symm) h
    · subst hk
      simp [Dict.insert, hk'.not_gt, h.symm]
    · have hlt := hk'.trans hk
      simp [Dict.insert, hk', hk.not_gt, hk.ne', hlt.not_gt, h]
    · subst hk'
      simp [Dict.insert, hk.not_gt, h]
    · simp [Dict.insert, hk.not_gt, hk'.not_gt, hk.ne', hk'.ne', ih]

theorem insert_swap {k k' : String} (h : k ≠ k') (v v' : β) :
    Dict.insert k v [(k', v')] = Dict.insert k' v' [(k, v)] :=
  insert_comm h v v' []

theorem ofPairs_after {k k' : String} (h : k < k') (v v' : β) :
    ofPairs [(k, v), (k', v')] = [(k, v), (k', v')] :=
  insert_after h v v'

theorem ofPairs_before {k k' : String} (h : k' < k) (v v' : β) :
    ofPairs [(k, v), (k', v')] = [(k', v'), (k, v)] :=
  insert_before h v v'

/-- Of the pairs with a key the last one counts. -/
theorem find?_ofPairs (pairs : List (String × β)) (key : String) :
    find? (ofPairs pairs) key = find? pairs.reverse key := by
  induction pairs using List.reverseRecOn with
  | nil => rfl
  | append_singleton pairs p ih =>
    have hlast : ofPairs (pairs ++ [p]) = Dict.insert p.1 p.2 (ofPairs pairs) := List.foldl_concat ..
    rw [hlast, find?_insert, List.reverse_concat, find?, ih]

/-- A key below all keys has no value. -/
theorem find?_eq_none_of_lt {d : Dict β} {key : String} (h : ∀ e ∈ d, key < e.1) :
    d.find? key = none := by
  induction d with
  | nil => rfl
  | cons p rest ih =>
    have hne : p.1 ≠ key := (h p (List.mem_cons_self ..)).ne'
    rw [find?, if_neg hne]
    exact ih fun e he => h e (List.mem_cons_of_mem _ he)

theorem mem_of_find?_eq_some {d : Dict β} {key : String} {value : β}
    (h : d.find? key = some value) : (key, value) ∈ d := by
  induction d with
  | nil => cases h
  | cons p rest ih =>
    obtain ⟨k, v⟩ := p
    rw [find?] at h
    split at h
    · rename_i hk
      subst hk
      rw [Option.some.inj h]
      exact List.mem_cons_self ..
    · exact List.mem_cons_of_mem _ (ih h)

theorem find?_eq_none_of_forall {d : Dict β} {key : String} (h : ∀ e ∈ d, e.1 ≠ key) :
    d.find? key = none := by
  cases hfind : d.find? key with
  | none => rfl
  | some value => exact absurd rfl (h _ (mem_of_find?_eq_some hfind))

/-- In an ordered dictionary an entry is the one that a look-up finds. -/
theorem Ordered.find?_eq_some_iff {d : Dict β} (hd : d.Ordered) {key : String} {value : β} :
    d.find? key = some value ↔ (key, value) ∈ d := by
  refine ⟨mem_of_find?_eq_some, fun hmem => ?_⟩
  induction d with
  | nil => cases hmem
  | cons p rest ih =>
    obtain ⟨hfirst, hrest⟩ := List.pairwise_cons.mp hd
    rcases List.mem_cons.mp hmem with rfl | hmem
    · exact if_pos rfl
    · rw [find?, if_neg (hfirst _ hmem).ne]
      exact ih hrest hmem

/-- A new key goes somewhere between the entries. -/
theorem insert_eq_append {d : Dict β} {key : String} (h : d.find? key = none) (value : β) :
    ∃ before after, d = before ++ after ∧
      Dict.insert key value d = before ++ (key, value) :: after := by
  induction d with
  | nil => exact ⟨[], [], rfl, rfl⟩
  | cons p rest ih =>
    obtain ⟨k, v⟩ := p
    rw [find?] at h
    split at h
    · cases h
    · rename_i hne
      obtain ⟨before, after, rfl, hinsert⟩ := ih h
      rw [Dict.insert, if_neg (Ne.symm hne), hinsert]
      split
      · exact ⟨[], _, rfl, rfl⟩
      · exact ⟨(k, v) :: before, after, rfl, rfl⟩

theorem has_iff {d : Dict β} {key : String} :
    d.has key = true ↔ ∃ value, d.find? key = some value :=
  Option.isSome_iff_exists

theorem not_has_iff {d : Dict β} {key : String} : ¬ d.has key = true ↔ d.find? key = none := by
  rw [Bool.not_eq_true]
  exact Option.isSome_eq_false_iff.trans Option.isNone_iff_eq_none

@[simp] theorem find?_cons_self (key : String) (value : β) (rest : Dict β) :
    find? ((key, value) :: rest) key = some value :=
  if_pos rfl

theorem find?_cons_ne {key k : String} (h : k ≠ key) (value : β) (rest : Dict β) :
    find? ((k, value) :: rest) key = rest.find? key :=
  if_neg h

/-- Cutting a dictionary down to some keys leaves the values of these keys. -/
theorem find?_filter_key (d : Dict β) (keep : String → Bool) (key : String) :
    find? (d.filter fun e => keep e.1) key = if keep key then d.find? key else none := by
  induction d with
  | nil => simp
  | cons p rest ih =>
    obtain ⟨k, v⟩ := p
    by_cases hk : k = key
    · subst hk
      by_cases hkeep : keep k
      · simp [hkeep]
      · rw [List.filter_cons_of_neg (by simpa using hkeep), ih, if_neg hkeep, if_neg hkeep]
    · rw [find?_cons_ne hk]
      by_cases hkeep : keep k
      · rw [List.filter_cons_of_pos (by simpa using hkeep), find?_cons_ne hk, ih]
      · rw [List.filter_cons_of_neg (by simpa using hkeep), ih]

/-- The least keys of two dictionaries with the same values are equal: a smaller one would
have a value in one dictionary alone. -/
theorem Ordered.head_le {k k' : String} {v v' : β} {rest rest' : Dict β}
    (hd' : Ordered ((k', v') :: rest'))
    (heq : ∀ key, find? ((k, v) :: rest) key = find? ((k', v') :: rest') key) : k' ≤ k := by
  by_contra hlt
  have hnone : find? ((k', v') :: rest') k = none := by
    apply find?_eq_none_of_lt
    intro e he
    rcases List.mem_cons.mp he with rfl | he
    · exact not_le.mp hlt
    · exact lt_trans (not_le.mp hlt) ((List.pairwise_cons.mp hd').1 e he)
  rw [← heq k, find?_cons_self] at hnone
  cases hnone

theorem Ordered.ext {d d' : Dict β} (hd : d.Ordered) (hd' : d'.Ordered)
    (heq : ∀ key, d.find? key = d'.find? key) : d = d' := by
  induction d generalizing d' with
  | nil =>
    cases d' with
    | nil => rfl
    | cons p' rest' =>
      obtain ⟨k', v'⟩ := p'
      simpa using heq k'
  | cons p rest ih =>
    obtain ⟨k, v⟩ := p
    cases d' with
    | nil => simpa using heq k
    | cons p' rest' =>
      obtain ⟨k', v'⟩ := p'
      have hk : k = k' :=
        le_antisymm (Ordered.head_le hd fun key => (heq key).symm) (Ordered.head_le hd' heq)
      subst hk
      have hv : v = v' := by simpa using heq k
      subst hv
      obtain ⟨hfirst, hrest⟩ := List.pairwise_cons.mp hd
      obtain ⟨hfirst', hrest'⟩ := List.pairwise_cons.mp hd'
      have htail : rest = rest' := by
        apply ih hrest hrest'
        intro key
        by_cases hkey : k = key
        · subst hkey
          rw [find?_eq_none_of_lt hfirst, find?_eq_none_of_lt hfirst']
        · simpa only [find?_cons_ne hkey] using heq key
      rw [htail]

/-- Adding what is there changes nothing. -/
theorem Ordered.insert_of_find? {d : Dict β} (hd : d.Ordered) {key : String} {value : β}
    (h : d.find? key = some value) : Dict.insert key value d = d := by
  refine Ordered.ext (hd.insert key value) hd fun k => ?_
  rw [find?_insert]
  split
  · rename_i hk
    rw [← hk, h]
  · rfl

/-- In an ordered dictionary what stands in front of an entry has smaller keys. -/
theorem Ordered.lt_of_mem {before rest : Dict β} {entry : String × β}
    (h : Ordered (before ++ entry :: rest)) : ∀ e ∈ before, e.1 < entry.1 :=
  fun e he => (List.pairwise_append.mp h).2.2 e he entry (List.mem_cons_self ..)

/-! ## Conditions on entries -/

/-- An ordered dictionary in which every key and its value satisfy a condition. -/
structure Holds (P : String → β → Prop) (d : Dict β) : Prop where
  ordered : d.Ordered
  entries : ∀ e ∈ d, P e.1 e.2

theorem holds_nil {P : String → β → Prop} : Holds P [] :=
  ⟨ordered_nil, fun _ h => absurd h List.not_mem_nil⟩

theorem Holds.insert {P : String → β → Prop} {d : Dict β} (hd : d.Holds P) {key : String}
    {value : β} (h : P key value) : Holds P (Dict.insert key value d) := by
  refine ⟨hd.ordered.insert key value, ?_⟩
  intro e he
  rcases mem_of_mem_insert he with rfl | he
  · exact h
  · exact hd.entries e he

end LinkedData.Dict
