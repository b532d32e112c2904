/-
# LinkedData.Dict -- finite maps from names, kept in order

A dictionary is a list of entries sorted by key, each key once, so two dictionaries with the
same entries are the same list. Keys compare by code points, which is also the byte order of
their UTF-8 form. Dictionaries are built from the empty one by `insert` alone.
-/

namespace LinkedData

/-- The entries of a finite map, sorted by key. -/
abbrev Dict (β : Type) := List (String × β)

namespace Dict

variable {β : Type}

/-- Adds an entry in its place, or replaces the value of its key. -/
def insert (key : String) (value : β) : Dict β → Dict β
  | [] => [(key, value)]
  | (k, v) :: rest =>
    if key < k then (key, value) :: (k, v) :: rest
    else if key = k then (key, value) :: rest
    else (k, v) :: insert key value rest

/-- The entries of a list of pairs, of which a later one wins. -/
def ofPairs (pairs : List (String × β)) : Dict β :=
  pairs.foldl (fun d p => insert p.1 p.2 d) []

/-- The value of a key. -/
def find? (d : Dict β) (key : String) : Option β :=
  match d with
  | [] => none
  | (k, v) :: rest => if k = key then some v else find? rest key

/-- Whether a key has a value. -/
def has (d : Dict β) (key : String) : Bool :=
  (d.find? key).isSome

/-- The keys in order. -/
def keys (d : Dict β) : List String :=
  d.map (·.1)

@[simp] theorem find?_nil (key : String) : find? ([] : Dict β) key = none := rfl

theorem find?_insert (d : Dict β) (key k : String) (value : β) :
    find? (insert key value d) k = if key = k then some value else find? d k := by
  induction d with
  | nil => simp [insert, find?]
  | cons p rest ih =>
    obtain ⟨k', v⟩ := p
    unfold insert
    split
    · simp [find?]
    · split
      · rename_i heq
        subst heq
        by_cases h : key = k <;> simp [find?, h]
      · rename_i hne
        by_cases h : k' = k
        · subst h
          simp [find?, hne]
        · simp [find?, h, ih]

end Dict

end LinkedData
