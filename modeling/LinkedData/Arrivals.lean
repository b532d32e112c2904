/-
# LinkedData.Arrivals -- items that arrive one by one

Items arrive in order, and any of them may be a fault instead. A collection is everything
that arrives when nothing is faulty; otherwise it is the first fault, and what came before it
is dropped.
-/

namespace LinkedData

/-- Items in the order in which they arrive, or faults in their places. -/
abbrev Arrivals (ε α : Type) := List (Except ε α)

namespace Arrivals

variable {ε α : Type}

/-- Everything that arrives, or the first fault. -/
def collect : Arrivals ε α → Except ε (List α)
  | [] => .ok []
  | .ok x :: rest =>
    match collect rest with
    | .ok xs => .ok (x :: xs)
    | .error e => .error e
  | .error e :: _ => .error e

@[simp] theorem collect_map_ok (xs : List α) :
    collect (xs.map (.ok : α → Except ε α)) = .ok xs := by
  induction xs with
  | nil => rfl
  | cons x xs ih => simp [collect, ih]

theorem collect_eq_ok_iff {a : Arrivals ε α} {xs : List α} :
    collect a = .ok xs ↔ a = xs.map .ok := by
  constructor
  · intro h
    induction a generalizing xs with
    | nil => cases h; rfl
    | cons item rest ih =>
      cases item with
      | error e => cases h
      | ok x =>
        cases hrest : collect rest with
        | error e => simp [collect, hrest] at h
        | ok ys =>
          simp only [collect, hrest, Except.ok.injEq] at h
          subst h
          simp [ih hrest]
  · rintro rfl
    exact collect_map_ok xs

/-- A fault among the arrivals is met after the items before it. -/
theorem collect_append_error (xs : List α) (e : ε) (rest : Arrivals ε α) :
    collect (xs.map .ok ++ .error e :: rest) = .error e := by
  induction xs with
  | nil => rfl
  | cons x xs ih => simp [collect, ih]

end Arrivals

end LinkedData
