import LinkedData.Engine
import Mathlib.Data.List.Forall2

/-!
# LinkedData.Proofs.Engine.Success -- what it takes to succeed

Over a graph a computation needs nothing but the graph, so it either is a result or a
failure. A computation in steps is a result exactly when each of its steps is one, and otherwise
it is the failure of the first step that is none; on top of anything, nothing is done after a step
that fails.
-/

namespace LinkedData.Ask

variable {α β : Type}

theorem pure_inj {a b : α} : (pure a : Ask Id α) = pure b ↔ a = b := by
  constructor
  · intro h
    exact Except.ok.inj h
  · rintro rfl
    rfl

/-- Two steps succeed when the first does and the second does with its result. -/
theorem bind_eq_pure {x : Ask Id α} {f : α → Ask Id β} {b : β} :
    x >>= f = pure b ↔ ∃ a, x = pure a ∧ f a = pure b := by
  constructor
  · intro h
    match x, h with
    | .ok a, h => exact ⟨a, rfl, h⟩
  · rintro ⟨a, rfl, h⟩
    exact h

/-- A step for each item succeeds when all of them do. -/
theorem mapM_eq_pure {f : α → Ask Id β} {xs : List α} {ys : List β} :
    xs.mapM f = pure ys ↔ List.Forall₂ (fun x y => f x = pure y) xs ys := by
  induction xs generalizing ys with
  | nil => rw [List.mapM_nil, pure_inj, List.forall₂_nil_left_iff, eq_comm]
  | cons x xs ih =>
    rw [List.mapM_cons, bind_eq_pure, List.forall₂_cons_left_iff]
    constructor
    · rintro ⟨y, hy, h⟩
      obtain ⟨rest, hrest, h⟩ := bind_eq_pure.mp h
      exact ⟨y, rest, hy, ih.mp hrest, (pure_inj.mp h).symm⟩
    · rintro ⟨y, rest, hy, hrest, rfl⟩
      exact ⟨y, hy, bind_eq_pure.mpr ⟨rest, ih.mpr hrest, rfl⟩⟩

/-! ## The first failure -/

theorem throw_inj {failure failure' : Failure} :
    (throw failure : Ask Id α) = throw failure' ↔ failure = failure' := by
  constructor
  · intro h
    exact Except.error.inj h
  · rintro rfl
    rfl

theorem pure_ne_throw {a : α} {failure : Failure} : (pure a : Ask Id α) ≠ throw failure := by
  intro h
  cases h

theorem pure_or_throw (x : Ask Id α) : (∃ a, x = pure a) ∨ ∃ failure, x = throw failure :=
  match x with
  | .ok a => .inl ⟨a, rfl⟩
  | .error failure => .inr ⟨failure, rfl⟩

/-- Two steps fail when the first does, or it succeeds and the second fails. -/
theorem bind_eq_throw {x : Ask Id α} {f : α → Ask Id β} {failure : Failure} :
    x >>= f = throw failure ↔ x = throw failure ∨ ∃ a, x = pure a ∧ f a = throw failure := by
  constructor
  · intro h
    match x, h with
    | .ok a, h => exact .inr ⟨a, rfl, h⟩
    | .error failure', h => exact .inl (congrArg _ (Except.error.inj h))
  · rintro (rfl | ⟨a, rfl, h⟩)
    · rfl
    · exact h

/-- What is made of a result cannot fail. -/
theorem map_eq_throw {x : Ask Id α} {f : α → β} {failure : Failure} :
    (x >>= fun a => pure (f a)) = throw failure ↔ x = throw failure := by
  rw [bind_eq_throw, or_iff_left]
  rintro ⟨a, -, h⟩
  exact pure_ne_throw h

/-- A step for each item fails at the first item whose step does. -/
theorem mapM_eq_throw {f : α → Ask Id β} {xs : List α} {failure : Failure} :
    xs.mapM f = throw failure ↔ ∃ before x after ys, xs = before ++ x :: after ∧
      before.mapM f = pure ys ∧ f x = throw failure := by
  constructor
  · intro h
    induction xs with
    | nil => exact absurd h pure_ne_throw
    | cons x xs ih =>
      rw [List.mapM_cons, bind_eq_throw] at h
      rcases h with hx | ⟨y, hy, h⟩
      · exact ⟨[], x, xs, [], rfl, rfl, hx⟩
      · rcases bind_eq_throw.mp h with hxs | ⟨ys, -, h⟩
        · obtain ⟨before, x', after, ys, rfl, hbefore, hx'⟩ := ih hxs
          refine ⟨x :: before, x', after, y :: ys, rfl, ?_, hx'⟩
          rw [List.mapM_cons, hy, hbefore, pure_bind, pure_bind]
        · exact absurd h pure_ne_throw
  · rintro ⟨before, x, after, ys, rfl, hbefore, hx⟩
    rw [List.mapM_append, hbefore, pure_bind, List.mapM_cons, hx]
    rfl

/-! ## Steps on top of anything -/

section Steps

variable {m : Type → Type} [Monad m] [LawfulMonad m]

/-- Nothing is done after a failure. -/
theorem throw_bind (failure : Failure) (f : α → Ask m β) :
    (throw failure : Ask m α) >>= f = throw failure := by
  refine ExceptT.ext ?_
  simp only [ExceptT.run_bind, ExceptT.run_throw, pure_bind]

/-- A step for each item depends on the steps for those items alone. -/
theorem mapM_congr {f f' : α → Ask m β} {xs : List α} (h : ∀ x ∈ xs, f x = f' x) :
    xs.mapM f = xs.mapM f' := by
  induction xs with
  | nil => rfl
  | cons x xs ih =>
    rw [List.mapM_cons, List.mapM_cons, h x List.mem_cons_self,
      ih fun y hy => h y (List.mem_cons_of_mem x hy)]

end Steps

end LinkedData.Ask
