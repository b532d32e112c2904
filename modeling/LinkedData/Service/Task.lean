import LinkedData.Service.Statistics
import LinkedData.Source.Basic

/-!
# LinkedData.Service.Task -- work in steps

A task is what a request still has to do: call for a source and go on with what it answers,
or count an event and go on. Each call and each count is one step, so that the steps of
several tasks can be interleaved. Nothing in a task can look at the counters.
-/

namespace LinkedData.Service

/-- Work that ends with a result. -/
inductive Task (α : Type) where
  | done (result : α)
  | call (url : String) (next : Except Failure Source.Opened → Task α)
  | count (event : Event) (next : Task α)

namespace Task

variable {α β : Type}

/-- Goes on with the result of a task. -/
def bind (t : Task α) (f : α → Task β) : Task β :=
  match t with
  | .done result => f result
  | .call url next => .call url fun answer => (next answer).bind f
  | .count event next => .count event (next.bind f)

instance : Monad Task where
  pure := .done
  bind := bind

theorem bind_done (t : Task α) : t.bind .done = t := by
  induction t with
  | done result => rfl
  | call url next ih => simp [bind, ih]
  | count event next ih => simp [bind, ih]

theorem bind_assoc {γ : Type} (t : Task α) (f : α → Task β) (g : β → Task γ) :
    (t.bind f).bind g = t.bind fun x => (f x).bind g := by
  induction t with
  | done result => rfl
  | call url next ih => simp [bind, ih]
  | count event next ih => simp [bind, ih]

instance : LawfulMonad Task :=
  LawfulMonad.mk' Task bind_done (fun _ _ => rfl) bind_assoc

/-- Counts an event. -/
def record (event : Event) : Task Unit :=
  .count event (.done ())

/-- What is counted about the answer to a call. -/
def outcome : Except Failure Source.Opened → Event
  | .ok source => .dereferenced source.format.mediaType
  | .error _ => .dereferenceFailed

/-- Opens sources and counts what came of it. -/
def dereferencer : Source.Dereferencer Task where
  dereference url := ExceptT.mk (.call url fun answer => .count (outcome answer) (.done answer))

/-- Does all the work of a task without a break. -/
def run {m : Type → Type} [Monad m] (d : Source.Dereferencer m) :
    Task α → Statistics → m (α × Statistics)
  | .done result, s => pure (result, s)
  | .call url next, s => do
    let answer ← (d.dereference url).run
    (next answer).run d s
  | .count event next, s => next.run d (s.record event)

end Task

end LinkedData.Service
