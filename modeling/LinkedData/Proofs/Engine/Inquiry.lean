import LinkedData.Path
import Mathlib.Tactic.Choose

/-!
# LinkedData.Proofs.Engine.Inquiry -- computations that only ask

Following paths and filling in records use an engine for nothing but its answers, and a
vocabulary for nothing but the predicates of paths. An `Inquiry` is such a use written out as
a tree of questions: which question comes next depends on the answers so far. It has no way
to fail of its own, nor to look at an answer that is a failure.

A computation that `IsInquiry` is the same tree run against every engine and vocabulary.
Whatever the engine does, the run goes on as long as the questions are answered, and ends in
the first failure that an answer is.
-/

namespace LinkedData

open LinkedData.Query LinkedData.Rdf

/-- What a computation asks on its way: the solutions of a query, or the predicates of a
path. -/
inductive Question where
  | solutions (query : Select)
  | predicates (path : Path)

/-- The answers that a question can have. -/
abbrev Question.Answer : Question → Type
  | .solutions _ => List Binding
  | .predicates _ => List Iri

/-- The query of a question that is put to an engine. -/
def Question.query? : Question → Option Select
  | .solutions query => some query
  | .predicates _ => none

/-- A course of questions. -/
inductive Inquiry (α : Type) where
  | done (result : α)
  | ask (question : Question) (next : question.Answer → Inquiry α)

/-- A question that was asked, and the failure that its answer was. -/
structure Event where
  question : Question
  failure : Option Failure

/-- The queries among the questions that were asked. -/
def queries (log : List Event) : List Select :=
  log.filterMap fun event => event.question.query?

/-- Every question but the last was answered, and the result is the failure of the last one;
or all were answered, and there is a result. -/
inductive EndsAtFirstFailure {α : Type} : List Event → Except Failure α → Prop
  | answered {log : List Event} {result : α} :
      (∀ event ∈ log, event.failure = none) → EndsAtFirstFailure log (.ok result)
  | failed {before : List Event} {question : Question} {failure : Failure} :
      (∀ event ∈ before, event.failure = none) →
      EndsAtFirstFailure (before ++ [⟨question, some failure⟩]) (.error failure)

/-- Solutions come from an engine, and predicates from a vocabulary. -/
def Engine.answers {m : Type → Type} [Monad m] (e : Engine m) (v : Vocabulary) :
    (question : Question) → Ask m question.Answer
  | .solutions query => e.answer query
  | .predicates path =>
    match path.predicates v with
    | .ok predicates => pure predicates
    | .error failure => throw failure

/-- The failure that an outcome is. -/
def failureOf {α : Type} : Except Failure α → Option Failure
  | .ok _ => none
  | .error failure => some failure

/-- The same answers, with a log of the questions as they are asked. -/
def logged {m : Type → Type} [Monad m] (answers : (question : Question) → Ask m question.Answer)
    (question : Question) : Ask (StateT (List Event) m) question.Answer :=
  ExceptT.mk fun log => do
    let outcome ← (answers question).run
    return (outcome, log ++ [⟨question, failureOf outcome⟩])

namespace Inquiry

variable {α β : Type}

section Run

variable {m : Type → Type} [Monad m]

/-- Asks the questions one after another. -/
def run (answers : (question : Question) → Ask m question.Answer) : Inquiry α → Ask m α
  | .done result => pure result
  | .ask question next => answers question >>= fun answer => run answers (next answer)

/-- Goes on with the result of an inquiry. -/
def bind (i : Inquiry α) (f : α → Inquiry β) : Inquiry β :=
  match i with
  | .done result => f result
  | .ask question next => .ask question fun answer => (next answer).bind f

theorem run_bind [LawfulMonad m] (answers : (question : Question) → Ask m question.Answer)
    (i : Inquiry α) (f : α → Inquiry β) :
    (i.bind f).run answers = i.run answers >>= fun a => (f a).run answers := by
  induction i with
  | done result => rw [bind, run, pure_bind]
  | ask question next ih => simp only [bind, run, ih, bind_assoc]

end Run

/-! ## Up to the first failure -/

variable {σ : Type} (e : Engine (StateM σ)) (v : Vocabulary)

theorem run_logged_question (question : Question) (before : List Event) {s s' : σ}
    {outcome : Except Failure question.Answer}
    (h : (e.answers v question).run.run s = (outcome, s')) :
    ((logged (e.answers v) question).run.run before).run s =
      ((outcome, before ++ [⟨question, failureOf outcome⟩]), s') := by
  have hlogged : ((logged (e.answers v) question).run.run before).run s =
      (fun r => ((r.1, before ++ [⟨question, failureOf r.1⟩]), r.2))
        ((e.answers v question).run.run s) := rfl
  rw [hlogged, h]

/-- An engine that records its queries records those among the questions. -/
theorem run_recorded_question (question : Question) (before : List Event) {s s' : σ}
    {outcome : Except Failure question.Answer}
    (h : (e.answers v question).run.run s = (outcome, s')) :
    ((e.recorded.answers v question).run.run (queries before)).run s =
      ((outcome, queries (before ++ [⟨question, failureOf outcome⟩])), s') := by
  cases question with
  | solutions query =>
    have hqueries : queries (before ++ [⟨.solutions query, failureOf outcome⟩]) =
        queries before ++ [query] := by
      simp [queries, Question.query?]
    rw [hqueries]
    have hrecorded : ((e.recorded.answers v (.solutions query)).run.run (queries before)).run s =
        (fun r => ((r.1, queries before ++ [query]), r.2))
          ((e.answers v (.solutions query)).run.run s) := rfl
    rw [hrecorded, h]
  | predicates path =>
    have hqueries : queries (before ++ [⟨.predicates path, failureOf outcome⟩]) =
        queries before := by
      simp [queries, Question.query?]
    rw [hqueries]
    cases hpredicates : path.predicates v with
    | ok predicates =>
      simp only [Engine.answers, hpredicates] at h ⊢
      cases h
      rfl
    | error failure =>
      simp only [Engine.answers, hpredicates] at h ⊢
      cases h
      rfl

/-- What a run asks is the same with a log and with a record of the queries, and it stops at
the first failure. -/
theorem run_logged (i : Inquiry α) (before : List Event) (s : σ) :
    ∃ log result s',
      ((i.run (logged (e.answers v))).run.run before).run s = ((result, before ++ log), s') ∧
      (i.run (e.answers v)).run.run s = (result, s') ∧
      ((i.run (e.recorded.answers v)).run.run (queries before)).run s =
        ((result, queries (before ++ log)), s') ∧
      EndsAtFirstFailure log result := by
  -- The induction is on the tree, for any log of what was asked before it.
  induction i generalizing before s with
  | done result =>
    refine ⟨[], .ok result, s, ?_, rfl, ?_, .answered (by simp)⟩
    · rw [List.append_nil]; rfl
    · rw [List.append_nil]; rfl
  | ask question next ih =>
    rcases h : (e.answers v question).run.run s with ⟨outcome, s₁⟩
    have hl := run_logged_question e v question before h
    have hr := run_recorded_question e v question before h
    simp only [run, ExceptT.run_bind, StateT.run_bind]
    rw [hl, hr, h]
    cases outcome with
    | error failure =>
      have hends : EndsAtFirstFailure (α := α) ([] ++ [⟨question, some failure⟩])
          (.error failure) := .failed (by simp)
      exact ⟨[⟨question, some failure⟩], .error failure, s₁, rfl, rfl, rfl, hends⟩
    | ok answer =>
      obtain ⟨log, result, s', hlog, hplain, hrecord, hends⟩ :=
        ih answer (before ++ [⟨question, none⟩]) s₁
      refine ⟨⟨question, none⟩ :: log, result, s', ?_, hplain, ?_, ?_⟩
      · rw [List.append_cons before _ log]
        exact hlog
      · rw [List.append_cons before _ log]
        exact hrecord
      · cases hends with
        | answered hall => exact .answered (List.forall_mem_cons.mpr ⟨rfl, hall⟩)
        | failed hall =>
          rw [← List.cons_append]
          exact .failed (List.forall_mem_cons.mpr ⟨rfl, hall⟩)

/-- A record of the queries changes nothing about what a run comes to, on top of anything. -/
theorem run_recorded {m : Type → Type} [Monad m] [LawfulMonad m] (e : Engine m) (v : Vocabulary)
    (i : Inquiry α) (asked : List Select) :
    Prod.fst <$> (i.run (e.recorded.answers v)).run.run asked = (i.run (e.answers v)).run := by
  induction i generalizing asked with
  | done result =>
    exact map_pure Prod.fst (Except.ok result, asked)
  | ask question next ih =>
    simp only [run, ExceptT.run_bind, StateT.run_bind, map_bind]
    cases question with
    | solutions query =>
      have hrecorded : (e.recorded.answers v (.solutions query)).run.run asked =
          (e.answer query).run >>= fun outcome => pure (outcome, asked ++ [query]) := rfl
      rw [hrecorded, bind_assoc]
      refine bind_congr fun outcome => ?_
      rw [pure_bind]
      cases outcome with
      | ok bindings => exact ih bindings _
      | error failure => exact map_pure Prod.fst (Except.error failure, asked ++ [query])
    | predicates path =>
      simp only [Engine.answers]
      cases path.predicates v with
      | ok predicates =>
        show (pure (Except.ok predicates, asked) >>= _ : m _) = pure (Except.ok predicates) >>= _
        rw [pure_bind, pure_bind]
        exact ih predicates asked
      | error failure =>
        show (pure (Except.error failure, asked) >>= _ : m _) = pure (Except.error failure) >>= _
        rw [pure_bind, pure_bind]
        exact map_pure Prod.fst (Except.error failure, asked)

end Inquiry

/-! ## Computations that are inquiries -/

/-- A computation over any engine and vocabulary. -/
abbrev Asking (α : Type) :=
  (m : Type → Type) → [Monad m] → Engine m → Vocabulary → Ask m α

/-- There is one inquiry that is all that a computation does, whatever the engine and the
vocabulary are. -/
def IsInquiry {α : Type} (x : Asking α) : Prop :=
  ∃ i : Inquiry α, ∀ (m : Type → Type) [Monad m] [LawfulMonad m] (e : Engine m)
    (v : Vocabulary), x m e v = i.run (e.answers v)

namespace IsInquiry

variable {α β : Type}

/-- Over lawful monads the same computation may be written in another way. -/
theorem congr {x y : Asking α} (hy : IsInquiry y)
    (h : ∀ (m : Type → Type) [Monad m] [LawfulMonad m] (e : Engine m) (v : Vocabulary),
      x m e v = y m e v) : IsInquiry x := by
  obtain ⟨i, hi⟩ := hy
  exact ⟨i, fun m _ _ e v => (h m e v).trans (hi m e v)⟩

theorem pure (a : α) : IsInquiry fun _ _ _ _ => Pure.pure a :=
  ⟨.done a, fun _ _ _ _ _ => rfl⟩

/-- Two inquiries, one after the other, are an inquiry. -/
theorem bind {x : Asking α} {f : α → Asking β} (hx : IsInquiry x) (hf : ∀ a, IsInquiry (f a)) :
    IsInquiry fun m _ e v => x m e v >>= fun a => f a m e v := by
  obtain ⟨i, hi⟩ := hx
  choose next hnext using hf
  refine ⟨i.bind next, fun m _ _ e v => ?_⟩
  show x m e v >>= _ = _
  rw [Inquiry.run_bind, hi m e v]
  exact bind_congr fun a => hnext a m e v

theorem question (q : Question) : IsInquiry fun _ _ e v => e.answers v q :=
  ⟨.ask q .done, fun _ _ _ e v => (bind_pure (e.answers v q)).symm⟩

theorem mapM {f : α → Asking β} (hf : ∀ a, IsInquiry (f a)) (xs : List α) :
    IsInquiry fun m _ e v => xs.mapM fun a => f a m e v := by
  induction xs with
  | nil => exact .pure []
  | cons x xs ih =>
    have hsteps : IsInquiry fun m _ e v => f x m e v >>= fun y =>
        (xs.mapM fun a => f a m e v) >>= fun ys => Pure.pure (y :: ys) :=
      .bind (hf x) fun y => .bind ih fun ys => .pure (y :: ys)
    exact hsteps.congr fun _ _ _ _ _ => List.mapM_cons

/-! ## Following a path -/

theorem objects (scope : Scope) (predicate : Iri) (t : Term) :
    IsInquiry fun _ _ e _ => Path.objects e scope predicate t :=
  .bind (.question (.solutions (.objectsOf t predicate scope))) fun _ => .pure _

theorem step (scope : Scope) (predicate : Iri) (frontier : List Term) :
    IsInquiry fun _ _ e _ => Path.step e scope predicate frontier :=
  .bind (.mapM (fun t => .objects scope predicate t) _) fun found => .pure found.flatten

theorem walk (scope : Scope) (predicates : List Iri) (frontier : List Term) :
    IsInquiry fun _ _ e _ => Path.walk e scope predicates frontier := by
  induction predicates generalizing frontier with
  | nil => exact .pure frontier
  | cons p ps ih =>
    refine .bind (.step scope p frontier) fun next => ?_
    by_cases hnext : next.isEmpty
    · simp only [hnext, if_true]
      exact .pure []
    · simp only [hnext]
      exact ih next

theorem evaluate (start : Term) (path : Path) :
    IsInquiry fun _ _ e v => path.evaluate e v start := by
  have hsteps : IsInquiry fun _ _ e v => e.answers v (.predicates path) >>=
      fun predicates => Path.walk e path.scope predicates [start] :=
    .bind (.question (.predicates path)) fun predicates => .walk path.scope predicates [start]
  refine hsteps.congr fun m _ _ e v => ?_
  cases hpredicates : path.predicates v with
  | ok predicates => simp only [Path.evaluate, Engine.answers, hpredicates, pure_bind]
  | error failure =>
    simp only [Path.evaluate, Engine.answers, hpredicates]
    refine ExceptT.ext ?_
    simp only [ExceptT.run_bind, ExceptT.run_throw, pure_bind]

end IsInquiry

/-! ## What inquiries come to -/

/-- Whatever the answers are, an inquiry that comes to a result comes to one with a property. -/
inductive Inquiry.EndsWith {α : Type} (P : α → Prop) : Inquiry α → Prop
  | done {result : α} : P result → EndsWith P (.done result)
  | ask {question : Question} {next : question.Answer → Inquiry α} :
      (∀ answer, EndsWith P (next answer)) → EndsWith P (.ask question next)

/-- A computation is an inquiry, and its results have a property. -/
def Yields {α : Type} (P : α → Prop) (x : Asking α) : Prop :=
  ∃ i : Inquiry α, i.EndsWith P ∧ ∀ (m : Type → Type) [Monad m] [LawfulMonad m] (e : Engine m)
    (v : Vocabulary), x m e v = i.run (e.answers v)

namespace Yields

variable {α β : Type} {P : α → Prop} {Q : β → Prop}

theorem congr {x y : Asking α} (hy : Yields P y)
    (h : ∀ (m : Type → Type) [Monad m] [LawfulMonad m] (e : Engine m) (v : Vocabulary),
      x m e v = y m e v) : Yields P x := by
  obtain ⟨i, hends, hi⟩ := hy
  exact ⟨i, hends, fun m _ _ e v => (h m e v).trans (hi m e v)⟩

/-- Nothing is said about the results of an inquiry. -/
theorem anything {x : Asking α} (hx : IsInquiry x) : Yields (fun _ => True) x := by
  obtain ⟨i, hi⟩ := hx
  refine ⟨i, ?_, hi⟩
  clear hi
  induction i with
  | done result => exact .done trivial
  | ask question next ih => exact .ask ih

theorem pure {a : α} (h : P a) : Yields P fun _ _ _ _ => Pure.pure a :=
  ⟨.done a, .done h, fun _ _ _ _ _ => rfl⟩

/-- What comes after an inquiry may rely on what its results have in common. -/
theorem bind {x : Asking α} {f : α → Asking β} (hx : Yields P x)
    (hf : ∀ a, P a → Yields Q (f a)) : Yields Q fun m _ e v => x m e v >>= fun a => f a m e v := by
  obtain ⟨i, hends, hi⟩ := hx
  have hsteps : Yields Q fun m _ e v => i.run (e.answers v) >>= fun a => f a m e v := by
    clear hi
    induction hends with
    | @done result h => exact (hf result h).congr fun m _ _ e v => pure_bind result _
    | @ask question next _ ih =>
      choose later hlater hrun using ih
      refine ⟨.ask question later, .ask hlater, fun m _ _ e v => ?_⟩
      simp only [Inquiry.run, bind_assoc]
      exact bind_congr fun answer => hrun answer m e v
  exact hsteps.congr fun m _ _ e v => by rw [hi m e v]

theorem mapM {f : α → Asking β} (hf : ∀ a, Yields Q (f a)) (xs : List α) :
    Yields (fun ys => ∀ y ∈ ys, Q y) fun m _ e v => xs.mapM fun a => f a m e v := by
  induction xs with
  | nil => exact .pure nofun
  | cons x xs ih =>
    have hsteps : Yields (fun ys => ∀ y ∈ ys, Q y) fun m _ e v => f x m e v >>= fun y =>
        (xs.mapM fun a => f a m e v) >>= fun ys => Pure.pure (y :: ys) :=
      .bind (hf x) fun y hy => .bind ih fun ys hys =>
        .pure (List.forall_mem_cons.mpr ⟨hy, hys⟩)
    exact hsteps.congr fun _ _ _ _ _ => List.mapM_cons

end Yields

end LinkedData
