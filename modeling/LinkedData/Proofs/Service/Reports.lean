import LinkedData.Proofs.Dict.Ordered
import LinkedData.Service.Statistics
import Mathlib.Algebra.BigOperators.Group.List.Basic
import Mathlib.Algebra.Ring.Nat

/-!
# LinkedData.Proofs.Service.Reports -- what the reports of a run add up to

A report shows how much each number has grown since the report before it. The subtraction is
one of natural numbers, so it says something only where the number reported last is not larger.
It never is: events only raise the numbers, and a media type that was seen once keeps its
entry. So each growth, added to what was reported last, is the present number, and the growths
of all reports add up to what the last of them has shown.
-/

namespace LinkedData

theorem Dict.find?_map_value {β γ : Type} (d : Dict β) (f : String → β → γ) (key : String) :
    Dict.find? (d.map fun e => (e.1, f e.1 e.2)) key = (d.find? key).map (f key) := by
  induction d with
  | nil => rfl
  | cons e rest ih =>
    by_cases hkey : e.1 = key
    · simp [Dict.find?, hkey]
    · simp only [List.map_cons, Dict.find?, if_neg hkey, ih]

namespace Service

/-! ## Numbers -/

/-- One of the numbers in the statistics. -/
inductive Counter where
  | quadsAnswered
  | quadsFailed
  | quadsServed
  | businessAnswered
  | businessFailed
  | recordsServed
  | dereferencesFailed
  /-- The sources of a media type that were opened. -/
  | opened (mediaType : String)

/-- The value of a number; that of a media type never seen is zero. -/
def Statistics.read (s : Statistics) : Counter → Nat
  | .quadsAnswered => s.quads.answered
  | .quadsFailed => s.quads.failed
  | .quadsServed => s.quads.items
  | .businessAnswered => s.business.answered
  | .businessFailed => s.business.failed
  | .recordsServed => s.business.items
  | .dereferencesFailed => s.failedDereferences
  | .opened t => s.opened t

/-- How much an event raises a number. -/
def Event.raises : Event → Counter → Nat
  | .quadsServed _, .quadsAnswered => 1
  | .quadsServed n, .quadsServed => n
  | .quadsFailed, .quadsFailed => 1
  | .recordsServed _, .businessAnswered => 1
  | .recordsServed n, .recordsServed => n
  | .recordsFailed, .businessFailed => 1
  | .dereferenced t, .opened t' => if t = t' then 1 else 0
  | .dereferenceFailed, .dereferencesFailed => 1
  | _, _ => 0

theorem Statistics.read_empty (c : Counter) : ({} : Statistics).read c = 0 := by
  cases c <;> rfl

theorem Statistics.opened_record (s : Statistics) (t t' : String) :
    (s.record (.dereferenced t)).opened t' = s.opened t' + if t = t' then 1 else 0 := by
  show (Dict.find? (s.mediaTypes.insert t (s.opened t + 1)) t').getD 0 = _
  rw [Dict.find?_insert]
  by_cases ht : t = t'
  · subst ht
    simp
  · simp [ht, Statistics.opened]

/-- An event raises each number by its own amount and lowers none. -/
theorem Statistics.read_record (s : Statistics) (e : Event) (c : Counter) :
    (s.record e).read c = s.read c + e.raises c := by
  cases e with
  | dereferenced t =>
    cases c with
    | opened t' => exact s.opened_record t t'
    | _ => rfl
  | _ => cases c <;> rfl

theorem Statistics.find?_since (s previous : Statistics) (t : String) :
    (s.since previous).mediaTypes.find? t =
      (s.mediaTypes.find? t).map (· - previous.opened t) :=
  Dict.find?_map_value s.mediaTypes (fun t n => n - previous.opened t) t

/-- A growth is read number by number; a media type that the report before did not know counts
from zero. -/
theorem Statistics.read_since (s previous : Statistics) (c : Counter) :
    (s.since previous).read c = s.read c - previous.read c := by
  cases c with
  | opened t =>
    show ((s.since previous).mediaTypes.find? t).getD 0 =
      (s.mediaTypes.find? t).getD 0 - previous.opened t
    rw [Statistics.find?_since]
    cases s.mediaTypes.find? t with
    | none => simp
    | some n => rfl
  | _ => rfl

theorem Statistics.keys_since (s previous : Statistics) :
    (s.since previous).mediaTypes.keys = s.mediaTypes.keys := by
  show ((s.mediaTypes.map fun e => (e.1, e.2 - previous.opened e.1)).map (·.1)) =
    s.mediaTypes.map (·.1)
  rw [List.map_map]
  rfl

/-- A media type that was seen keeps its entry. -/
theorem Statistics.has_record {s : Statistics} {t : String} (h : s.mediaTypes.has t = true)
    (e : Event) : (s.record e).mediaTypes.has t = true := by
  cases e with
  | dereferenced t' =>
    show (Dict.find? (s.mediaTypes.insert t' (s.opened t' + 1)) t).isSome = true
    rw [Dict.find?_insert]
    by_cases ht : t' = t
    · simp [ht]
    · rw [if_neg ht]
      exact h
  | _ => exact h

/-! ## Runs -/

/-- Something that happens to a log. -/
inductive Happening where
  | counted (event : Event)
  /-- A report is shown. -/
  | reported

/-- The event that is counted, if one is. -/
def Happening.event? : Happening → Option Event
  | .counted e => some e
  | .reported => none

namespace Log

/-- The log after something has happened. -/
def next (l : Log) : Happening → Log
  | .counted e => l.record e
  | .reported => l.report

/-- The log after some things have happened in order. -/
def after (l : Log) (happenings : List Happening) : Log :=
  happenings.foldl next l

/-- The growths that the reports show, in order. -/
def growths (l : Log) : List Happening → List Statistics
  | [] => []
  | .counted e :: rest => (l.record e).growths rest
  | .reported :: rest => l.growth :: l.report.growths rest

/-- The log has only grown since the last report. -/
structure Grown (l : Log) : Prop where
  /-- No number was larger when it was reported. -/
  le : ∀ c, l.reported.read c ≤ l.current.read c
  /-- No media type has been forgotten. -/
  has : ∀ t, l.reported.mediaTypes.has t = true → l.current.mediaTypes.has t = true
  ordered : l.current.mediaTypes.Ordered

theorem grown_empty : Grown {} where
  le _ := Nat.le_refl _
  has _ h := h
  ordered := Dict.ordered_nil

/-- Whatever happens, the log has only grown. -/
theorem Grown.next {l : Log} (h : l.Grown) (happening : Happening) : (l.next happening).Grown := by
  cases happening with
  | reported => exact ⟨fun c => Nat.le_refl _, fun t ht => ht, h.ordered⟩
  | counted e =>
    refine ⟨?_, ?_, ?_⟩
    · intro c
      show l.reported.read c ≤ (l.current.record e).read c
      have hle := h.le c
      rw [Statistics.read_record]
      omega
    · intro t ht
      exact Statistics.has_record (h.has t ht) e
    · cases e with
      | dereferenced t => exact h.ordered.insert t _
      | _ => exact h.ordered

theorem Grown.after {l : Log} (h : l.Grown) (happenings : List Happening) :
    (l.after happenings).Grown := by
  induction happenings generalizing l with
  | nil => exact h
  | cons happening rest ih => exact ih (h.next happening)

/-- What was reported last and the growth since then make up the present number. -/
theorem Grown.add_growth {l : Log} (h : l.Grown) (c : Counter) :
    l.reported.read c + l.growth.read c = l.current.read c := by
  have hle := h.le c
  rw [growth, Statistics.read_since]
  omega

/-- The growths of the reports of a run lead from what was reported before the run to what is
reported last. -/
theorem Grown.add_growths {l : Log} (h : l.Grown) (happenings : List Happening) (c : Counter) :
    l.reported.read c + ((l.growths happenings).map (·.read c)).sum =
      (l.after happenings).reported.read c := by
  induction happenings generalizing l with
  | nil => rfl
  | cons happening rest ih =>
    have hrest := ih (h.next happening)
    cases happening with
    | counted e => exact hrest
    | reported =>
      have hgrowth := h.add_growth c
      have hreported : (l.next .reported).reported.read c = l.current.read c := rfl
      rw [hreported, ← hgrowth] at hrest
      rw [growths, List.map_cons, List.sum_cons, ← Nat.add_assoc]
      exact hrest

/-- The numbers are what the events of a run have raised them by. -/
theorem read_current_after (l : Log) (happenings : List Happening) (c : Counter) :
    (l.after happenings).current.read c =
      l.current.read c + ((happenings.filterMap Happening.event?).map (·.raises c)).sum := by
  induction happenings generalizing l with
  | nil => rfl
  | cons happening rest ih =>
    refine (ih (l.next happening)).trans ?_
    cases happening with
    | reported => rfl
    | counted e =>
      show (l.current.record e).read c + _ = _
      rw [Statistics.read_record, List.filterMap_cons_some (by rfl), List.map_cons, List.sum_cons,
        Nat.add_assoc]

end Log

/-! ## Reports -/

/-- The growths that were shown so far and the log agree, and the next growth is well defined. -/
structure Telescopes (l : Log) (shown : List Statistics) : Prop where
  /-- What a report takes away from a number is at most the number. -/
  subtracts : ∀ c, l.reported.read c ≤ l.current.read c
  /-- So it is in each entry of a media type, also of one that was first seen since then. -/
  subtractsEntry : ∀ e ∈ l.current.mediaTypes, l.reported.opened e.1 ≤ e.2
  adds : ∀ c, l.reported.read c + l.growth.read c = l.current.read c
  /-- A growth is shown for the media types that were ever seen, and all of them are there that
  were reported before. -/
  keys : l.growth.mediaTypes.keys = l.current.mediaTypes.keys
  keeps : ∀ t, l.reported.mediaTypes.has t = true → l.growth.mediaTypes.has t = true
  sums : ∀ c, (shown.map (·.read c)).sum = l.reported.read c

/-- In every run that begins with no counts, at any time and so whenever a report is due: no
subtraction is of a larger number, the last report and the growth make up the present numbers,
which are what the events have raised them by, and the growths of all reports so far make up
the last report. -/
theorem reports_telescope (happenings : List Happening) :
    Telescopes (({} : Log).after happenings) (({} : Log).growths happenings) ∧
      ∀ c, (({} : Log).after happenings).current.read c =
        ((happenings.filterMap Happening.event?).map (·.raises c)).sum := by
  have hgrown := Log.grown_empty.after happenings
  refine ⟨⟨hgrown.le, ?_, hgrown.add_growth, ?_, ?_, ?_⟩, ?_⟩
  · intro e he
    have hread : (({} : Log).after happenings).current.opened e.1 = e.2 := by
      rw [Statistics.opened, hgrown.ordered.find?_eq_some_iff.mpr he]
      rfl
    exact hread ▸ hgrown.le (.opened e.1)
  · exact Statistics.keys_since _ _
  · intro t ht
    obtain ⟨n, hn⟩ := Dict.has_iff.mp (hgrown.has t ht)
    refine Dict.has_iff.mpr ⟨n - (({} : Log).after happenings).reported.opened t, ?_⟩
    rw [Log.growth, Statistics.find?_since, hn]
    rfl
  · intro c
    have hsum := Log.grown_empty.add_growths happenings c
    rw [Statistics.read_empty, Nat.zero_add] at hsum
    exact hsum
  · intro c
    rw [Log.read_current_after, Statistics.read_empty, Nat.zero_add]

/-- A media type that is first seen between two reports, and one that is not seen again. -/
example : (({} : Log).growths [.counted (.dereferenced "text/html"), .reported,
      .counted (.dereferenced "application/n-quads"), .counted (.quadsServed 5), .reported]).map
        (·.mediaTypes) =
    [[("text/html", 1)], [("application/n-quads", 1), ("text/html", 0)]] := by
  decide

end Service

end LinkedData
