import LinkedData.Proofs.Query.Solution
import Mathlib.Data.List.Nodup
import Mathlib.Data.List.Perm.Basic

/-!
# LinkedData.Proofs.Query.Reordering -- the order of the patterns does not matter

The join takes the patterns from left to right. In another order it extends other bindings on its
way, gives up at another pattern, and finds the solutions one after another in another order. But
what it finds is decided by tuples of quads alone: a tuple demands values for the positions of its
patterns, and whether a binding meets the demands has nothing to do with which of them comes first.
So a tuple and the same quads in the order of the other patterns lead to the same binding, and the
solutions are the same ones, each as often.
-/

namespace LinkedData.Query

open LinkedData.Rdf

/-! ## Demands in another order -/

/-- Filling does not depend on the order of the demands. -/
theorem fill_nil_perm {ds ds' : List (Slot × Term)} (h : ds.Perm ds') :
    fill ds [] = fill ds' [] := by
  have hdemanded : ∀ name, name ∈ demanded ds ↔ name ∈ demanded ds' :=
    fun _ => (h.filterMap _).mem_iff
  have hmeets : ∀ b, Meets b ds ↔ Meets b ds' := fun _ => forall_congr' fun _ => by rw [h.mem_iff]
  ext b
  simp only [fill_nil_eq_some_iff, hdemanded, hmeets]

/-! ## Tuples in another order -/

/-- The tuples of several patterns put a quad for the first one in front of the tuples of the
others. -/
theorem filterMap_tuples_cons {β : Type} (g : Graph) (p : Pattern) (ps : List Pattern)
    (f : List (Slot × Term) → Option β) :
    ((tuples g (p :: ps).length).filterMap fun quads => f (tupleDemands (p :: ps) quads)) =
      g.flatMap fun q => (tuples g ps.length).filterMap fun quads =>
        f (demands p q ++ tupleDemands ps quads) := by
  rw [List.length_cons, tuples, List.filterMap_flatMap]
  refine List.flatMap_congr fun q _ => ?_
  rw [List.filterMap_map]
  rfl

/-- Going through two lists, it does not matter which of them is in the outer loop. -/
theorem flatMap_flatMap_perm {α β γ : Type} (xs : List α) (ys : List β) (f : α → β → List γ) :
    (xs.flatMap fun x => ys.flatMap (f x)).Perm
      (ys.flatMap fun y => xs.flatMap fun x => f x y) := by
  induction xs with
  | nil => simp
  | cons x xs ih =>
    simp only [List.flatMap_cons]
    exact (ih.append_left _).trans (List.flatMap_append_perm ys (f x) _)

/-- Whatever is made of the demands of tuples without regard to the order of demands, permuting the
patterns permutes the results. The induction is on the permutation, for anything that is made of
the demands, as the patterns in front add demands of their own. -/
theorem filterMap_tuples_perm {β : Type} (g : Graph) {ps ps' : List Pattern} (h : ps.Perm ps')
    (f : List (Slot × Term) → Option β) (hf : ∀ ds ds', ds.Perm ds' → f ds = f ds') :
    ((tuples g ps.length).filterMap fun quads => f (tupleDemands ps quads)).Perm
      ((tuples g ps'.length).filterMap fun quads => f (tupleDemands ps' quads)) := by
  induction h generalizing f with
  | nil => exact .refl _
  | cons p _ ih =>
    rw [filterMap_tuples_cons, filterMap_tuples_cons]
    refine List.Perm.flatMap_left g fun q _ => ih (fun ds => f (demands p q ++ ds)) ?_
    exact fun ds ds' hds => hf _ _ (hds.append_left _)
  | swap p p' ps =>
    -- Both sides go through all pairs of quads, with the loops nested the other way round; the
    -- demands of a pair change places.
    have hinner : ∀ p p' q, ((tuples g (p' :: ps).length).filterMap fun quads =>
          f (demands p q ++ tupleDemands (p' :: ps) quads)) =
        g.flatMap fun q' => (tuples g ps.length).filterMap fun quads =>
          f (demands p q ++ (demands p' q' ++ tupleDemands ps quads)) :=
      fun p p' q => filterMap_tuples_cons g p' ps fun ds => f (demands p q ++ ds)
    rw [filterMap_tuples_cons, filterMap_tuples_cons]
    simp only [hinner]
    refine (flatMap_flatMap_perm g g _).trans (.of_eq ?_)
    refine List.flatMap_congr fun q _ => List.flatMap_congr fun q' _ => ?_
    refine List.filterMap_congr fun quads _ => hf _ _ ?_
    rw [← List.append_assoc, ← List.append_assoc]
    exact List.perm_append_comm.append_right _
  | trans _ _ ih ih' => exact (ih f hf).trans (ih' f hf)

/-- Joining the same patterns in another order finds the same bindings, each as often. -/
theorem join_perm (g : Graph) {ps ps' : List Pattern} (h : ps.Perm ps') :
    (join g ps).Perm (join g ps') := by
  rw [join_eq_filterMap, join_eq_filterMap]
  exact filterMap_tuples_perm g h (fill · []) fun _ _ => fill_nil_perm

/-! ## Solutions -/

/-- A projection depends on which names it is given, not on their order. -/
theorem project_congr {names names' : List String} (h : ∀ name, name ∈ names ↔ name ∈ names') :
    project names = project names' := by
  funext b
  refine List.filter_congr fun entry _ => ?_
  rw [List.contains_eq_mem, List.contains_eq_mem, decide_eq_decide]
  exact h entry.1

/-- Selecting all variables selects the same ones in whatever order the patterns mention them. -/
theorem project_projection_perm (q : Select) {ps : List Pattern} (h : q.patterns.Perm ps) :
    project q.projection = project { q with patterns := ps }.projection := by
  refine project_congr fun name => ?_
  by_cases hall : q.selected.isEmpty
  · simp only [Select.projection, hall, if_true, mem_allVariables]
    exact (h.flatMap_right _).mem_iff
  · simp only [Select.projection, hall]
    rfl

/-- First occurrences are the items of a list, each once. -/
theorem Firsts.nodup {α : Type} {xs ys : List α} (h : Firsts xs ys) :
    ys.Nodup ∧ ∀ x, x ∈ ys ↔ x ∈ xs := by
  induction h with
  | nil => exact ⟨.nil, fun _ => .rfl⟩
  | @first xs ys x _ hnew ih =>
    obtain ⟨hnodup, hmem⟩ := ih
    have hnew' : x ∉ ys := by rwa [hmem]
    refine ⟨hnodup.append (List.nodup_singleton x) (List.disjoint_singleton.mpr hnew'), fun y => ?_⟩
    rw [List.mem_append, List.mem_append, hmem]
  | @again xs ys x _ hold ih =>
    refine ⟨ih.1, fun y => ?_⟩
    rw [ih.2, List.mem_append, List.mem_singleton, or_iff_left_of_imp]
    rintro rfl
    exact hold

/-- **The order of the patterns does not matter.** Over every graph and in every scope, whatever is
selected, the same patterns in another order have the same solutions: without `distinct` each as
often, with `distinct` each once. -/
theorem solve_reordered (g : Graph) (scope : Scope) (selected : List String)
    {patterns patterns' : List Pattern} (h : patterns.Perm patterns') :
    let solutions (distinct : Bool) (patterns : List Pattern) : List Binding :=
      solve g { selected, distinct, patterns, scope }
    (solutions false patterns).Perm (solutions false patterns') ∧
      (solutions true patterns).Nodup ∧ (solutions true patterns').Nodup ∧
      ∀ b, b ∈ solutions true patterns ↔ b ∈ solutions true patterns' := by
  intro solutions
  have hall : (solutions false patterns).Perm (solutions false patterns') := by
    have hproject := project_projection_perm { selected, patterns, scope } h
    show ((join (inScope scope g) patterns).map _).Perm ((join (inScope scope g) patterns').map _)
    rw [hproject]
    exact (join_perm _ h).map _
  have hdistinct : ∀ patterns, Firsts (solutions false patterns) (solutions true patterns) :=
    fun _ => firsts_iff.mpr rfl
  obtain ⟨hnodup, hmem⟩ := (hdistinct patterns).nodup
  obtain ⟨hnodup', hmem'⟩ := (hdistinct patterns').nodup
  refine ⟨hall, hnodup, hnodup', fun b => ?_⟩
  rw [hmem, hmem', hall.mem_iff]

/-- Whom two people know, and the names of those who are known. -/
def acquaintances : Graph :=
  [⟨.iri "e:a", "e:knows", .iri "e:b", none⟩, ⟨.iri "e:a", "e:knows", .iri "e:c", none⟩,
   ⟨.iri "e:d", "e:knows", .iri "e:b", none⟩,
   ⟨.iri "e:c", "e:name", .literal (.string "C"), none⟩,
   ⟨.iri "e:b", "e:name", .literal (.string "B"), none⟩]

/-- The names of those whom somebody knows, found through the people or through the names: in
another order, but one of them twice either way. -/
theorem solve_reordered_acquaintances :
    let known : Pattern := ⟨.variable "who", .term (.iri "e:knows"), .variable "whom"⟩
    let named : Pattern := ⟨.variable "whom", .term (.iri "e:name"), .variable "name"⟩
    let name (text : String) : Binding := [("name", .literal (.string text))]
    let solutions (distinct : Bool) (patterns : List Pattern) : List Binding :=
      solve acquaintances { selected := ["name"], distinct, patterns }
    [known, named].Perm [named, known] ∧
      solutions false [known, named] = [name "B", name "C", name "B"] ∧
      solutions false [named, known] = [name "C", name "B", name "B"] ∧
      (solutions false [known, named]).Perm (solutions false [named, known]) ∧
      (solutions true [known, named]).Nodup ∧ (solutions true [named, known]).Nodup ∧
      ∀ b, b ∈ solutions true [known, named] ↔ b ∈ solutions true [named, known] := by
  intro known named name solutions
  have hperm : [known, named].Perm [named, known] := .swap _ _ _
  exact ⟨hperm, by decide, by decide,
    solve_reordered acquaintances .defaultGraph ["name"] hperm⟩

end LinkedData.Query
