import LinkedData.Proofs.Path.DepthFirst
import Mathlib.Data.List.Flatten

/-!
# LinkedData.Proofs.Query.Growth -- more data never removes an answer

Quads that come in anywhere leave those that were there in their order. A join goes through the
quads in scope for every binding found so far, and a walk through the edges of every node that it
comes to; both are `flatMap`s, which keep the order of what they are made of. So whatever was found
before is still found, in the same order, with the new answers in between.

Dropping repetitions does not keep it so: with the new quads a solution may be found earlier than
before, and then it is that occurrence which stays. All solutions are still there.
-/

namespace LinkedData

open LinkedData.Query LinkedData.Rdf

variable {g g' : Graph}

/-- Items that come in between give more results in between. -/
theorem sublist_flatMap {α β : Type} {xs ys : List α} {f f' : α → List β} (h : xs.Sublist ys)
    (hf : ∀ x ∈ xs, (f x).Sublist (f' x)) : (xs.flatMap f).Sublist (ys.flatMap f') :=
  (List.Sublist.flatMap_right xs hf).trans (h.flatMap f')

/-! ## Queries -/

namespace Query

theorem sublist_joinStep {bs bs' : List Binding} (h : g.Sublist g') (hbs : bs.Sublist bs')
    (p : Pattern) : (joinStep g bs p).Sublist (joinStep g' bs' p) :=
  sublist_flatMap hbs fun b _ => h.filterMap fun q => p.extend q b

/-- The induction is on the patterns, for any bindings found before them: more quads leave more
bindings to go on from as well. -/
theorem sublist_join (h : g.Sublist g') (patterns : List Pattern) :
    (join g patterns).Sublist (join g' patterns) := by
  suffices hfrom : ∀ bs bs' : List Binding, bs.Sublist bs' →
      (patterns.foldl (joinStep g) bs).Sublist (patterns.foldl (joinStep g') bs') from
    hfrom [[]] [[]] (.refl _)
  induction patterns with
  | nil => exact fun _ _ hbs => hbs
  | cons p ps ih => exact fun bs bs' hbs => ih _ _ (sublist_joinStep h hbs p)

/-- The solutions before repetitions are dropped. -/
theorem sublist_cut (h : g.Sublist g') (q : Select) :
    ((join (inScope q.scope g) q.patterns).map (project q.projection)).Sublist
      ((join (inScope q.scope g') q.patterns).map (project q.projection)) :=
  (sublist_join (h.filter _) q.patterns).map _

end Query

/-! ## Paths -/

namespace Path

theorem sublist_edges (h : g.Sublist g') (scope : Scope) (n : Node) (p : Iri) :
    (edges g scope n p).Sublist (edges g' scope n p) :=
  h.filter _

theorem sublist_reach (h : g.Sublist g') (scope : Scope) (ps : List Iri) (t : Term) :
    (reach g scope ps t).Sublist (reach g' scope ps t) := by
  induction ps generalizing t with
  | nil => exact .refl _
  | cons p ps ih =>
    cases t with
    | literal l => exact .refl _
    | node n =>
      -- More edges lead on, and from the object of each old one the rest of the walk grows.
      rw [reach, reach]
      exact sublist_flatMap (sublist_edges h scope n p) fun q _ => ih q.object

end Path

/-- **More data never removes an answer.** Over a graph with more quads in between, every query
without `distinct` has more solutions in between, and every query with `distinct` has at least the
same solutions. Every path that can be followed reaches more terms in between, from any start and
in any scope. -/
theorem answers_grow {m : Type → Type} [Monad m] [LawfulMonad m] (h : g.Sublist g') :
    (∀ q : Select, q.distinct = false → (solve g q).Sublist (solve g' q)) ∧
      (∀ q : Select, q.distinct = true → solve g q ⊆ solve g' q) ∧
      ∀ (v : Vocabulary) (start : Term) (path : Path), path.Followable v → ∃ ts ts',
        path.evaluate (Engine.ofGraph g : Engine m) v start = pure ts ∧
          path.evaluate (Engine.ofGraph g' : Engine m) v start = pure ts' ∧ ts.Sublist ts' := by
  refine ⟨fun q hq => ?_, fun q hq b hb => ?_, fun v start path hpath => ?_⟩
  · rw [solve, solve, hq]
    exact sublist_cut h q
  · simp only [solve, hq, if_true, List.mem_eraseDups] at hb ⊢
    exact (sublist_cut h q).subset hb
  · refine ⟨_, _, ?_, ?_, Path.sublist_reach h path.scope (path.segments.filterMap v.find?) start⟩
    · exact Path.evaluate_ofGraph g start path.scope hpath.1 hpath.2
    · exact Path.evaluate_ofGraph g' start path.scope hpath.1 hpath.2

/-- Whom someone knows, and the name of one of those. -/
def contacts : Graph :=
  [⟨.iri "e:a", "e:knows", .iri "e:c", none⟩, ⟨.iri "e:a", "e:knows", .iri "e:b", none⟩,
   ⟨.iri "e:b", "e:name", .literal (.string "B"), none⟩]

/-- The same with a quad before and a quad in between. -/
def moreContacts : Graph :=
  [⟨.iri "e:d", "e:knows", .iri "e:b", none⟩, ⟨.iri "e:a", "e:knows", .iri "e:c", none⟩,
   ⟨.iri "e:c", "e:name", .literal (.string "C"), none⟩,
   ⟨.iri "e:a", "e:knows", .iri "e:b", none⟩,
   ⟨.iri "e:b", "e:name", .literal (.string "B"), none⟩]

/-- Everyone whom somebody knows. -/
def knownQuery (distinct : Bool) : Select :=
  { selected := ["whom"], distinct
    patterns := [⟨.variable "who", .term (.iri "e:knows"), .variable "whom"⟩] }

/-- Both walks from the same start go through the one who has a name in both graphs; the other walk
does not end at the one who has no name in the first. -/
theorem answers_grow_contacts :
    let v : Vocabulary := ⟨[("knows", "e:knows"), ("name", "e:name")]⟩
    let path : Path := { segments := ["knows", "name"] }
    contacts.Sublist moreContacts ∧ path.Followable v ∧
      (knownQuery false).distinct = false ∧ (knownQuery true).distinct = true ∧
      (solve contacts (knownQuery false)).Sublist (solve moreContacts (knownQuery false)) ∧
      solve contacts (knownQuery true) ⊆ solve moreContacts (knownQuery true) ∧
      ∃ ts ts', path.evaluate (Engine.ofGraph contacts : Engine Id) v (.iri "e:a") = pure ts ∧
        path.evaluate (Engine.ofGraph moreContacts : Engine Id) v (.iri "e:a") = pure ts' ∧
        ts.Sublist ts' := by
  intro v path
  have hgrow : contacts.Sublist moreContacts := by decide
  have hpath : path.Followable v := by decide
  obtain ⟨hsolutions, hdistinct, hreached⟩ := answers_grow (m := Id) hgrow
  exact ⟨hgrow, hpath, rfl, rfl, hsolutions (knownQuery false) rfl,
    hdistinct (knownQuery true) rfl, hreached v (.iri "e:a") path hpath⟩

/-- Without repetitions the new quad in front puts another solution first. -/
example :
    ¬ (solve contacts (knownQuery true)).Sublist (solve moreContacts (knownQuery true)) := by
  decide

end LinkedData
