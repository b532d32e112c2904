import LinkedData.Proofs.Dict.Ordered
import LinkedData.Query.Solve
import Mathlib.Data.List.Basic
import Mathlib.Data.List.Forall2
import Mathlib.Data.List.Induction

/-!
# LinkedData.Proofs.Query.Solution -- what a query asks for

A query is solved by extending bindings pattern by pattern. What it asks for can be said
without any of them: go through all tuples of quads in scope, one quad for each pattern, in
the order of arrival; a tuple contributes the one assignment to the variables of the patterns
that turns every pattern into the triple of its quad, if there is one, cut down to the
selected variables. `Answers` says this, and `solve` is exactly it.

The link is `fill`: a tuple demands values for positions, one after another, and a binding
that meets some demands is the smallest one that does.
-/

namespace LinkedData.Query

open LinkedData.Rdf

/-! ## The question -/

/-- The lists of `k` items, the earlier positions varying most slowly. -/
def tuples {α : Type} (items : List α) : Nat → List (List α)
  | 0 => [[]]
  | k + 1 => items.flatMap fun x => (tuples items k).map (x :: ·)

/-- What a position stands for under an assignment. -/
def Slot.value? (b : Binding) : Slot → Option Term
  | .term t => some t
  | .variable name => b.find? name

/-- An assignment turns a pattern into the triple of a quad. -/
structure Pattern.Becomes (b : Binding) (p : Pattern) (q : Quad) : Prop where
  subject : p.subject.value? b = some (.node q.subject)
  predicate : p.predicate.value? b = some (.iri q.predicate)
  object : p.object.value? b = some q.object

/-- An assignment to exactly the variables of some patterns turns each of them into the
triple of its quad. -/
structure Fits (patterns : List Pattern) (quads : List Quad) (b : Binding) : Prop where
  ordered : b.Ordered
  domain : ∀ name, (b.find? name).isSome ↔ name ∈ patterns.flatMap Pattern.variableNames
  becomes : List.Forall₂ (Pattern.Becomes b) patterns quads

/-- The assignments that fit the tuples of a list, in the order of the tuples. -/
inductive Fitting (patterns : List Pattern) : List (List Quad) → List Binding → Prop
  | nil : Fitting patterns [] []
  | fits {quads : List Quad} {rest : List (List Quad)} {b : Binding} {bs : List Binding} :
      Fits patterns quads b → Fitting patterns rest bs →
      Fitting patterns (quads :: rest) (b :: bs)
  | misfits {quads : List Quad} {rest : List (List Quad)} {bs : List Binding} :
      (∀ b, ¬ Fits patterns quads b) → Fitting patterns rest bs →
      Fitting patterns (quads :: rest) bs

/-- A solution holds the values of the selected variables and nothing else; if none are
selected, of all variables. -/
structure Select.Cuts (q : Select) (b solution : Binding) : Prop where
  ordered : solution.Ordered
  find? : ∀ name, solution.find? name =
    if q.selected = [] ∨ name ∈ q.selected then b.find? name else none

/-- A list without the items that are equal to an earlier one. -/
inductive Firsts {α : Type} : List α → List α → Prop
  | nil : Firsts [] []
  | first {xs ys : List α} {x : α} : Firsts xs ys → x ∉ xs → Firsts (xs ++ [x]) (ys ++ [x])
  | again {xs ys : List α} {x : α} : Firsts xs ys → x ∈ xs → Firsts (xs ++ [x]) ys

/-- The solutions that a query asks for. -/
def Answers (g : Graph) (q : Select) (solutions : List Binding) : Prop :=
  ∃ fitting cut,
    Fitting q.patterns (tuples (inScope q.scope g) q.patterns.length) fitting ∧
    List.Forall₂ q.Cuts fitting cut ∧
    if q.distinct then Firsts cut solutions else solutions = cut

/-! ## Demands on a binding -/

/-- The values that a quad demands for the positions of a pattern. -/
def demands (p : Pattern) (q : Quad) : List (Slot × Term) :=
  [(p.subject, .node q.subject), (p.predicate, .iri q.predicate), (p.object, q.object)]

/-- The values that a tuple demands for the positions of its patterns. -/
def tupleDemands (patterns : List Pattern) (quads : List Quad) : List (Slot × Term) :=
  (List.zipWith demands patterns quads).flatten

/-- The variables that values are demanded for. -/
def demanded (ds : List (Slot × Term)) : List String :=
  ds.filterMap fun d => d.1.name?

/-- A binding meets demands. -/
def Meets (b : Binding) (ds : List (Slot × Term)) : Prop :=
  ∀ d ∈ ds, d.1.value? b = some d.2

/-- Extends a binding until it meets demands, if it can. -/
def fill : List (Slot × Term) → Binding → Option Binding
  | [], b => some b
  | (s, t) :: rest, b => (s.extend t b).bind (fill rest)

/-- The binding that a tuple leads to. -/
def fillTuple (patterns : List Pattern) (quads : List Quad) : Option Binding :=
  fill (tupleDemands patterns quads) []

theorem fill_append (ds es : List (Slot × Term)) (b : Binding) :
    fill (ds ++ es) b = (fill ds b).bind (fill es) := by
  induction ds generalizing b with
  | nil => rfl
  | cons d ds ih =>
    obtain ⟨s, t⟩ := d
    rw [List.cons_append, fill, fill, Option.bind_assoc]
    exact congrArg _ (funext ih)

theorem extend_eq_fill (p : Pattern) (q : Quad) (b : Binding) :
    p.extend q b = fill (demands p q) b := by
  have hlast : fill [(p.object, q.object)] = p.object.extend q.object := by
    funext b
    exact Option.bind_fun_some _
  show _ = (p.subject.extend q.subject b).bind fun b =>
    (p.predicate.extend (.iri q.predicate) b).bind (fill [(p.object, q.object)])
  rw [hlast]
  rfl

/-- Everything that one binding says, another says too. -/
def Extends (b' b : Binding) : Prop :=
  ∀ name t, b.find? name = some t → b'.find? name = some t

theorem Slot.value?_extends {b b' : Binding} (h : Extends b' b) {s : Slot} {t : Term}
    (hs : s.value? b = some t) : s.value? b' = some t := by
  cases s with
  | term u => exact hs
  | «variable» name => exact h name t hs

/-- One demand is met by binding at most its variable. -/
theorem Slot.extend_sound {s : Slot} {t : Term} {b b' : Binding} (h : s.extend t b = some b') :
    Extends b' b ∧ s.value? b' = some t ∧ (b.Ordered → b'.Ordered) ∧
      ∀ name, (b'.find? name).isSome ↔ (b.find? name).isSome ∨ s.name? = some name := by
  cases s with
  | term u =>
    simp only [Slot.extend] at h
    split at h
    · rename_i hu
      cases h
      subst hu
      exact ⟨fun _ _ h => h, rfl, id, fun name => by simp [Slot.name?]⟩
    · cases h
  | «variable» name =>
    simp only [Slot.extend] at h
    split at h
    · rename_i bound hbound
      split at h
      · rename_i heq
        cases h
        subst heq
        refine ⟨fun _ _ h => h, hbound, id, fun other => ?_⟩
        constructor
        · exact Or.inl
        · rintro (h | h)
          · exact h
          · injection h with h
            subst h
            rw [hbound]
            rfl
      · cases h
    · rename_i hfree
      cases h
      refine ⟨?_, ?_, fun hb => hb.insert name t, ?_⟩
      · intro other u hu
        rw [Dict.find?_insert]
        split
        · rename_i heq
          subst heq
          rw [hfree] at hu
          cases hu
        · exact hu
      · show Dict.find? (b.insert name t) name = some t
        rw [Dict.find?_insert, if_pos rfl]
      · intro other
        rw [Dict.find?_insert]
        by_cases heq : name = other
        · subst heq
          simp [Slot.name?]
        · simp [Slot.name?, heq]

/-- A demand that some larger binding meets can be met without leaving that binding. -/
theorem Slot.extend_complete {s : Slot} {t : Term} {b full : Binding} (hb : Extends full b)
    (hs : s.value? full = some t) : ∃ b', s.extend t b = some b' ∧ Extends full b' := by
  cases s with
  | term u =>
    injection hs with hu
    exact ⟨b, if_pos hu, hb⟩
  | «variable» name =>
    cases hbound : b.find? name with
    | some bound =>
      have heq : bound = t := by
        have hfull := (hb name bound hbound).symm.trans hs
        injection hfull
      exact ⟨b, by simp [Slot.extend, hbound, heq], hb⟩
    | none =>
      refine ⟨b.insert name t, by simp [Slot.extend, hbound], ?_⟩
      intro other u hu
      rw [Dict.find?_insert] at hu
      split at hu
      · rename_i heq
        cases hu
        subst heq
        exact hs
      · exact hb other u hu

theorem fill_sound {ds : List (Slot × Term)} {b b' : Binding} (h : fill ds b = some b') :
    Extends b' b ∧ Meets b' ds ∧ (b.Ordered → b'.Ordered) ∧
      ∀ name, (b'.find? name).isSome ↔ (b.find? name).isSome ∨ name ∈ demanded ds := by
  induction ds generalizing b with
  | nil =>
    cases h
    exact ⟨fun _ _ h => h, by simp [Meets], id, by simp [demanded]⟩
  | cons d ds ih =>
    obtain ⟨s, t⟩ := d
    obtain ⟨mid, hmid, hrest⟩ := Option.bind_eq_some_iff.mp h
    obtain ⟨hext, hvalue, hord, hdom⟩ := Slot.extend_sound hmid
    obtain ⟨hext', hmeets, hord', hdom'⟩ := ih hrest
    refine ⟨fun name u hu => hext' name u (hext name u hu), ?_, fun hb => hord' (hord hb), ?_⟩
    · intro d hd
      rcases List.mem_cons.mp hd with rfl | hd
      · exact Slot.value?_extends hext' hvalue
      · exact hmeets d hd
    · intro name
      rw [hdom', hdom, or_assoc]
      have hhead : name ∈ demanded ((s, t) :: ds) ↔
          s.name? = some name ∨ name ∈ demanded ds := by
        simp only [demanded, List.mem_filterMap, List.mem_cons, or_and_right, exists_or,
          exists_eq_left]
      rw [hhead]

theorem fill_complete {ds : List (Slot × Term)} {b full : Binding} (hb : Extends full b)
    (hm : Meets full ds) : ∃ b', fill ds b = some b' ∧ Extends full b' := by
  induction ds generalizing b with
  | nil => exact ⟨b, rfl, hb⟩
  | cons d ds ih =>
    obtain ⟨s, t⟩ := d
    obtain ⟨mid, hmid, hfull⟩ := Slot.extend_complete hb (hm (s, t) (List.mem_cons_self ..))
    obtain ⟨b', hb', hfull'⟩ := ih hfull fun d hd => hm d (List.mem_cons_of_mem _ hd)
    exact ⟨b', by rw [fill, hmid]; exact hb', hfull'⟩

/-- Filling starts from nothing and ends in the one binding of the demanded variables that
meets the demands. -/
theorem fill_nil_eq_some_iff {ds : List (Slot × Term)} {b : Binding} :
    fill ds [] = some b ↔
      b.Ordered ∧ (∀ name, (b.find? name).isSome ↔ name ∈ demanded ds) ∧ Meets b ds := by
  constructor
  · intro h
    obtain ⟨-, hmeets, hord, hdom⟩ := fill_sound h
    exact ⟨hord Dict.ordered_nil, fun name => by simpa using hdom name, hmeets⟩
  · rintro ⟨hord, hdom, hmeets⟩
    have hnothing : Extends b [] := by
      intro name t h
      cases h
    obtain ⟨b', hb', hext⟩ := fill_complete hnothing hmeets
    obtain ⟨-, -, hord', hdom'⟩ := fill_sound hb'
    have heq : b' = b := by
      apply Dict.Ordered.ext (hord' Dict.ordered_nil) hord
      intro name
      cases hn : b'.find? name with
      | some t => exact (hext name t hn).symm
      | none =>
        have hout : ¬ (b.find? name).isSome := by
          rw [hdom name]
          intro hin
          have hsome := (hdom' name).mpr (Or.inr hin)
          rw [hn] at hsome
          cases hsome
        exact (Option.not_isSome_iff_eq_none.mp hout).symm
    rw [hb', heq]

/-! ## Tuples -/

theorem length_of_mem_tuples {α : Type} {items : List α} {k : Nat} {t : List α}
    (h : t ∈ tuples items k) : t.length = k := by
  induction k generalizing t with
  | zero => rw [List.mem_singleton.mp h, List.length_nil]
  | succ k ih =>
    obtain ⟨x, -, ht⟩ := List.mem_flatMap.mp h
    obtain ⟨rest, hrest, rfl⟩ := List.mem_map.mp ht
    rw [List.length_cons, ih hrest]

/-- The bindings that the join finds are those that meet the demands of a tuple, in the order
of the tuples. -/
theorem join_eq_filterMap (g : Graph) (patterns : List Pattern) :
    join g patterns = (tuples g patterns.length).filterMap (fillTuple patterns) := by
  -- Every binding found so far goes on by itself, so the statement is about any list of them.
  suffices hfrom : ∀ bs : List Binding, patterns.foldl (joinStep g) bs =
      bs.flatMap fun b => (tuples g patterns.length).filterMap fun quads =>
        fill (tupleDemands patterns quads) b by
    rw [join, hfrom, List.flatMap_singleton]
    rfl
  induction patterns with
  | nil =>
    intro bs
    show bs = bs.flatMap fun b => [b]
    rw [List.flatMap_singleton']
  | cons p ps ih =>
    intro bs
    rw [List.foldl_cons, ih, joinStep, List.flatMap_assoc]
    apply List.flatMap_congr
    intro b _
    rw [List.length_cons, tuples, List.filterMap_flatMap, List.filterMap_eq_flatMap_toList,
      List.flatMap_assoc]
    apply List.flatMap_congr
    intro q _
    have htuple : ∀ quads, tupleDemands (p :: ps) (q :: quads) =
        demands p q ++ tupleDemands ps quads := fun _ => rfl
    simp only [List.filterMap_map, Function.comp_def, htuple, fill_append, ← extend_eq_fill]
    cases p.extend q b with
    | none => simp
    | some b' => simp

/-! ## The answers -/

theorem demanded_tupleDemands {patterns : List Pattern} {quads : List Quad}
    (hlen : quads.length = patterns.length) :
    demanded (tupleDemands patterns quads) = patterns.flatMap Pattern.variableNames := by
  induction patterns generalizing quads with
  | nil => rfl
  | cons p ps ih =>
    cases quads with
    | nil => cases hlen
    | cons q qs =>
      have hhead : demanded (demands p q) = p.variableNames := rfl
      have hrest := ih (Nat.succ.inj hlen)
      rw [demanded] at hhead hrest ⊢
      rw [tupleDemands, List.zipWith_cons_cons, List.flatten_cons, List.filterMap_append, hhead,
        List.flatMap_cons]
      exact congrArg _ hrest

theorem becomes_iff_meets {b : Binding} {p : Pattern} {q : Quad} :
    p.Becomes b q ↔ Meets b (demands p q) := by
  constructor
  · rintro ⟨hs, hp, ho⟩
    simp [Meets, demands, hs, hp, ho]
  · intro h
    exact ⟨h (p.subject, .node q.subject) (by simp [demands]),
      h (p.predicate, .iri q.predicate) (by simp [demands]),
      h (p.object, q.object) (by simp [demands])⟩

theorem forall₂_becomes_iff_meets {b : Binding} {patterns : List Pattern} {quads : List Quad}
    (hlen : quads.length = patterns.length) :
    List.Forall₂ (Pattern.Becomes b) patterns quads ↔ Meets b (tupleDemands patterns quads) := by
  induction patterns generalizing quads with
  | nil =>
    cases quads with
    | nil => simp [Meets, tupleDemands]
    | cons q qs => cases hlen
  | cons p ps ih =>
    cases quads with
    | nil => cases hlen
    | cons q qs =>
      have happend : Meets b (tupleDemands (p :: ps) (q :: qs)) ↔
          Meets b (demands p q) ∧ Meets b (tupleDemands ps qs) := List.forall_mem_append
      rw [List.forall₂_cons, becomes_iff_meets, ih (Nat.succ.inj hlen), happend]

theorem fits_iff_fill {patterns : List Pattern} {quads : List Quad} {b : Binding}
    (hlen : quads.length = patterns.length) :
    Fits patterns quads b ↔ fillTuple patterns quads = some b := by
  rw [fillTuple, fill_nil_eq_some_iff, demanded_tupleDemands hlen, ← forall₂_becomes_iff_meets hlen]
  exact ⟨fun h => ⟨h.ordered, h.domain, h.becomes⟩, fun ⟨ho, hd, hb⟩ => ⟨ho, hd, hb⟩⟩

theorem fitting_iff {patterns : List Pattern} {ts : List (List Quad)} {bs : List Binding}
    (hlen : ∀ t ∈ ts, t.length = patterns.length) :
    Fitting patterns ts bs ↔ bs = ts.filterMap (fillTuple patterns) := by
  constructor
  · intro h
    induction h with
    | nil => rfl
    | fits hfits _ ih =>
      rw [List.filterMap_cons_some ((fits_iff_fill (hlen _ (List.mem_cons_self ..))).mp hfits),
        ← ih fun t ht => hlen t (List.mem_cons_of_mem _ ht)]
    | @misfits quads rest bs hnone _ ih =>
      have hfill : fillTuple patterns quads = none := by
        apply Option.eq_none_iff_forall_ne_some.mpr
        intro b hb
        exact hnone b ((fits_iff_fill (hlen _ (List.mem_cons_self ..))).mpr hb)
      rw [List.filterMap_cons_none hfill]
      exact ih fun t ht => hlen t (List.mem_cons_of_mem _ ht)
  · rintro rfl
    induction ts with
    | nil => exact .nil
    | cons quads rest ih =>
      have hquads := hlen quads (List.mem_cons_self ..)
      have hrest := ih fun t ht => hlen t (List.mem_cons_of_mem _ ht)
      cases hfill : fillTuple patterns quads with
      | some b =>
        rw [List.filterMap_cons_some hfill]
        exact .fits ((fits_iff_fill hquads).mpr hfill) hrest
      | none =>
        rw [List.filterMap_cons_none hfill]
        refine .misfits (fun b hb => ?_) hrest
        rw [(fits_iff_fill hquads).mp hb] at hfill
        cases hfill

/-- A relation that is a function on a list relates it to its image alone. -/
theorem forall₂_iff_eq_map {α β : Type} {R : α → β → Prop} {f : α → β} {xs : List α}
    {ys : List β} (h : ∀ x ∈ xs, ∀ y, R x y ↔ y = f x) :
    List.Forall₂ R xs ys ↔ ys = xs.map f := by
  induction xs generalizing ys with
  | nil => simp
  | cons x xs ih =>
    have hx := h x (List.mem_cons_self ..)
    have hxs : ∀ ys, List.Forall₂ R xs ys ↔ ys = xs.map f :=
      fun ys => ih fun y hy => h y (List.mem_cons_of_mem _ hy)
    rw [List.forall₂_cons_left_iff, List.map_cons]
    constructor
    · rintro ⟨y, rest, hy, hrest, rfl⟩
      rw [(hx y).mp hy, (hxs rest).mp hrest]
    · rintro rfl
      exact ⟨f x, xs.map f, (hx _).mpr rfl, (hxs _).mpr rfl, rfl⟩

theorem mem_allVariables {q : Select} {name : String} :
    name ∈ q.allVariables ↔ name ∈ q.patterns.flatMap Pattern.variableNames :=
  List.mem_eraseDups

/-- Cutting an assignment to the variables of the patterns down is projecting it. -/
theorem cuts_iff_project {q : Select} {b solution : Binding} (hb : b.Ordered)
    (hdom : ∀ name, (b.find? name).isSome ↔ name ∈ q.patterns.flatMap Pattern.variableNames) :
    q.Cuts b solution ↔ solution = project q.projection b := by
  have hord : (project q.projection b).Ordered := hb.filter _
  have hfind : ∀ name, (project q.projection b).find? name =
      if q.selected = [] ∨ name ∈ q.selected then b.find? name else none := by
    intro name
    rw [project, Dict.find?_filter_key]
    by_cases hall : q.selected = []
    · have hempty : q.selected.isEmpty = true := by rw [hall]; rfl
      rw [Select.projection, if_pos hempty, if_pos (Or.inl hall)]
      split
      · rfl
      · rename_i hout
        have hnone : ¬ (b.find? name).isSome := by
          rw [hdom name, ← mem_allVariables]
          simpa using hout
        exact (Option.not_isSome_iff_eq_none.mp hnone).symm
    · have hnonempty : ¬ q.selected.isEmpty = true := by simpa using hall
      rw [Select.projection, if_neg hnonempty]
      simp [hall]
  constructor
  · rintro ⟨hso, hsf⟩
    exact hso.ext hord fun name => (hsf name).trans (hfind name).symm
  · rintro rfl
    exact ⟨hord, hfind⟩

/-- Dropping repetitions is keeping first occurrences. -/
theorem firsts_iff {α : Type} [BEq α] [LawfulBEq α] {xs ys : List α} :
    Firsts xs ys ↔ ys = xs.eraseDups := by
  have hlast : ∀ (xs : List α) (x : α), (xs ++ [x]).eraseDups =
      if x ∈ xs then xs.eraseDups else xs.eraseDups ++ [x] := by
    intro xs x
    rw [List.eraseDups_append]
    by_cases h : x ∈ xs <;> simp [List.removeAll, h, List.eraseDups_cons]
  constructor
  · intro h
    induction h with
    | nil => rfl
    | first _ hnew ih => rw [hlast, if_neg hnew, ← ih]
    | again _ hold ih => rw [hlast, if_pos hold, ← ih]
  · rintro rfl
    induction xs using List.reverseRecOn with
    | nil => exact .nil
    | append_singleton xs x ih =>
      rw [hlast]
      split
      · rename_i hold
        exact .again ih hold
      · rename_i hnew
        exact .first ih hnew

/-- A query is answered by exactly the solutions that it asks for. -/
theorem solve_eq_iff_answers (g : Graph) (q : Select) (solutions : List Binding) :
    solve g q = solutions ↔ Answers g q solutions := by
  have hlen : ∀ t ∈ tuples (inScope q.scope g) q.patterns.length,
      t.length = q.patterns.length := fun _ => length_of_mem_tuples
  have hcut : ∀ cut, List.Forall₂ q.Cuts (join (inScope q.scope g) q.patterns) cut ↔
      cut = (join (inScope q.scope g) q.patterns).map (project q.projection) := by
    intro cut
    apply forall₂_iff_eq_map
    intro b hb solution
    rw [join_eq_filterMap] at hb
    obtain ⟨quads, hquads, hfill⟩ := List.mem_filterMap.mp hb
    have hfits := (fits_iff_fill (hlen quads hquads)).mpr hfill
    exact cuts_iff_project hfits.ordered hfits.domain
  have hanswers : Answers g q solutions ↔
      let cut := (join (inScope q.scope g) q.patterns).map (project q.projection)
      if q.distinct then Firsts cut solutions else solutions = cut := by
    constructor
    · rintro ⟨fitting, cut, hfitting, hcuts, hresult⟩
      rw [fitting_iff hlen, ← join_eq_filterMap] at hfitting
      subst hfitting
      rw [hcut] at hcuts
      subst hcuts
      exact hresult
    · intro hresult
      refine ⟨_, _, (fitting_iff hlen).mpr rfl, ?_, hresult⟩
      rw [← join_eq_filterMap, hcut]
  rw [hanswers, solve]
  cases q.distinct with
  | true => simp only [if_true, firsts_iff, eq_comm]
  | false => simp only [Bool.false_eq_true, if_false, eq_comm]

end LinkedData.Query
