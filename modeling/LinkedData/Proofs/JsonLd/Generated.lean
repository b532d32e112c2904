import LinkedData.Proofs.JsonLd.Realized
import Mathlib.Data.List.Nodup

/-!
# LinkedData.Proofs.JsonLd.Generated -- blank nodes that no label was written for

An account calls for a blank node without a written label exactly once: what is called for
while a value is converted stands at the place of the value or beneath it, and values beside
each other have different places. Hence the blank nodes issued for a document are all
different.
-/

namespace LinkedData.JsonLd

open LinkedData.Rdf

/-! ## Places -/

/-- The place that a blank node without a written label belongs to. -/
def Source.place? : Source → Option Place
  | .written _ => none
  | .object place | .cell place _ => some place

/-- What stands at a place. -/
def At (place : Place) (s : Source) : Prop :=
  s.place? = some place

/-- What stands at a place or beneath it. -/
def Inside (place : Place) (s : Source) : Prop :=
  ∃ p, At p s ∧ place <:+ p

/-- What stands beneath a place, after one of some steps. -/
def Beneath (place : Place) (steps : Step → Prop) (s : Source) : Prop :=
  ∃ step, steps step ∧ Inside (step :: place) s

section Places

variable {place : Place} {s : Source} {steps steps' : Step → Prop}

theorem At.inside (h : At place s) : Inside place s :=
  ⟨place, h, List.suffix_refl place⟩

theorem Beneath.inside (h : Beneath place steps s) : Inside place s := by
  obtain ⟨step, -, p, hp, hsuffix⟩ := h
  exact ⟨p, hp, (List.suffix_cons step place).trans hsuffix⟩

theorem Beneath.imp (h : Beneath place steps s) (hsteps : ∀ step, steps step → steps' step) :
    Beneath place steps' s := by
  obtain ⟨step, hstep, hinside⟩ := h
  exact ⟨step, hsteps step hstep, hinside⟩

theorem At.not_beneath (h : At place s) : ¬ Beneath place steps s := by
  rintro ⟨step, -, p, hp, hsuffix⟩
  have heq : place = p := Option.some.inj (h.symm.trans hp)
  subst heq
  have hlen := hsuffix.length_le
  rw [List.length_cons] at hlen
  omega

/-- What stands beneath a place is reached by one step only. -/
theorem Beneath.common (h : Beneath place steps s) (h' : Beneath place steps' s) :
    ∃ step, steps step ∧ steps' step := by
  obtain ⟨step, hstep, p, hp, hsuffix⟩ := h
  obtain ⟨step', hstep', p', hp', hsuffix'⟩ := h'
  have heq : p = p' := Option.some.inj (hp.symm.trans hp')
  subst heq
  have hsame : step :: place = step' :: place :=
    (List.suffix_of_suffix_length_le hsuffix hsuffix' (Nat.le_refl _)).eq_of_length rfl
  injection hsame with hstep_eq
  subst hstep_eq
  exact ⟨step, hstep, hstep'⟩

end Places

/-! ## Blank nodes called for once -/

/-- The blank nodes that an account calls for. -/
def called (account : Account) : List Origin :=
  account.filterMap fun
    | .ok (.issue o) => some o
    | _ => none

/-- The blank nodes of a list that the document does not label. -/
def generated (os : List Origin) : List Origin :=
  os.filter fun o => !o.source.isWritten

/-- An account calls for blank nodes of document `d` only, and for those without a written
label once and in a region. -/
structure Once (d : Nat) (region : Source → Prop) (account : Account) : Prop where
  document : ∀ o ∈ called account, o.document = d
  region : ∀ o ∈ generated (called account), region o.source
  nodup : (generated (called account)).Nodup

section Once

variable {d : Nat} {region region' : Source → Prop} {a b : Account}

theorem called_append (a b : Account) : called (a ++ b) = called a ++ called b :=
  List.filterMap_append

theorem generated_append (os os' : List Origin) :
    generated (os ++ os') = generated os ++ generated os' :=
  List.filter_append ..

/-- An account that calls for written labels only. -/
theorem once_of_written (h : ∀ o ∈ called a, o.document = d ∧ o.source.isWritten = true) :
    Once d region a := by
  have hnone : generated (called a) = [] := by
    apply List.filter_eq_nil_iff.mpr
    intro o ho
    rw [(h o ho).2]
    decide
  refine ⟨fun o ho => (h o ho).1, ?_, ?_⟩
  · rw [hnone]
    exact nofun
  · rw [hnone]
    exact List.nodup_nil

theorem once_of_called_eq_nil (h : called a = []) : Once d region a := by
  apply once_of_written
  rw [h]
  exact nofun

theorem Once.imp (h : Once d region a) (himp : ∀ s, region s → region' s) : Once d region' a :=
  ⟨h.document, fun o ho => himp o.source (h.region o ho), h.nodup⟩

/-- Accounts of regions that do not meet follow each other. -/
theorem Once.append (ha : Once d region a) (hb : Once d region' b)
    (hmeet : ∀ s, region s → ¬ region' s) :
    Once d (fun s => region s ∨ region' s) (a ++ b) := by
  constructor
  · intro o ho
    rw [called_append] at ho
    rcases List.mem_append.mp ho with ho | ho
    · exact ha.document o ho
    · exact hb.document o ho
  · intro o ho
    rw [called_append, generated_append] at ho
    rcases List.mem_append.mp ho with ho | ho
    · exact Or.inl (ha.region o ho)
    · exact Or.inr (hb.region o ho)
  · rw [called_append, generated_append]
    refine List.Nodup.append ha.nodup hb.nodup ?_
    intro o ho ho'
    exact hmeet o.source (ha.region o ho) (hb.region o ho')

/-- Two accounts of one region, in which they do not meet. -/
theorem Once.append_within {whole : Source → Prop} (ha : Once d region a)
    (hb : Once d region' b) (hmeet : ∀ s, region s → ¬ region' s)
    (hleft : ∀ s, region s → whole s) (hright : ∀ s, region' s → whole s) :
    Once d whole (a ++ b) :=
  (ha.append hb hmeet).imp fun s => Or.rec (hleft s) (hright s)

/-- Written labels may be called for anywhere. -/
theorem Once.append_written (ha : Once d region a)
    (hb : ∀ o ∈ called b, o.document = d ∧ o.source.isWritten = true) :
    Once d region (a ++ b) := by
  have hb' : Once d (fun _ => False) b := once_of_written hb
  exact ha.append_within hb' (fun _ _ h => h) (fun _ h => h) (fun _ h => h.elim)

/-- What is said in steps from the `i`-th one on: that of the `i`-th step, and the rest. -/
theorem Once.cons_beneath {place : Place} {steps : Nat → Step → Prop} {i : Nat}
    (hdiff : ∀ step i j, steps i step → steps j step → i = j)
    (ha : Once d (Beneath place (steps i)) a)
    (hb : Once d (Beneath place fun step => ∃ j, i + 1 ≤ j ∧ steps j step) b) :
    Once d (Beneath place fun step => ∃ j, i ≤ j ∧ steps j step) (a ++ b) := by
  refine ha.append_within hb ?_ ?_ ?_
  · -- Siblings are apart by the number of their step.
    intro s hs hs'
    obtain ⟨step, hi, j, hle, hj⟩ := hs.common hs'
    have := hdiff step i j hi hj
    omega
  · intro s hs
    exact hs.imp fun step hi => ⟨i, Nat.le_refl i, hi⟩
  · rintro s hs
    refine hs.imp ?_
    rintro step ⟨j, hle, hj⟩
    exact ⟨j, by omega, hj⟩

end Once

/-! ## What the parts of a document call for -/

section Parts

variable (d : Nat) (g : Option AbstractNode)

theorem called_states (subject : AbstractNode) (predicate : Iri) (object : AbstractTerm) :
    called (states subject predicate object g) = [] := rfl

theorem called_link (subject : AbstractNode) (predicate : Iri) (object : Option AbstractTerm) :
    called (linkAccount g subject predicate object) = [] := by
  cases object with
  | none => rfl
  | some t => rfl

/-- An identifier is an IRI or a written label. -/
theorem written_of_mem_needs_identified (id : String) :
    ∀ o ∈ called (needs (identified d id)), o.document = d ∧ o.source.isWritten = true := by
  intro o ho
  rw [identified] at ho
  cases hlabel : blankLabel? id with
  | none =>
    rw [hlabel] at ho
    cases ho
  | some label =>
    rw [hlabel] at ho
    rw [List.mem_singleton.mp ho]
    exact ⟨rfl, rfl⟩

theorem written_of_mem_types (subject : AbstractNode) (types : List String) :
    ∀ o ∈ called (typesAccount d g subject types),
      o.document = d ∧ o.source.isWritten = true := by
  induction types with
  | nil => exact nofun
  | cons type rest ih =>
    intro o ho
    rw [typesAccount, called_append, called_append, called_states, List.append_nil] at ho
    rcases List.mem_append.mp ho with ho | ho
    · exact written_of_mem_needs_identified d type o ho
    · exact ih o ho

theorem once_subject (place : Place) (members : Json.Members) :
    Once d (At place) (subjectAccount d place members) := by
  rw [subjectAccount, subjectAt]
  cases Dict.find? members "@id" with
  | none =>
    refine ⟨?_, ?_, List.nodup_singleton _⟩
    · intro o ho
      rw [List.mem_singleton.mp ho]
    · intro o ho
      rw [List.mem_singleton.mp ho]
      rfl
  | some id =>
    cases id with
    | string id => exact once_of_written (written_of_mem_needs_identified d id)
    | _ => exact once_of_called_eq_nil rfl

theorem once_begin (place : Place) (members : Json.Members) :
    Once d (At place) (beginAccount d g place members) :=
  (once_subject d place members).append_written (written_of_mem_types d g _ _)

/-- The cells of a list are told apart by the number of cells that follow. -/
theorem called_cells (place : Place) (items : List AbstractTerm) :
    called (cellsAccount d g place items) =
      (List.range items.length).map fun n => ⟨d, .cell place n⟩ := by
  induction items with
  | nil => rfl
  | cons item rest ih =>
    rw [cellsAccount, called_append, ih, List.length_cons, List.range_succ, List.map_append]
    rfl

theorem once_cells (place : Place) (items : List AbstractTerm) :
    Once d (At place) (cellsAccount d g place items) := by
  have hcell : ∀ o ∈ called (cellsAccount d g place items),
      ∃ n, o = ⟨d, .cell place n⟩ := by
    intro o ho
    rw [called_cells] at ho
    obtain ⟨n, -, rfl⟩ := List.mem_map.mp ho
    exact ⟨n, rfl⟩
  constructor
  · intro o ho
    obtain ⟨n, rfl⟩ := hcell o ho
    rfl
  · intro o ho
    obtain ⟨n, rfl⟩ := hcell o (List.mem_of_mem_filter ho)
    rfl
  · rw [called_cells]
    refine List.Nodup.filter _ (List.Nodup.map ?_ List.nodup_range)
    intro m n h
    injection h with _ h
    injection h

mutual

theorem once_item (place : Place) : (item : Json) →
    Once d (Inside place) (itemAccount d g place item)
  | .object members => by
    rw [itemAccount]
    cases Dict.find? members "@value" with
    | some value => exact once_of_called_eq_nil rfl
    | none =>
      by_cases hlist : Dict.has members "@list" = true
      · show Once d _ (ite _ _ _)
        rw [if_pos hlist]
        exact once_listMember place members
      · show Once d _ (ite _ _ _)
        rw [if_neg hlist]
        -- The subject stands at the place itself, everything else beneath it.
        refine (once_begin d g place members).append_within
          (once_members place (subjectAt d place members) 0 members) ?_ ?_ ?_
        · intro s hs
          exact hs.not_beneath
        · intro s hs
          exact hs.inside
        · intro s hs
          exact hs.inside
  | .null | .bool _ | .number _ | .string _ | .array _ => once_of_called_eq_nil rfl

theorem once_listMember (place : Place) : (members : List (String × Json)) →
    Once d (Inside place) (listMember d g place members)
  | [] => once_of_called_eq_nil rfl
  | (key, value) :: rest => by
    rw [listMember]
    by_cases hkey : key = "@list"
    · rw [if_pos hkey]
      exact once_list place value
    · rw [if_neg hkey]
      exact once_listMember place rest

theorem once_list (place : Place) : (list : Json) →
    Once d (Inside place) (listAccount d g place list)
  | .array items => by
    rw [listAccount]
    refine (once_items place 0 items).append_within
      (once_cells d g place (objectsAt d place 0 items)) ?_ ?_ ?_
    · intro s hs hs'
      exact hs'.not_beneath hs
    · intro s hs
      exact hs.inside
    · intro s hs
      exact hs.inside
  | .null | .bool _ | .number _ | .string _ | .object _ => once_of_called_eq_nil rfl

theorem once_items (place : Place) (j : Nat) : (items : List Json) →
    Once d (Beneath place fun step => ∃ i, j ≤ i ∧ step = .item i)
      (itemsAccount d g place j items)
  | [] => once_of_called_eq_nil rfl
  | item :: rest => by
    rw [itemsAccount]
    refine Once.cons_beneath ?_ ?_ (once_items place (j + 1) rest)
    · rintro _ i j rfl h
      injection h
    · exact (once_item (.item j :: place) item).imp fun s hs => ⟨_, rfl, hs⟩

theorem once_members (place : Place) (subject : AbstractNode) (k : Nat) :
    (members : List (String × Json)) →
    Once d (Beneath place fun step => ∃ i, k ≤ i ∧ ∃ j, step = .value i j)
      (membersAccount d g place subject k members)
  | [] => once_of_called_eq_nil rfl
  | (key, value) :: rest => by
    rw [membersAccount]
    refine Once.cons_beneath ?_ ?_ (once_members place subject (k + 1) rest)
    · rintro _ i j ⟨n, rfl⟩ ⟨m, h⟩
      injection h
    · by_cases hkey : isKeyword key
      · rw [if_pos hkey]
        exact once_of_called_eq_nil rfl
      · rw [if_neg hkey]
        exact once_property place subject key k value

theorem once_property (place : Place) (subject : AbstractNode) (predicate : Iri) (k : Nat) :
    (value : Json) →
    Once d (Beneath place fun step => ∃ j, step = .value k j)
      (propertyAccount d g place subject predicate k value)
  | .array items => by
    refine (once_values place subject predicate k 0 items).imp fun s hs => hs.imp ?_
    rintro step ⟨j, -, hj⟩
    exact ⟨j, hj⟩
  | .null | .bool _ | .number _ | .string _ | .object _ => once_of_called_eq_nil rfl

theorem once_values (place : Place) (subject : AbstractNode) (predicate : Iri) (k j : Nat) :
    (items : List Json) →
    Once d (Beneath place fun step => ∃ i, j ≤ i ∧ step = .value k i)
      (valuesAccount d g place subject predicate k j items)
  | [] => once_of_called_eq_nil rfl
  | item :: rest => by
    rw [valuesAccount, ← List.append_assoc]
    refine Once.cons_beneath ?_ ?_ (once_values place subject predicate k (j + 1) rest)
    · rintro _ i j rfl h
      injection h
    · have hitem : Once d (Beneath place fun step => step = .value k j)
          (itemAccount d g (.value k j :: place) item) :=
        (once_item (.value k j :: place) item).imp fun s hs => ⟨_, rfl, hs⟩
      apply hitem.append_written
      rw [called_link]
      exact nofun

end

theorem once_node (place : Place) (members : Json.Members) :
    Once d (fun s => At place s ∨ Beneath place (fun step => ∃ i j, step = .value i j) s)
      (nodeAccount d g place members) := by
  refine (once_begin d g place members).append ?_ fun s hs => hs.not_beneath
  refine (once_members d g place _ 0 members).imp fun s hs => hs.imp ?_
  rintro step ⟨i, -, j, hstep⟩
  exact ⟨i, j, hstep⟩

theorem Once.inside_node {place : Place} {account : Account}
    (h : Once d (fun s => At place s ∨ Beneath place (fun step => ∃ i j, step = .value i j) s)
      account) : Once d (Inside place) account :=
  h.imp fun _ => Or.rec At.inside Beneath.inside

theorem once_nodes (place : Place) (j : Nat) (items : List Json) :
    Once d (Beneath place fun step => ∃ i, j ≤ i ∧ step = .member i)
      (nodesAccount d g place j items) := by
  induction items generalizing j with
  | nil => exact once_of_called_eq_nil rfl
  | cons item rest ih =>
    cases item with
    | object members =>
      rw [nodesAccount]
      refine Once.cons_beneath ?_ ?_ (ih (j + 1))
      · rintro _ i j rfl h
        injection h
      · exact (once_node d g (.member j :: place) members).inside_node.imp
          fun s hs => ⟨_, rfl, hs⟩
    | _ =>
      refine (ih (j + 1)).imp fun s hs => hs.imp ?_
      rintro step ⟨i, hle, hi⟩
      exact ⟨i, by omega, hi⟩

/-- A graph is called for as the node that names it. -/
theorem once_graph (place : Place) (members : Json.Members) :
    Once d (fun s => At place s ∨ Beneath place (fun step => ∃ i j, step = .value i j) s)
      (graphAccount d place members) := by
  rw [graphAccount]
  cases (Dict.find? members "@id").bind Json.string? with
  | none => exact once_of_called_eq_nil rfl
  | some id =>
    by_cases hany : (members.any fun m => m.1 != "@id" && m.1 != "@graph") = true
    · show Once d _ (ite _ _ _)
      rw [if_pos hany]
      exact once_node d none place members
    · show Once d _ (ite _ _ _)
      rw [if_neg hany]
      exact once_of_written (written_of_mem_needs_identified d id)

theorem once_top (place : Place) (members : Json.Members) :
    Once d (Inside place) (topAccount d place members) := by
  rw [topAccount]
  cases Dict.find? members "@graph" with
  | none => exact (once_node d none place members).inside_node
  | some graphNodes =>
    refine (once_graph d place members).append_within
      (once_nodes d (graphAt d members) place 0 (graphNodes.items?.getD [])) ?_ ?_ ?_
    · rintro s (hs | hs) hs'
      · exact hs.not_beneath hs'
      · obtain ⟨step, ⟨i, j, rfl⟩, k, -, h⟩ := hs.common hs'
        cases h
    · exact fun _ => Or.rec At.inside Beneath.inside
    · intro s hs
      exact hs.inside

theorem once_tops (i : Nat) (items : List Json) :
    Once d (Beneath [] fun step => ∃ j, i ≤ j ∧ step = .top j) (topsAccount d i items) := by
  induction items generalizing i with
  | nil => exact once_of_called_eq_nil rfl
  | cons item rest ih =>
    cases item with
    | object members =>
      rw [topsAccount]
      refine Once.cons_beneath ?_ ?_ (ih (i + 1))
      · rintro _ i j rfl h
        injection h
      · exact (once_top d [.top i] members).imp fun s hs => ⟨_, rfl, hs⟩
    | _ =>
      refine (ih (i + 1)).imp fun s hs => hs.imp ?_
      rintro step ⟨j, hle, hj⟩
      exact ⟨j, by omega, hj⟩

theorem once_document (document : Json) :
    Once d (fun _ => True) (documentAccount d document) := by
  cases document with
  | array items => exact (once_tops d 0 items).imp fun _ _ => trivial
  | _ => exact once_of_called_eq_nil rfl

end Parts

/-! ## The blank nodes issued -/

/-- The blank nodes that events call for. -/
def calls (events : List Event) : List Origin :=
  events.filterMap fun
    | .issue o => some o
    | .state _ => none

/-- A fault cuts off what is called for after it. -/
theorem calls_before (account : Account) : calls account.before <+: called account := by
  induction account with
  | nil => exact List.prefix_refl _
  | cons item rest ih =>
    cases item with
    | error e => exact List.nil_prefix
    | ok event =>
      cases event with
      | issue o => exact (List.prefix_cons_inj o).mpr ih
      | state q => exact ih

theorem mem_issuedFor {os : List Origin} {events : List Event} {o : Origin}
    (ho : o ∈ issuedFor os events) : o ∈ os ∨ o ∈ calls events := by
  induction events generalizing os with
  | nil => exact Or.inl ho
  | cons event events ih =>
    cases event with
    | state q => exact ih ho
    | issue o' =>
      rcases ih ho with hmem | hmem
      · rw [issueFor] at hmem
        split at hmem
        · exact Or.inl hmem
        · rcases List.mem_append.mp hmem with hmem | hmem
          · exact Or.inl hmem
          · rw [List.mem_singleton.mp hmem]
            exact Or.inr List.mem_cons_self
      · exact Or.inr (List.mem_cons_of_mem o' hmem)

/-- Written labels are issued once because they are looked up, the other blank nodes because
they are called for once. -/
theorem nodup_issuedFor {os : List Origin} {events : List Event} (hos : os.Nodup)
    (hevents : (generated (calls events)).Nodup)
    (hmeet : ∀ o ∈ os, o ∉ generated (calls events)) : (issuedFor os events).Nodup := by
  induction events generalizing os with
  | nil => exact hos
  | cons event events ih =>
    cases event with
    | state q => exact ih hos hevents hmeet
    | issue o =>
      have hcalls : calls (.issue o :: events) = o :: calls events := rfl
      have hadd (hnew : o ∉ os) : (os ++ [o]).Nodup := by
        rw [List.nodup_append]
        refine ⟨hos, List.nodup_singleton o, ?_⟩
        rintro x hx y hy rfl
        rw [List.mem_singleton.mp hy] at hx
        exact hnew hx
      show (issuedFor (issueFor os (.issue o)) events).Nodup
      cases hwritten : o.source.isWritten with
      | true =>
        -- A written label that was issued before is left out.
        have hskip : generated (o :: calls events) = generated (calls events) := by
          rw [generated, List.filter_cons, hwritten]
          rfl
        rw [hcalls, hskip] at hevents hmeet
        by_cases hmem : o ∈ os
        · rw [issueFor_of_mem hwritten hmem]
          exact ih hos hevents hmeet
        · rw [issueFor_of_not_mem hmem]
          refine ih (hadd hmem) hevents ?_
          intro x hx
          rcases List.mem_append.mp hx with hx | hx
          · exact hmeet x hx
          · rw [List.mem_singleton.mp hx]
            intro hgenerated
            have := (List.mem_filter.mp hgenerated).2
            rw [hwritten] at this
            cases this
      | false =>
        -- Anything else is issued at every call, but no later call is for it.
        have hkeep : generated (o :: calls events) = o :: generated (calls events) := by
          rw [generated, List.filter_cons, hwritten]
          rfl
        rw [hcalls, hkeep] at hevents hmeet
        obtain ⟨hnot, hrest⟩ := List.nodup_cons.mp hevents
        have hnew : o ∉ os := fun hmem => hmeet o hmem List.mem_cons_self
        rw [issueFor_of_not_mem hnew]
        refine ih (hadd hnew) hrest ?_
        intro x hx
        rcases List.mem_append.mp hx with hx | hx
        · exact fun h => hmeet x hx (List.mem_cons_of_mem o h)
        · rw [List.mem_singleton.mp hx]
          exact hnot

/-- The blank nodes of a document are all different. -/
theorem nodup_blankNodesOf (d : Nat) (document : Json) : (blankNodesOf d document).Nodup := by
  have hcut := calls_before (documentAccount d document)
  have hgenerated : (generated (calls (documentAccount d document).before)).Nodup :=
    (hcut.sublist.filter _).nodup (once_document d document).nodup
  exact nodup_issuedFor List.nodup_nil hgenerated nofun

theorem document_of_mem_blankNodesOf {d : Nat} {document : Json} {o : Origin}
    (ho : o ∈ blankNodesOf d document) : o.document = d := by
  rcases mem_issuedFor ho with hmem | hmem
  · cases hmem
  · exact (once_document d document).document o ((calls_before _).subset hmem)

end LinkedData.JsonLd
