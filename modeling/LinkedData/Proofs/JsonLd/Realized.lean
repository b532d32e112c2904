import LinkedData.Proofs.JsonLd.Account
import Mathlib.Data.List.Forall2

/-!
# LinkedData.Proofs.JsonLd.Realized -- the converter does what a document says

A computation realizes an account when, from any converter, it issues the blank nodes that
the account calls for, states its quads under the labels issued, and stops at its first
fault. A written label is issued once in a document, everything else each time that it is
called for. The labels depend on the counter at the beginning, and on nothing else that went
before.

Every function of the converter realizes its account, and so does a whole document.
-/

namespace LinkedData.JsonLd

open LinkedData.Rdf

/-! ## Labels of blank nodes -/

/-- Which labels a blank node has. -/
abbrev Naming := Origin → String → Prop

/-- A node is an abstract node under labels of its blank nodes. -/
inductive AbstractNode.Names (R : Naming) : AbstractNode → Node → Prop
  | iri (i : Iri) : Names R (.iri i) (.iri i)
  | blank {o : Origin} {s : String} : R o s → Names R (.blank o) (.blank s)

/-- A term is an abstract term under labels of its blank nodes. -/
inductive AbstractTerm.Names (R : Naming) : AbstractTerm → Term → Prop
  | node {n : AbstractNode} {m : Node} : n.Names R m → Names R (.node n) (.node m)
  | literal (l : Literal) : Names R (.literal l) (.literal l)

/-- A quad is an abstract quad under labels of its blank nodes. -/
structure AbstractQuad.Names (R : Naming) (a : AbstractQuad) (q : Quad) : Prop where
  subject : a.subject.Names R q.subject
  predicate : a.predicate = q.predicate
  object : a.object.Names R q.object
  graph : Option.Rel (AbstractNode.Names R) a.graph q.graph

section Mono

variable {R S : Naming}

theorem AbstractNode.Names.mono (h : ∀ o s, R o s → S o s) {a : AbstractNode} {n : Node}
    (ha : a.Names R n) : a.Names S n := by
  cases ha with
  | iri i => exact .iri i
  | blank ho => exact .blank (h _ _ ho)

theorem AbstractTerm.Names.mono (h : ∀ o s, R o s → S o s) {a : AbstractTerm} {t : Term}
    (ha : a.Names R t) : a.Names S t := by
  cases ha with
  | node hn => exact .node (hn.mono h)
  | literal l => exact .literal l

theorem graph_mono (h : ∀ o s, R o s → S o s) {a : Option AbstractNode} {n : Option Node}
    (ha : Option.Rel (AbstractNode.Names R) a n) : Option.Rel (AbstractNode.Names S) a n := by
  cases ha with
  | none => exact .none
  | some hn => exact .some (hn.mono h)

theorem AbstractQuad.Names.mono (h : ∀ o s, R o s → S o s) {a : AbstractQuad} {q : Quad}
    (ha : a.Names R q) : a.Names S q :=
  ⟨ha.subject.mono h, ha.predicate, ha.object.mono h, graph_mono h ha.graph⟩

end Mono

/-! ## Issuing -/

/-- The `n`-th blank node of a list has the label that is issued `n`-th after the first `k`
ones. -/
def Issued (k : Nat) (os : List Origin) : Naming :=
  fun o s => ∃ n, os[n]? = some o ∧ s = Converter.label (k + n)

/-- Whether a blank node is one that the document labels. -/
def Source.isWritten : Source → Bool
  | .written _ => true
  | _ => false

/-- The blank nodes issued after an event: a written label is issued once. -/
def issueFor (os : List Origin) : Event → List Origin
  | .issue o => if o.source.isWritten && os.contains o then os else os ++ [o]
  | .state _ => os

/-- The blank nodes issued after some events. -/
def issuedFor (os : List Origin) (events : List Event) : List Origin :=
  events.foldl issueFor os

theorem issuedFor_append (os : List Origin) (events more : List Event) :
    issuedFor os (events ++ more) = issuedFor (issuedFor os events) more :=
  List.foldl_append

theorem prefix_issueFor (os : List Origin) (event : Event) : os <+: issueFor os event := by
  cases event with
  | state q => exact List.prefix_refl os
  | issue o =>
    rw [issueFor]
    split
    · exact List.prefix_refl os
    · exact List.prefix_append os [o]

/-- What the document does not label is issued each time. -/
theorem issueFor_of_not_written {os : List Origin} {o : Origin}
    (ho : o.source.isWritten = false) : issueFor os (.issue o) = os ++ [o] := by
  rw [issueFor, ho, Bool.false_and, if_neg Bool.false_ne_true]

theorem issueFor_of_mem {os : List Origin} {o : Origin} (ho : o.source.isWritten = true)
    (hmem : o ∈ os) : issueFor os (.issue o) = os := by
  rw [issueFor, ho, Bool.true_and, if_pos (List.contains_iff_mem.mpr hmem)]

theorem issueFor_of_not_mem {os : List Origin} {o : Origin} (hmem : o ∉ os) :
    issueFor os (.issue o) = os ++ [o] := by
  have hcontains : os.contains o = false := by simpa using hmem
  rw [issueFor, hcontains, Bool.and_false, if_neg Bool.false_ne_true]

theorem prefix_issuedFor (os : List Origin) (events : List Event) :
    os <+: issuedFor os events := by
  induction events generalizing os with
  | nil => exact List.prefix_refl os
  | cons event events ih => exact (prefix_issueFor os event).trans (ih (issueFor os event))

/-- Labels that have been issued stay. -/
theorem Issued.mono {k : Nat} {os os' : List Origin} (h : os <+: os') {o : Origin} {s : String}
    (hs : Issued k os o s) : Issued k os' o s := by
  obtain ⟨more, rfl⟩ := h
  obtain ⟨n, hn, rfl⟩ := hs
  obtain ⟨hlt, -⟩ := List.getElem?_eq_some_iff.mp hn
  exact ⟨n, by rw [List.getElem?_append_left hlt, hn], rfl⟩

theorem AbstractNode.Names.keep {k : Nat} {os os' : List Origin} (h : os <+: os')
    {a : AbstractNode} {n : Node} (ha : a.Names (Issued k os) n) : a.Names (Issued k os') n :=
  ha.mono fun _ _ => Issued.mono h

theorem AbstractTerm.Names.keep {k : Nat} {os os' : List Origin} (h : os <+: os')
    {a : AbstractTerm} {t : Term} (ha : a.Names (Issued k os) t) : a.Names (Issued k os') t :=
  ha.mono fun _ _ => Issued.mono h

theorem graph_keep {k : Nat} {os os' : List Origin} (h : os <+: os') {a : Option AbstractNode}
    {n : Option Node} (ha : Option.Rel (AbstractNode.Names (Issued k os)) a n) :
    Option.Rel (AbstractNode.Names (Issued k os')) a n :=
  graph_mono (fun _ _ => Issued.mono h) ha

theorem Issued.append_singleton {k : Nat} {os : List Origin} {o o' : Origin} {s : String} :
    Issued k (os ++ [o']) o s ↔
      Issued k os o s ∨ o = o' ∧ s = Converter.label (k + os.length) := by
  constructor
  · rintro ⟨n, hn, rfl⟩
    by_cases hlt : n < os.length
    · rw [List.getElem?_append_left hlt] at hn
      exact Or.inl ⟨n, hn, rfl⟩
    · have hlen := (List.getElem?_eq_some_iff.mp hn).1
      have heq : n = os.length := by
        rw [List.length_append, List.length_singleton] at hlen
        omega
      subst heq
      rw [List.getElem?_concat_length] at hn
      injection hn with hn
      exact Or.inr ⟨hn.symm, rfl⟩
  · rintro (hs | ⟨rfl, rfl⟩)
    · exact hs.mono (List.prefix_append os [o'])
    · exact ⟨os.length, List.getElem?_concat_length .., rfl⟩

/-! ## Converters and accounts -/

/-- Since document `d` was begun after `k` blank nodes, a converter has issued the blank
nodes of a list, and its table holds the written ones of them. -/
structure Tracks (d k : Nat) (os : List Origin) (c : Converter) : Prop where
  issued : c.issued = k + os.length
  labels : ∀ w s, c.labels.find? w = some s ↔ Issued k os ⟨d, .written w⟩ s

/-- What happens to a converter between two points of an account. -/
structure Performs (d k : Nat) (os : List Origin) (events : List Event) (c c' : Converter) :
    Prop where
  tracks : Tracks d k (issuedFor os events) c'
  quads : ∃ qs, c'.quads = c.quads ++ qs ∧
    List.Forall₂ (AbstractQuad.Names (Issued k (issuedFor os events))) (stated events) qs

theorem Performs.append {d k : Nat} {os : List Origin} {events more : List Event}
    {c c' c'' : Converter} (h : Performs d k os events c c')
    (h' : Performs d k (issuedFor os events) more c' c'') :
    Performs d k os (events ++ more) c c'' := by
  obtain ⟨qs, hqs, hnames⟩ := h.quads
  obtain ⟨qs', hqs', hnames'⟩ := h'.quads
  constructor
  · rw [issuedFor_append]
    exact h'.tracks
  · refine ⟨qs ++ qs', by rw [hqs', hqs, List.append_assoc], ?_⟩
    have hkeep : ∀ o s, Issued k (issuedFor os events) o s →
        Issued k (issuedFor (issuedFor os events) more) o s :=
      fun _ _ => Issued.mono (prefix_issuedFor _ more)
    rw [issuedFor_append, stated, List.filterMap_append]
    exact List.rel_append (hnames.imp fun _ _ hq => hq.mono hkeep) hnames'

/-- A computation realizes an account: it performs what comes before the first fault, and
then fails with the fault, or ends with a result under the labels issued. -/
def Realizes {α : Type} (d k : Nat) (os : List Origin) (x : Convert α) (account : Account)
    (Result : Naming → α → Prop) : Prop :=
  ∀ c, Tracks d k os c → ∃ c', Performs d k os account.before c c' ∧
    match account.fault? with
    | none => ∃ a, x.run c = .ok a c' ∧ Result (Issued k (issuedFor os account.before)) a
    | some e => x.run c = .error e c'

/-! ## How accounts are realized -/

section Rules

variable {α β : Type} {d k : Nat} {os : List Origin} {P : Naming → α → Prop}

theorem realizes_pure {a : α} (h : P (Issued k os) a) : Realizes d k os (pure a) [] P := by
  intro c hc
  exact ⟨c, ⟨hc, [], (List.append_nil _).symm, .nil⟩, a, rfl, h⟩

theorem realizes_throw (e : Document.Error) (rest : Account) :
    Realizes d k os (throw e : Convert α) (.error e :: rest) P := by
  intro c hc
  exact ⟨c, ⟨hc, [], (List.append_nil _).symm, .nil⟩, rfl⟩

/-- A computation that goes on realizes the two accounts one after the other, unless the
first one ends in a fault. What was issued before it goes on is all that may be relied on. -/
theorem Realizes.bind {x : Convert α} {f : α → Convert β} {account account' : Account}
    {Q : Naming → β → Prop} (hx : Realizes d k os x account P)
    (hf : ∀ os', os <+: os' → ∀ a, P (Issued k os') a → Realizes d k os' (f a) account' Q) :
    Realizes d k os (x >>= f) (account ++ account') Q := by
  intro c hc
  obtain ⟨c', hperforms, hends⟩ := hx c hc
  cases hfault : account.fault? with
  | some e =>
    -- The fault ends the computation, and cuts off what the account says after it.
    rw [hfault] at hends
    obtain ⟨hbefore, hfault'⟩ := Arrivals.before_append_of_fault (b := account') hfault
    refine ⟨c', hbefore ▸ hperforms, ?_⟩
    rw [hfault']
    show (x >>= f).run c = _
    rw [EStateM.run_bind, hends]
  | none =>
    rw [hfault] at hends
    obtain ⟨a, hrun, ha⟩ := hends
    obtain ⟨c'', hperforms', hends'⟩ :=
      hf _ (prefix_issuedFor os account.before) a ha c' hperforms.tracks
    have hbefore := Arrivals.before_append (b := account') hfault
    refine ⟨c'', by rw [hbefore]; exact hperforms.append hperforms', ?_⟩
    have hgo : (x >>= f).run c = (f a).run c' := by rw [EStateM.run_bind, hrun]
    rw [Arrivals.fault?_append hfault, hbefore, issuedFor_append, hgo]
    exact hends'

end Rules

/-! ## Issuing blank nodes and stating quads -/

section Steps

variable {d k : Nat} {os : List Origin}

theorem realizes_emit {a : AbstractQuad} {q : Quad} (h : a.Names (Issued k os) q) :
    Realizes d k os (Converter.emit q) [.ok (.state a)] fun _ _ => True := by
  intro c hc
  refine ⟨{ c with quads := c.quads ++ [q] }, ⟨?_, [q], rfl, .cons h .nil⟩, (), rfl, trivial⟩
  exact ⟨hc.issued, hc.labels⟩

/-- A computation that adds no quad and after which one more blank node is issued, or found to
be issued already, realizes the call for it. -/
theorem realizes_issue {o : Origin} {x : Convert String}
    (h : ∀ c, Tracks d k os c → ∃ c' s, x.run c = .ok s c' ∧ c'.quads = c.quads ∧
      Tracks d k (issueFor os (.issue o)) c' ∧ Issued k (issueFor os (.issue o)) o s) :
    Realizes d k os x [.ok (.issue o)] fun R s => R o s := by
  intro c hc
  obtain ⟨c', s, hrun, hquads, htracks, hs⟩ := h c hc
  exact ⟨c', ⟨htracks, [], by rw [hquads, List.append_nil], .nil⟩, s, hrun, hs⟩

/-- Everything but a written label is issued anew. -/
theorem realizes_fresh {o : Origin} (ho : o.source.isWritten = false) :
    Realizes d k os Converter.fresh [.ok (.issue o)] fun R s => R o s := by
  apply realizes_issue
  intro c hc
  rw [issueFor_of_not_written ho]
  refine ⟨{ c with issued := c.issued + 1 }, Converter.label c.issued, rfl, rfl, ?_, ?_⟩
  · constructor
    · show c.issued + 1 = _
      rw [hc.issued, List.length_append, List.length_singleton, Nat.add_assoc]
    · intro w s
      show c.labels.find? w = some s ↔ _
      rw [hc.labels, Issued.append_singleton]
      constructor
      · exact Or.inl
      · rintro (h | ⟨rfl, -⟩)
        · exact h
        · cases ho
  · rw [Issued.append_singleton, hc.issued]
    exact Or.inr ⟨rfl, rfl⟩

/-- What the computation for a written label does when the label is in the table, and when it
is not. -/
theorem run_ofLabel (w : String) (c : Converter) :
    (Converter.ofLabel w).run c =
      match c.labels.find? w with
      | some s => .ok s c
      | none => .ok (Converter.label c.issued)
          { c with
            issued := c.issued + 1
            labels := c.labels.insert w (Converter.label c.issued) } := by
  have hget : (Converter.ofLabel w).run c =
      (match c.labels.find? w with
        | some issued => return issued
        | none => do
          let issued ← Converter.fresh
          modify fun c => { c with labels := c.labels.insert w issued }
          return issued : Convert String).run c := rfl
  rw [hget]
  cases c.labels.find? w with
  | some s => rfl
  | none => rfl

/-- A label that the document writes is issued when it is met first, and looked up later. -/
theorem realizes_ofLabel (w : String) :
    Realizes d k os (Converter.ofLabel w) [.ok (.issue ⟨d, .written w⟩)]
      fun R s => R ⟨d, .written w⟩ s := by
  apply realizes_issue
  intro c hc
  rw [run_ofLabel]
  cases hfind : c.labels.find? w with
  | some s =>
    have hold : Issued k os ⟨d, .written w⟩ s := (hc.labels w s).mp hfind
    have hmem : (⟨d, .written w⟩ : Origin) ∈ os := by
      obtain ⟨n, hn, -⟩ := hold
      exact List.mem_of_getElem? hn
    rw [issueFor_of_mem rfl hmem]
    exact ⟨c, s, rfl, rfl, hc, hold⟩
  | none =>
    -- The table holds every written label that was issued, so this one was not.
    have hnew : (⟨d, .written w⟩ : Origin) ∉ os := by
      intro hmem
      obtain ⟨n, hn⟩ := List.mem_iff_getElem?.mp hmem
      rw [(hc.labels w _).mpr ⟨n, hn, rfl⟩] at hfind
      cases hfind
    rw [issueFor_of_not_mem hnew]
    refine ⟨_, _, rfl, rfl, ?_, ?_⟩
    · constructor
      · show c.issued + 1 = _
        rw [hc.issued, List.length_append, List.length_singleton, Nat.add_assoc]
      · intro w' s
        show (c.labels.insert w (Converter.label c.issued)).find? w' = some s ↔ _
        rw [Dict.find?_insert, Issued.append_singleton, hc.issued]
        by_cases hw : w = w'
        · subst hw
          rw [if_pos rfl]
          constructor
          · rintro h
            injection h with h
            exact Or.inr ⟨rfl, h.symm⟩
          · rintro (⟨n, hn, -⟩ | ⟨-, rfl⟩)
            · exact absurd (List.mem_of_getElem? hn) hnew
            · rfl
        · rw [if_neg hw, hc.labels]
          constructor
          · exact Or.inl
          · rintro (h | ⟨h, -⟩)
            · exact h
            · injection h with _ h
              injection h with h
              exact absurd h.symm hw
    · rw [Issued.append_singleton, hc.issued]
      exact Or.inr ⟨rfl, rfl⟩

end Steps

/-! ## Nodes -/

section Nodes

variable {d k : Nat} {os : List Origin} {g : Option AbstractNode} {graph : Option Node}

theorem realizes_nodeOf (id : String) :
    Realizes d k os (Converter.nodeOf id) (needs (identified d id))
      fun R n => (identified d id).Names R n := by
  rw [Converter.nodeOf, identified]
  cases blankLabel? id with
  | none => exact realizes_pure (.iri id)
  | some w => exact (realizes_ofLabel w).bind fun _ _ s hs => realizes_pure (.blank hs)

theorem realizes_subjectOf (place : Place) (members : Json.Members) :
    Realizes d k os (Converter.subjectOf members) (subjectAccount d place members)
      fun R n => (subjectAt d place members).Names R n := by
  rw [Converter.subjectOf, subjectAccount, subjectAt]
  cases Dict.find? members "@id" with
  | none =>
    refine (realizes_fresh (o := ⟨d, .object place⟩) rfl).bind fun _ _ s hs => ?_
    exact realizes_pure (.blank hs)
  | some id =>
    cases id with
    | string id => exact realizes_nodeOf id
    | _ => exact realizes_throw _ _

theorem realizes_emitTypes {subject : AbstractNode} {node : Node} (types : List String)
    (hg : Option.Rel (AbstractNode.Names (Issued k os)) g graph)
    (hs : subject.Names (Issued k os) node) :
    Realizes d k os (Converter.emitTypes graph node types) (typesAccount d g subject types)
      fun _ _ => True := by
  induction types generalizing os with
  | nil => exact realizes_pure trivial
  | cons type rest ih =>
    rw [typesAccount, List.append_assoc]
    refine (realizes_nodeOf type).bind fun os₁ h₁ object hobject => ?_
    refine (realizes_emit ⟨hs.keep h₁, rfl, .node hobject, graph_keep h₁ hg⟩).bind
      fun os₂ h₂ _ _ => ?_
    exact ih (graph_keep (h₁.trans h₂) hg) (hs.keep (h₁.trans h₂))

theorem realizes_beginNode (place : Place) (members : Json.Members)
    (hg : Option.Rel (AbstractNode.Names (Issued k os)) g graph) :
    Realizes d k os (Converter.beginNode graph members) (beginAccount d g place members)
      fun R n => (subjectAt d place members).Names R n := by
  refine (realizes_subjectOf place members).bind fun os₁ h₁ node hnode => ?_
  rw [← List.append_nil (typesAccount ..)]
  refine (realizes_emitTypes _ (graph_keep h₁ hg) hnode).bind fun os₂ h₂ _ _ => ?_
  exact realizes_pure (hnode.keep h₂)

/-- The cells are issued and linked from the last one on. -/
theorem realizes_linkCells (place : Place) {abstract : List AbstractTerm} {items : List Term}
    (hg : Option.Rel (AbstractNode.Names (Issued k os)) g graph)
    (hitems : List.Forall₂ (AbstractTerm.Names (Issued k os)) abstract items) :
    Realizes d k os (Converter.linkCells graph items) (cellsAccount d g place abstract)
      fun R n => (listHead d place abstract.length).Names R n := by
  induction hitems with
  | nil => exact realizes_pure (.iri rdfNil)
  | @cons a t as ts ha _ ih =>
    rw [Converter.linkCells, cellsAccount]
    refine ih.bind fun os₁ h₁ next hnext => ?_
    refine (realizes_fresh (o := ⟨d, .cell place as.length⟩) rfl).bind fun os₂ h₂ s hs => ?_
    have h₁₂ := h₁.trans h₂
    have hcell : (listHead d place (as.length + 1)).Names (Issued k os₂) (.blank s) := .blank hs
    refine (realizes_emit ⟨hcell, rfl, ha.keep h₁₂, graph_keep h₁₂ hg⟩).bind
      fun os₃ h₃ _ _ => ?_
    have h₁₃ := h₁₂.trans h₃
    rw [← List.append_nil (states _ rdfRest _ _)]
    refine (realizes_emit ⟨hcell.keep h₃, rfl, .node (hnext.keep (h₂.trans h₃)),
      graph_keep h₁₃ hg⟩).bind fun os₄ h₄ _ _ => ?_
    exact realizes_pure ((hcell.keep h₃).keep h₄)

end Nodes

/-! ## Objects of properties -/

theorem length_objectsAt (d : Nat) (place : Place) (j : Nat) (items : List Json) :
    (objectsAt d place j items).length = convertible items := by
  induction items generalizing j with
  | nil => rfl
  | cons item rest ih =>
    have hitem : (objectAt d (.item j :: place) item).toList.length =
        if item.members?.isSome then 1 else 0 := by
      cases item with
      | object members =>
        rw [objectAt]
        cases Dict.find? members "@value" with
        | some value => rfl
        | none => cases Dict.find? members "@list" <;> rfl
      | _ => rfl
    rw [objectsAt, List.length_append, ih, hitem, convertible, convertible, List.countP_cons,
      Nat.add_comm]

/-- A reference says nothing but its subject. -/
theorem reference_account {d : Nat} {g : Option AbstractNode} {place : Place}
    {members : Json.Members} (hlen : members.length = 1) (hid : Dict.has members "@id") :
    beginAccount d g place members ++
        membersAccount d g place (subjectAt d place members) 0 members =
      subjectAccount d place members := by
  obtain ⟨⟨key, value⟩, rfl⟩ := List.length_eq_one_iff.mp hlen
  have hkey : key = "@id" := by
    by_contra hne
    simp [Dict.has, Dict.find?, hne] at hid
  subst hkey
  have htypes : Converter.typesOf [("@id", value)] = [] := rfl
  have hmembers : membersAccount d g place (subjectAt d place [("@id", value)]) 0
      [("@id", value)] = [] := rfl
  rw [beginAccount, htypes, hmembers, typesAccount, List.append_nil, List.append_nil]

section Objects

-- The account recurses as the converter does, so there is one lemma for each function, by
-- recursion on the value; the blank nodes issued before it are arbitrary in each.
variable {d k : Nat} {g : Option AbstractNode} {graph : Option Node}

mutual

theorem realizes_objectOf {os : List Origin} (place : Place)
    (hg : Option.Rel (AbstractNode.Names (Issued k os)) g graph) : (item : Json) →
    Realizes d k os (Converter.objectOf graph item) (itemAccount d g place item)
      fun R t => Option.Rel (AbstractTerm.Names R) (objectAt d place item) t
  | .object members => by
    rw [Converter.objectOf, itemAccount, objectAt]
    cases Dict.find? members "@value" with
    | some value => exact realizes_pure (.some (.literal _))
    | none =>
      cases hlist : Dict.find? members "@list" with
      | some list =>
        have hhas : Dict.has members "@list" = true := by rw [Dict.has, hlist, Option.isSome_some]
        have hlistIn := realizes_listIn place hg members
        rw [hlist] at hlistIn
        show Realizes d k os (ite _ _ _) (ite _ _ _) _
        rw [if_pos hhas, if_pos hhas]
        exact hlistIn
      | none =>
        have hhas : ¬ Dict.has members "@list" = true := by rw [Dict.has, hlist]; exact nofun
        show Realizes d k os (ite _ _ (ite _ _ _)) (ite _ _ _) _
        rw [if_neg hhas, if_neg hhas]
        -- A reference is a node object that has no types and no properties to state.
        by_cases href : members.length = 1 ∧ Dict.has members "@id" = true
        · rw [if_pos href, reference_account href.1 href.2, ← List.append_nil (subjectAccount ..)]
          refine (realizes_subjectOf place members).bind fun _ _ n hn => ?_
          exact realizes_pure (.some (.node hn))
        · rw [if_neg href]
          refine (realizes_beginNode place members hg).bind fun os₁ h₁ n hn => ?_
          rw [← List.append_nil (membersAccount ..)]
          refine (realizes_properties place 0 (graph_keep h₁ hg) hn members).bind
            fun os₂ h₂ _ _ => ?_
          exact realizes_pure (.some (.node (hn.keep h₂)))
  | .null | .bool _ | .number _ | .string _ | .array _ => realizes_pure .none

theorem realizes_listIn {os : List Origin} (place : Place)
    (hg : Option.Rel (AbstractNode.Names (Issued k os)) g graph) :
    (members : List (String × Json)) →
    Realizes d k os (Converter.listIn graph members) (listMember d g place members)
      fun R t => Option.Rel (AbstractTerm.Names R) ((Dict.find? members "@list").map fun list =>
        .node (listHead d place (convertible (list.items?.getD [])))) t
  | [] => realizes_pure .none
  | (key, value) :: rest => by
    rw [Converter.listIn, listMember, Dict.find?]
    by_cases hkey : key = "@list"
    · rw [if_pos hkey, if_pos hkey, if_pos hkey, ← List.append_nil (listAccount ..)]
      refine (realizes_listOf place hg value).bind fun _ _ n hn => ?_
      exact realizes_pure (.some (.node hn))
    · rw [if_neg hkey, if_neg hkey, if_neg hkey]
      exact realizes_listIn place hg rest

theorem realizes_listOf {os : List Origin} (place : Place)
    (hg : Option.Rel (AbstractNode.Names (Issued k os)) g graph) : (list : Json) →
    Realizes d k os (Converter.listOf graph list) (listAccount d g place list)
      fun R n => (listHead d place (convertible (list.items?.getD []))).Names R n
  | .array items => by
    rw [Converter.listOf, listAccount]
    refine (realizes_objectsOf place 0 hg items).bind fun os₁ h₁ objects hobjects => ?_
    have hcells := realizes_linkCells (d := d) place (graph_keep h₁ hg) hobjects
    rw [length_objectsAt] at hcells
    exact hcells
  | .null | .bool _ | .number _ | .string _ | .object _ => realizes_throw _ _

theorem realizes_objectsOf {os : List Origin} (place : Place) (j : Nat)
    (hg : Option.Rel (AbstractNode.Names (Issued k os)) g graph) : (items : List Json) →
    Realizes d k os (Converter.objectsOf graph items) (itemsAccount d g place j items)
      fun R ts => List.Forall₂ (AbstractTerm.Names R) (objectsAt d place j items) ts
  | [] => realizes_pure .nil
  | item :: rest => by
    rw [Converter.objectsOf, itemsAccount, objectsAt]
    refine (realizes_objectOf (.item j :: place) hg item).bind fun os₁ h₁ first hfirst => ?_
    rw [← List.append_nil (itemsAccount ..)]
    refine (realizes_objectsOf place (j + 1) (graph_keep h₁ hg) rest).bind
      fun os₂ h₂ others hothers => ?_
    refine realizes_pure (List.rel_append ?_ hothers)
    generalize objectAt d (.item j :: place) item = said at hfirst
    cases hfirst with
    | none => exact .nil
    | some hobject => exact .cons (hobject.keep h₂) .nil

theorem realizes_properties {os : List Origin} (place : Place) (i : Nat)
    {subject : AbstractNode} {node : Node}
    (hg : Option.Rel (AbstractNode.Names (Issued k os)) g graph)
    (hs : subject.Names (Issued k os) node) : (members : List (String × Json)) →
    Realizes d k os (Converter.properties graph node members)
      (membersAccount d g place subject i members) fun _ _ => True
  | [] => realizes_pure trivial
  | (key, value) :: rest => by
    rw [Converter.properties, membersAccount]
    by_cases hkey : isKeyword key
    · rw [if_pos hkey, if_pos hkey]
      exact realizes_properties place (i + 1) hg hs rest
    · rw [if_neg hkey, if_neg hkey]
      refine (realizes_property place key i hg hs value).bind fun os₁ h₁ _ _ => ?_
      exact realizes_properties place (i + 1) (graph_keep h₁ hg) (hs.keep h₁) rest

theorem realizes_property {os : List Origin} (place : Place) (predicate : Iri) (i : Nat)
    {subject : AbstractNode} {node : Node}
    (hg : Option.Rel (AbstractNode.Names (Issued k os)) g graph)
    (hs : subject.Names (Issued k os) node) : (value : Json) →
    Realizes d k os (Converter.property graph node predicate value)
      (propertyAccount d g place subject predicate i value) fun _ _ => True
  | .array items => realizes_propertyItems place predicate i 0 hg hs items
  | .null | .bool _ | .number _ | .string _ | .object _ => realizes_pure trivial

theorem realizes_propertyItems {os : List Origin} (place : Place) (predicate : Iri)
    (i j : Nat) {subject : AbstractNode} {node : Node}
    (hg : Option.Rel (AbstractNode.Names (Issued k os)) g graph)
    (hs : subject.Names (Issued k os) node) : (items : List Json) →
    Realizes d k os (Converter.propertyItems graph node predicate items)
      (valuesAccount d g place subject predicate i j items) fun _ _ => True
  | [] => realizes_pure trivial
  | item :: rest => by
    rw [Converter.propertyItems, valuesAccount]
    refine (realizes_objectOf (.value i j :: place) hg item).bind fun os₁ h₁ object hobject => ?_
    generalize objectAt d (.value i j :: place) item = said at hobject
    cases hobject with
    | none =>
      exact realizes_propertyItems place predicate i (j + 1) (graph_keep h₁ hg) (hs.keep h₁) rest
    | some hterm =>
      refine (realizes_emit ⟨hs.keep h₁, rfl, hterm, graph_keep h₁ hg⟩).bind
        fun os₂ h₂ _ _ => ?_
      exact realizes_propertyItems place predicate i (j + 1) (graph_keep (h₁.trans h₂) hg)
        (hs.keep (h₁.trans h₂)) rest

end

end Objects

/-! ## Documents -/

section Documents

variable {d k : Nat} {os : List Origin} {g : Option AbstractNode} {graph : Option Node}

theorem realizes_node (place : Place) (members : Json.Members)
    (hg : Option.Rel (AbstractNode.Names (Issued k os)) g graph) :
    Realizes d k os (Converter.node graph members) (nodeAccount d g place members)
      fun R n => (subjectAt d place members).Names R n := by
  refine (realizes_beginNode place members hg).bind fun os₁ h₁ n hn => ?_
  rw [← List.append_nil (membersAccount ..)]
  refine (realizes_properties place 0 (graph_keep h₁ hg) hn members).bind fun os₂ h₂ _ _ => ?_
  exact realizes_pure (hn.keep h₂)

theorem realizes_nodes (place : Place) (j : Nat) (items : List Json)
    (hg : Option.Rel (AbstractNode.Names (Issued k os)) g graph) :
    Realizes d k os (Converter.nodes graph items) (nodesAccount d g place j items)
      fun _ _ => True := by
  induction items generalizing os j with
  | nil => exact realizes_pure trivial
  | cons item rest ih =>
    cases item with
    | object members =>
      rw [Converter.nodes, nodesAccount]
      exact (realizes_node _ members hg).bind fun _ h₁ _ _ => ih (j + 1) (graph_keep h₁ hg)
    | _ => exact ih (j + 1) hg

theorem realizes_graphOf (place : Place) (members : Json.Members) :
    Realizes d k os (Converter.graphOf members) (graphAccount d place members)
      fun R n => Option.Rel (AbstractNode.Names R) (graphAt d members) n := by
  rw [Converter.graphOf, graphAccount, graphAt]
  cases hid : (Dict.find? members "@id").bind Json.string? with
  | none => exact realizes_pure .none
  | some id =>
    have hsubject : subjectAt d place members = identified d id := by
      obtain ⟨value, hvalue, hstring⟩ := Option.bind_eq_some_iff.mp hid
      rw [subjectAt, hvalue]
      cases value with
      | string s =>
        injection hstring with hstring
        rw [hstring]
      | _ => cases hstring
    by_cases hany : (members.any fun m => m.1 != "@id" && m.1 != "@graph") = true
    · show Realizes d k os (ite _ _ _) (ite _ _ _) _
      rw [if_pos hany, if_pos hany, ← List.append_nil (nodeAccount ..)]
      refine (realizes_node place members .none).bind fun _ _ n hn => ?_
      exact realizes_pure (.some (hsubject ▸ hn))
    · show Realizes d k os (ite _ _ _) (ite _ _ _) _
      rw [if_neg hany, if_neg hany, ← List.append_nil (needs _)]
      refine (realizes_nodeOf id).bind fun _ _ n hn => ?_
      exact realizes_pure (.some hn)

theorem realizes_topLevel (place : Place) (members : Json.Members) :
    Realizes d k os (Converter.topLevel members) (topAccount d place members)
      fun _ _ => True := by
  rw [Converter.topLevel, topAccount]
  cases Dict.find? members "@graph" with
  | none =>
    rw [← List.append_nil (nodeAccount ..)]
    exact (realizes_node place members .none).bind fun _ _ _ _ => realizes_pure trivial
  | some graphNodes =>
    exact (realizes_graphOf place members).bind fun _ _ _ hgraph =>
      realizes_nodes place 0 _ hgraph

theorem realizes_topLevels (i : Nat) (items : List Json) :
    Realizes d k os (Converter.topLevels items) (topsAccount d i items) fun _ _ => True := by
  induction items generalizing os i with
  | nil => exact realizes_pure trivial
  | cons item rest ih =>
    cases item with
    | object members =>
      rw [Converter.topLevels, topsAccount]
      exact (realizes_topLevel [.top i] members).bind fun _ _ _ _ => ih (i + 1)
    | _ => exact ih (i + 1)

end Documents

/-- The blank nodes of document `d`, in the order in which they are issued. -/
def blankNodesOf (d : Nat) (document : Json) : List Origin :=
  issuedFor [] (documentAccount d document).before

/-- The quads that document `d` states. -/
def statedBy (d : Nat) (document : Json) : List AbstractQuad :=
  stated (documentAccount d document).before

/-- What taking in document `d` adds to a converter: its blank nodes, and its quads under the
labels that follow those issued before. -/
structure Adds (d : Nat) (document : Json) (c c' : Converter) : Prop where
  issued : c'.issued = c.issued + (blankNodesOf d document).length
  quads : ∃ qs, c'.quads = c.quads ++ qs ∧
    List.Forall₂ (AbstractQuad.Names (Issued c.issued (blankNodesOf d document)))
      (statedBy d document) qs

/-- Conversion adds what an expanded document says up to its first fault, and fails with that
fault. Nothing else that the converter holds matters. -/
theorem convert_adds (d : Nat) (document : Json) (c : Converter) :
    ∃ c', Adds d document c c' ∧
      match (documentAccount d document).fault? with
      | none => (Converter.convert document).run c = .ok () c'
      | some e => (Converter.convert document).run c = .error e c' := by
  cases document with
  | array items =>
    -- The labels of earlier documents are dropped, so the table tracks this one from its
    -- beginning, whatever the converter held.
    have htracks : Tracks d c.issued [] { c with labels := [] } := by
      constructor
      · rfl
      · intro w s
        constructor
        · exact nofun
        · rintro ⟨n, hn, -⟩
          cases hn
    obtain ⟨c', hperforms, hends⟩ := realizes_topLevels 0 items _ htracks
    have hrun : (Converter.convert (.array items)).run c =
        (Converter.topLevels items).run { c with labels := [] } := rfl
    refine ⟨c', ⟨hperforms.tracks.issued, hperforms.quads⟩, ?_⟩
    rw [hrun, documentAccount]
    cases hfault : (topsAccount d 0 items).fault? with
    | some e =>
      rw [hfault] at hends
      exact hends
    | none =>
      rw [hfault] at hends
      obtain ⟨_, hok, -⟩ := hends
      exact hok
  | _ => exact ⟨c, ⟨rfl, [], (List.append_nil _).symm, .nil⟩, rfl⟩

end LinkedData.JsonLd
