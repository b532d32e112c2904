import LinkedData.Proofs.JsonLd.BlankNode
import LinkedData.Proofs.JsonLd.Moves

/-!
# LinkedData.Proofs.JsonLd.Collection -- lists as chains of cells

The converter writes a list as a chain of cells. A cell holds the object of one item and leads to
the next cell, and the last one leads to the empty list. Cells are issued after everything that the
converter has spoken about before, and they are neither found as subjects nor put into the table of
labels. So no move states anything about the cells of earlier lists: a list that was written stays
the same chain, whatever is taken in later.
-/

namespace LinkedData.JsonLd

open LinkedData.Rdf

/-- The quads about a node, in whatever graph they are stated. -/
def about (quads : Graph) (n : Node) : Graph :=
  quads.filter fun q => q.subject == n

/-- From a node on, a graph holds a list: the empty list, or a cell about which two quads are
stated, both in the graph, one for the first item, and one that leads to the rest. -/
inductive Collection (quads : Graph) (graph : Option Node) :
    Node → List String → List Term → Prop
  | nil : Collection quads graph (.iri rdfNil) [] []
  | cons {cell : String} {next : Node} {item : Term} {cells : List String} {items : List Term} :
      about quads (.blank cell) =
        [⟨.blank cell, rdfFirst, item, graph⟩, ⟨.blank cell, rdfRest, .node next, graph⟩] →
      Collection quads graph next cells items →
      Collection quads graph (.blank cell) (cell :: cells) (item :: items)

/-- The objects that the converter finds for items, one after another. An item that is no JSON
object has none. -/
inductive StandFor (graph : Option Node) :
    List Json → Converter → List Term → Converter → Prop
  | nil (c : Converter) : StandFor graph [] c [] c
  | skip {item : Json} {rest : List Json} {c c' : Converter} {objects : List Term} :
      item.members? = none → StandFor graph rest c objects c' →
      StandFor graph (item :: rest) c objects c'
  | object {members : Json.Members} {rest : List Json} {c c₁ c₂ : Converter} {t : Term}
      {objects : List Term} :
      (Converter.objectOf graph (.object members)).run c = .ok (some t) c₁ →
      StandFor graph rest c₁ objects c₂ →
      StandFor graph (.object members :: rest) c (t :: objects) c₂

/-! ## What has been issued -/

/-- A node that is no blank node, or one of the first `k` that were issued. -/
def IssuedBelow (k : Nat) : Node → Prop
  | .iri _ => True
  | .blank s => ∃ n < k, s = Converter.label n

theorem IssuedBelow.mono {k k' : Nat} (hk : k ≤ k') {n : Node} (h : IssuedBelow k n) :
    IssuedBelow k' n := by
  cases n with
  | iri i => trivial
  | blank s =>
    obtain ⟨m, hm, hs⟩ := h
    exact ⟨m, by omega, hs⟩

theorem issuedBelow_next (k : Nat) : IssuedBelow (k + 1) (.blank (Converter.label k)) :=
  ⟨k, Nat.lt_succ_self k, rfl⟩

/-- The next blank node is none of those that were issued. -/
theorem not_issuedBelow (k : Nat) : ¬ IssuedBelow k (.blank (Converter.label k)) := by
  rintro ⟨n, hn, hlabel⟩
  have := label_inj.mp hlabel
  omega

/-- Everything that a converter speaks about, or can come to speak about, has been issued. -/
structure Work.Sound (w : Work) : Prop where
  subjects : ∀ n ∈ w.subjects, IssuedBelow w.converter.issued n
  labels : ∀ written issued, w.converter.labels.find? written = some issued →
    IssuedBelow w.converter.issued (.blank issued)
  quads : ∀ q ∈ w.converter.quads, IssuedBelow w.converter.issued q.subject

theorem sound_empty : Work.Sound ⟨[], {}⟩ :=
  ⟨nofun, nofun, nofun⟩

/-- A cell that no later statement can be about: it has been issued, and it is neither a subject
that was found nor the blank node of a label. -/
structure Apart (cell : String) (w : Work) : Prop where
  issued : IssuedBelow w.converter.issued (.blank cell)
  subjects : .blank cell ∉ w.subjects
  labels : ∀ written, w.converter.labels.find? written ≠ some cell

/-! ## Finding a node -/

section Finds

variable {ns : List Node} {c c' : Converter} {n : Node}

theorem Finds.quads_eq (h : Finds c n c') : c'.quads = c.quads := by
  cases h <;> rfl

theorem Finds.issued_le (h : Finds c n c') : c.issued ≤ c'.issued := by
  cases h with
  | iri i => exact Nat.le_refl _
  | known hfind => exact Nat.le_refl _
  | label hfind => exact Nat.le_succ _
  | fresh => exact Nat.le_succ _

theorem Finds.sound (h : Finds c n c') (hsound : Work.Sound ⟨ns, c⟩) :
    Work.Sound ⟨ns, c'⟩ ∧ IssuedBelow c'.issued n := by
  have hsubjects : ∀ m ∈ ns, IssuedBelow c'.issued m :=
    fun m hm => (hsound.subjects m hm).mono h.issued_le
  have hquads : ∀ q ∈ c'.quads, IssuedBelow c'.issued q.subject := by
    rw [h.quads_eq]
    exact fun q hq => (hsound.quads q hq).mono h.issued_le
  cases h with
  | iri i => exact ⟨hsound, trivial⟩
  | known hfind => exact ⟨hsound, hsound.labels _ _ hfind⟩
  | @label written hfind =>
    refine ⟨⟨hsubjects, ?_, hquads⟩, issuedBelow_next _⟩
    intro w s hs
    simp only [Dict.find?_insert] at hs
    split at hs
    · rw [← Option.some.inj hs]
      exact issuedBelow_next _
    · exact (hsound.labels w s hs).mono (Nat.le_succ _)
  | fresh =>
    refine ⟨⟨hsubjects, ?_, hquads⟩, issuedBelow_next _⟩
    exact fun w s hs => (hsound.labels w s hs).mono (Nat.le_succ _)

/-- A cell is never found. -/
theorem Finds.apart {cell : String} (h : Finds c n c') (hapart : Apart cell ⟨ns, c⟩) :
    Apart cell ⟨ns, c'⟩ ∧ n ≠ .blank cell := by
  have hissued := hapart.issued.mono h.issued_le
  have hnext : Converter.label c.issued ≠ cell := by
    rintro rfl
    exact not_issuedBelow _ hapart.issued
  cases h with
  | iri i => exact ⟨hapart, nofun⟩
  | known hfind =>
    refine ⟨hapart, ?_⟩
    rintro ⟨⟩
    exact hapart.labels _ hfind
  | @label written hfind =>
    refine ⟨⟨hissued, hapart.subjects, ?_⟩, fun hn => hnext (Node.blank.inj hn)⟩
    intro w hw
    simp only [Dict.find?_insert] at hw
    split at hw
    · exact hnext (Option.some.inj hw)
    · exact hapart.labels w hw
  | fresh => exact ⟨⟨hissued, hapart.subjects, hapart.labels⟩, fun hn => hnext (Node.blank.inj hn)⟩

end Finds

/-! ## What every move keeps -/

section Moves

variable {w w' : Work} {cell : String}

theorem Move.sound (h : Move w w') (hsound : w.Sound) : w'.Sound := by
  cases h with
  | document ns c => exact ⟨hsound.subjects, nofun, hsound.quads⟩
  | subject hfinds =>
    obtain ⟨hkeeps, hn⟩ := hfinds.sound hsound
    exact ⟨List.forall_mem_cons.mpr ⟨hn, hkeeps.subjects⟩, hkeeps.labels, hkeeps.quads⟩
  | mention hfinds => exact (hfinds.sound hsound).1
  | @state ns q c hmem =>
    refine ⟨hsound.subjects, hsound.labels, List.forall_mem_append.mpr ⟨hsound.quads, ?_⟩⟩
    exact List.forall_mem_singleton.mpr (hsound.subjects _ hmem)
  | cell ns c graph item next =>
    have hle : c.issued ≤ c.issued + 1 := Nat.le_succ _
    refine ⟨fun n hn => (hsound.subjects n hn).mono hle,
      fun w s hs => (hsound.labels w s hs).mono hle, List.forall_mem_append.mpr ⟨?_, ?_⟩⟩
    · exact fun q hq => (hsound.quads q hq).mono hle
    · intro q hq
      rcases List.mem_pair.mp hq with rfl | rfl <;> exact issuedBelow_next _

/-- No move states anything about a cell that is apart. -/
theorem Move.apart (h : Move w w') (hapart : Apart cell w) :
    Apart cell w' ∧
      about w'.converter.quads (.blank cell) = about w.converter.quads (.blank cell) := by
  cases h with
  | document ns c => exact ⟨⟨hapart.issued, hapart.subjects, nofun⟩, rfl⟩
  | subject hfinds =>
    obtain ⟨hkeeps, hn⟩ := hfinds.apart hapart
    refine ⟨⟨hkeeps.issued, ?_, hkeeps.labels⟩, by rw [hfinds.quads_eq]⟩
    intro hmem
    rcases List.mem_cons.mp hmem with heq | hmem
    · exact hn heq.symm
    · exact hapart.subjects hmem
  | mention hfinds => exact ⟨(hfinds.apart hapart).1, by rw [hfinds.quads_eq]⟩
  | @state ns q c hmem =>
    refine ⟨⟨hapart.issued, hapart.subjects, hapart.labels⟩, ?_⟩
    have hne : q.subject ≠ .blank cell := fun heq => hapart.subjects (heq ▸ hmem)
    simp [about, hne]
  | cell ns c graph item next =>
    refine ⟨⟨hapart.issued.mono (Nat.le_succ _), hapart.subjects, hapart.labels⟩, ?_⟩
    have hne : Converter.label c.issued ≠ cell := by
      rintro rfl
      exact not_issuedBelow _ hapart.issued
    simp [about, hne]

theorem Moves.sound (h : Moves w w') (hsound : w.Sound) : w'.Sound := by
  induction h with
  | refl => exact hsound
  | tail _ hmove ih => exact hmove.sound ih

theorem Moves.apart (h : Moves w w') (hapart : Apart cell w) :
    Apart cell w' ∧
      about w'.converter.quads (.blank cell) = about w.converter.quads (.blank cell) := by
  induction h with
  | refl => exact ⟨hapart, rfl⟩
  | tail _ hmove ih =>
    obtain ⟨hapart', habout⟩ := hmove.apart ih.1
    exact ⟨hapart', habout.trans ih.2⟩

/-- A list whose cells are apart stays as it is. -/
theorem Collection.keep {graph : Option Node} {head : Node} {cells : List String}
    {items : List Term} (h : Collection w.converter.quads graph head cells items)
    (hapart : ∀ cell ∈ cells, Apart cell w) (hmoves : Moves w w') :
    Collection w'.converter.quads graph head cells items := by
  induction h with
  | nil => exact .nil
  | @cons cell next item cells items habout _ ih =>
    obtain ⟨hcell, hrest⟩ := List.forall_mem_cons.mp hapart
    exact .cons ((hmoves.apart hcell).2.trans habout) (ih hrest)

end Moves

/-! ## Writing a list -/

/-- Linking objects writes a list of them, in cells that are new and apart. -/
theorem collection_of_linkCells {ns : List Node} {c c' : Converter} {graph : Option Node}
    {items : List Term} {head : Node} (hsound : Work.Sound ⟨ns, c⟩)
    (h : (Converter.linkCells graph items).run c = .ok head c') :
    Moves ⟨ns, c⟩ ⟨ns, c'⟩ ∧ ∃ cells, cells.Nodup ∧
      Collection c'.quads graph head cells items ∧ ∀ cell ∈ cells, Apart cell ⟨ns, c'⟩ := by
  -- The cells of the rest are there before that of the first item, so they are kept by its move.
  induction items generalizing head c' with
  | nil =>
    cases h
    exact ⟨.refl, [], List.nodup_nil, .nil, nofun⟩
  | cons item rest ih =>
    cases hrest : (Converter.linkCells graph rest).run c with
    | error e c₁ =>
      rw [Converter.linkCells, EStateM.run_bind, hrest] at h
      cases h
    | ok next c₁ =>
      obtain ⟨hmoves, cells, hnodup, hcollection, hapart⟩ := ih hrest
      rw [run_linkCells_cons graph hrest] at h
      cases h
      have hmove := Move.cell ns c₁ graph item next
      have hsound₁ := hmoves.sound hsound
      have hnew := not_issuedBelow c₁.issued
      have hnone : about c₁.quads (.blank (Converter.label c₁.issued)) = [] := by
        rw [about, List.filter_eq_nil_iff]
        intro q hq heq
        rw [beq_iff_eq] at heq
        exact hnew (heq ▸ hsound₁.quads q hq)
      refine ⟨hmoves.tail hmove, Converter.label c₁.issued :: cells, ?_, ?_, ?_⟩
      · refine List.nodup_cons.mpr ⟨fun hmem => ?_, hnodup⟩
        exact hnew (hapart _ hmem).issued
      · refine .cons ?_ (hcollection.keep hapart (.single hmove))
        rw [about, List.filter_append]
        show about c₁.quads _ ++ _ = _
        rw [hnone]
        simp
      · refine List.forall_mem_cons.mpr ⟨⟨issuedBelow_next _, ?_, ?_⟩, fun cell hmem => ?_⟩
        · exact fun hmem => hnew (hsound₁.subjects _ hmem)
        · exact fun written hfind => hnew (hsound₁.labels written _ hfind)
        · exact (hmove.apart (hapart cell hmem)).1

/-! ## The objects of items -/

section Objects

variable {graph : Option Node} {c c' : Converter}

/-- A list stands for its first cell, so what has a list stands for an object. -/
theorem isSome_of_listIn {members : Json.Members} {t : Option Term}
    (h : (Converter.listIn graph members).run c = .ok t c')
    (hlist : Dict.has members "@list" = true) : t.isSome = true := by
  induction members with
  | nil => cases hlist
  | cons m rest ih =>
    obtain ⟨key, value⟩ := m
    rw [Converter.listIn] at h
    by_cases hkey : key = "@list"
    · rw [if_pos hkey] at h
      obtain ⟨n, c₁, -, hpure⟩ := run_bind_ok.mp h
      cases hpure
      rfl
    · rw [if_neg hkey] at h
      refine ih h ?_
      rwa [Dict.has, Dict.find?, if_neg hkey] at hlist

/-- A JSON object stands for an object whenever its conversion succeeds. -/
theorem isSome_of_objectOf {members : Json.Members} {t : Option Term}
    (h : (Converter.objectOf graph (.object members)).run c = .ok t c') : t.isSome = true := by
  rw [Converter.objectOf] at h
  cases hvalue : Dict.find? members "@value" with
  | some value =>
    rw [hvalue] at h
    cases h
    rfl
  | none =>
    rw [hvalue] at h
    dsimp only at h
    by_cases hlist : Dict.has members "@list" = true
    · rw [if_pos hlist] at h
      exact isSome_of_listIn h hlist
    · rw [if_neg hlist] at h
      split at h
      · obtain ⟨n, c₁, -, hpure⟩ := run_bind_ok.mp h
        cases hpure
        rfl
      · obtain ⟨n, c₁, -, h⟩ := run_bind_ok.mp h
        obtain ⟨_, c₂, -, hpure⟩ := run_bind_ok.mp h
        cases hpure
        rfl

theorem standFor_of_objectsOf {items : List Json} {objects : List Term}
    (h : (Converter.objectsOf graph items).run c = .ok objects c') :
    StandFor graph items c objects c' := by
  induction items generalizing c objects with
  | nil =>
    cases h
    exact .nil _
  | cons item rest ih =>
    rw [Converter.objectsOf] at h
    obtain ⟨first, c₁, hfirst, h⟩ := run_bind_ok.mp h
    obtain ⟨others, c₂, hothers, hpure⟩ := run_bind_ok.mp h
    cases hpure
    cases item with
    | object members =>
      obtain ⟨t, rfl⟩ := Option.isSome_iff_exists.mp (isSome_of_objectOf hfirst)
      exact .object hfirst (ih hothers)
    | _ =>
      cases hfirst
      exact .skip rfl (ih hothers)

end Objects

/-! ## Lists that stay -/

/-- Taking in documents is a course of moves. -/
theorem moves_takeIn (ns : List Node) (documents : List Json) (c : Converter) :
    ∃ ns', Moves ⟨ns, c⟩ ⟨ns', takeIn documents c⟩ := by
  induction documents generalizing ns c with
  | nil => exact ⟨ns, .refl⟩
  | cons document rest ih =>
    obtain ⟨ns₁, -, hfirst⟩ := movesBy_convert ns document c
    have hmoves : Moves ⟨ns, c⟩ ⟨ns₁, after (Converter.convert document) c⟩ := by
      rw [after]
      cases hrun : (Converter.convert document).run c with
      | ok _ c₁ =>
        rw [hrun] at hfirst
        exact hfirst.1
      | error e c₁ =>
        rw [hrun] at hfirst
        exact hfirst
    obtain ⟨ns₂, hrest⟩ := ih ns₁ (after (Converter.convert document) c)
    exact ⟨ns₂, hmoves.trans hrest⟩

/-- **Lists.** Wherever a converter has come to and whatever subjects it has found on the way, a
list that it writes is one of the objects that its items stand for, in cells that are all
different. It remains so through whatever the converter does next, be it in the same document or
with all documents that are taken in after it, also if some of them fail. -/
theorem collection_of_listOf {ns : List Node} {c c' : Converter} {graph : Option Node}
    {items : List Json} {head : Node} (hreached : Moves ⟨[], {}⟩ ⟨ns, c⟩)
    (hlist : (Converter.listOf graph (.array items)).run c = .ok head c') :
    ∃ objects cells c₁, StandFor graph items c objects c₁ ∧ cells.Nodup ∧
      (∀ w, Moves ⟨ns, c'⟩ w → Collection w.converter.quads graph head cells objects) ∧
      ∀ documents, Collection (takeIn documents c').quads graph head cells objects := by
  rw [Converter.listOf] at hlist
  obtain ⟨objects, c₁, hobjects, hcells⟩ := run_bind_ok.mp hlist
  obtain ⟨ns₁, hsub, hmoves⟩ := (movesBy_objectsOf graph ns items).moves_of_ok hobjects
  have hsound : Work.Sound ⟨ns₁, c₁⟩ := Moves.sound (hreached.trans hmoves) sound_empty
  obtain ⟨-, cells, hnodup, hcollection, hapart⟩ := collection_of_linkCells hsound hcells
  have hkeep : ∀ w, Moves ⟨ns, c'⟩ w →
      Collection w.converter.quads graph head cells objects := by
    refine fun w hw => Collection.keep (w := ⟨ns, c'⟩) hcollection (fun cell hcell => ?_) hw
    obtain ⟨hissued, hsubjects, hlabels⟩ := hapart cell hcell
    exact ⟨hissued, fun hmem => hsubjects (hsub hmem), hlabels⟩
  refine ⟨objects, cells, c₁, standFor_of_objectsOf hobjects, hnodup, hkeep, fun documents => ?_⟩
  obtain ⟨ns₂, hlater⟩ := moves_takeIn ns documents c'
  exact hkeep _ hlater

/-- A value, something that is no object, and a list of a node that the document labels. -/
def nestedList : List Json :=
  [.object [("@value", .string "a")], .null,
    .object [("@list", .array [.object [("@id", .string "_:y")]])]]

/-- The cell of the inner list is issued before those of the outer one, after the nodes of the
document that was there before. -/
theorem collection_of_listOf_nestedList :
    let before := takeIn [.array [.object [("@id", .string "_:b0"),
      ("http://a.b/p", .array [.object [("@value", .string "x")]])]]] {}
    ∃ ns c', Moves ⟨[], {}⟩ ⟨ns, before⟩ ∧
      (Converter.listOf none (.array nestedList)).run before =
        .ok (.blank (Converter.label 4)) c' ∧
      ∃ objects cells, cells.Nodup ∧ ∀ documents,
        Collection (takeIn documents c').quads none (.blank (Converter.label 4)) cells objects := by
  intro before
  obtain ⟨ns, hreached⟩ := moves_takeIn [] [.array [.object [("@id", .string "_:b0"),
    ("http://a.b/p", .array [.object [("@value", .string "x")]])]]] {}
  have hlist : (Converter.listOf none (.array nestedList)).run before =
      .ok (.blank (Converter.label 4)) _ := rfl
  obtain ⟨objects, cells, -, -, hnodup, -, hkeep⟩ := collection_of_listOf hreached hlist
  exact ⟨ns, _, hreached, hlist, objects, cells, hnodup, hkeep⟩

end LinkedData.JsonLd
