import LinkedData.Proofs.JsonLd.Bare
import LinkedData.Proofs.JsonLd.Processing
import LinkedData.Proofs.JsonLd.Sharing
import LinkedData.Proofs.Path.DepthFirst

/-!
# LinkedData.Proofs.JsonLd.Naming -- one meaning of names for documents and for paths

A context is read twice: a vocabulary takes the IRIs of its terms as predicates of path names, and
expansion turns the keys of documents into properties. Both agree: what a document says of a node
under a name is what a path of that name finds from the node, value for value.

A name that is an absolute IRI is left out, as a document takes it for itself whatever the context
says, and so are the terms that say something about their values.
-/

namespace LinkedData.JsonLd

open LinkedData.Rdf LinkedData.Text

/-- A node with texts under a name, in a context. -/
def description (context : Json) (id name : String) (texts : List String) : Json :=
  .ofPairs [("@context", context), ("@id", .string id), (name, .array (texts.map .string))]

/-- A name that a context defines to stand for a property and that says nothing about its values. -/
structure IsPlainTerm (c : Context) (name : String) (d : TermDefinition) : Prop where
  found : c.term? name = some d
  /-- A document would take an absolute IRI for itself. -/
  relative : isAbsoluteIri name = false
  shape : HasPropertyShape d.iri
  type : d.type = none
  container : d.container = none
  context : d.context = none

/-- A text in a language, if there is one. -/
def textIn (language : Option String) (text : String) : Literal :=
  match language with
  | some tag => .tagged text tag
  | none => .typed text xsdString

@[simp] theorem value_textIn (language : Option String) (text : String) :
    (textIn language text).value = text := by
  cases language <;> rfl

/-- A text as a value object. -/
def textObject (language : Option String) (text : String) : Json :=
  match language with
  | some tag => valueObject [("@language", .string tag)] (.string text)
  | none => valueObject [] (.string text)

/-- The members of a node with texts under one predicate, spelled out. -/
def textMembers (id : String) (predicate : Iri) (language : Option String)
    (texts : List String) : Json.Members :=
  Dict.insert predicate (.array (texts.map (textObject language))) [("@id", .string id)]

/-! ## Expansion of a description -/

section Expansion

variable {c : Context} {name : String} {d : TermDefinition}

/-- Only keywords have aliases. -/
theorem not_mem_aliasable {iri : String} (h : isKeyword iri = false) : iri ∉ aliasable := by
  have hall : ∀ k ∈ aliasable, isKeyword k = true := by decide
  intro hmem
  have hkeyword := hall iri hmem
  rw [h] at hkeyword
  cases hkeyword

theorem IsPlainTerm.keywordOf?_eq (h : IsPlainTerm c name d) (hname : isKeyword name = false)
    (hiri : isKeyword d.iri = false) : keywordOf? c name = none := by
  rw [keywordOf?, hname, h.found]
  simpa using not_mem_aliasable hiri

theorem IsPlainTerm.propertyIri?_eq (h : IsPlainTerm c name d) (hname : isKeyword name = false)
    (hiri : isKeyword d.iri = false) : propertyIri? c name = some d.iri := by
  have hexpand : c.expandIri name = some d.iri := by
    rw [Context.expandIri, hname, h.relative, h.found]
    rfl
  exact propertyIri?_eq_some_iff.mpr ⟨hexpand, hiri, h.shape⟩

theorem expandValues_texts (language : Option String) (texts : List String) :
    expandValues { language, context := c } (texts.map .string) =
      .ok (texts.map (textObject language)) := by
  induction texts with
  | nil => rfl
  | cons text rest ih =>
    have hitems : itemsOf (textObject language text) = [textObject language text] := by
      cases language <;> rfl
    have hfirst : expandValue { language, context := c } (.string text) =
        .ok (textObject language text) := rfl
    rw [List.map_cons, expandValues, hfirst, ok_bind, ih, ok_bind, hitems]
    rfl

/-- Under a plain term texts become value objects. -/
theorem IsPlainTerm.expandProperty_eq (h : IsPlainTerm c name d) (texts : List String) :
    expandProperty c name (.array (texts.map .string))
        (fun r => expandValue r (.array (texts.map .string))) =
      .ok (.array (texts.map (textObject (d.language.or c.language)))) := by
  obtain ⟨hfound, -, -, htype, hcontainer, hcontext⟩ := h
  simp only [expandProperty, hfound, Option.bind_some, htype, hcontainer, hcontext, pure_bind,
    expandValue, expandValues_texts, ok_bind]
  rfl

/-- The members of a description. -/
def descriptionMembers (context : Json) (id name : String) (value : Json) : Json.Members :=
  Dict.insert name value [("@context", context), ("@id", .string id)]

theorem description_eq (context : Json) (id name : String) (texts : List String) :
    description context id name texts =
      .object (descriptionMembers context id name (.array (texts.map .string))) := by
  have hlt : "@context" < "@id" := by decide
  rw [descriptionMembers, ← Dict.ofPairs_after hlt]
  rfl

/-- Only the context and the identifier are keywords. -/
theorem keywordOf?_of_mem_descriptionMembers (hkeyword : keywordOf? c name = none)
    (context : Json) (id : String) (value : Json) :
    ∀ m ∈ descriptionMembers context id name value,
      keywordOf? c m.1 ∈ [none, some "@context", some "@id"] := by
  have hcontext : keywordOf? c "@context" = some "@context" := rfl
  have hid : keywordOf? c "@id" = some "@id" := rfl
  intro m hm
  rcases Dict.mem_of_mem_insert hm with rfl | hm
  · simp [hkeyword]
  · rcases List.mem_pair.mp hm with rfl | rfl
    · simp [hcontext]
    · simp [hid]

/-- What the entries of a description expand to; where the name stands among the keys does not
matter. -/
theorem expandEntries_description {value : Json} {iri : String} {items : List Json}
    (hkeyword : keywordOf? c name = none) (hiri : propertyIri? c name = some iri)
    (hvalue : expandProperty c name value (fun r => expandValue r value) = .ok (.array items))
    (context : Json) (id : String) :
    expandEntries c [] (descriptionMembers context id name value) =
      .ok (Dict.insert iri (.array items) [("@id", .string (c.resolve id))]) := by
  have hne : iri ≠ "@id" := by
    rintro rfl
    exact absurd (propertyIri?_eq_some_iff.mp hiri).2.1 (by decide)
  have hother : Dict.find? [("@id", Json.string (c.resolve id))] iri = none := by
    rw [Dict.find?_cons_ne hne.symm, Dict.find?_nil]
  have hname (before rest : Json.Members) (hnew : Dict.find? before iri = none) :
      expandEntries c before ((name, value) :: rest) =
        expandEntries c (before.insert iri (.array items)) rest :=
    expandEntries_property before rest hkeyword hiri hvalue hnew
  have hid : Dict.insert "@id" (.string (c.resolve id)) [] =
      [("@id", Json.string (c.resolve id))] := rfl
  -- The name stands in front of both keywords, between them, or behind them.
  rw [descriptionMembers, Dict.insert]
  split
  · rw [hname _ _ rfl, expandEntries_context, expandEntries_id, expandEntries]
    exact congrArg Except.ok (Dict.insert_swap hne.symm _ _)
  rw [if_neg (by rintro rfl; cases hkeyword), expandEntries_context, Dict.insert]
  split
  · rw [hname _ _ rfl, expandEntries_id, expandEntries]
    exact congrArg Except.ok (Dict.insert_swap hne.symm _ _)
  rw [if_neg (by rintro rfl; cases hkeyword), expandEntries_id, hid, Dict.insert,
    hname _ _ hother, expandEntries]

/-- A description expands to one node with one property. -/
theorem expand_description {context : Json} {base : Option String}
    (hcontext : Context.extend (.ofBase base) context = .ok c) (h : IsPlainTerm c name d)
    (hname : isKeyword name = false) (hiri : isKeyword d.iri = false) (id : String)
    (texts : List String) :
    expand (description context id name texts) base =
      .ok (.array
        [.object (textMembers (c.resolve id) d.iri (d.language.or c.language) texts)]) := by
  have hkeyword := h.keywordOf?_eq hname hiri
  have hentries := expandEntries_description hkeyword (h.propertyIri?_eq hname hiri)
    (h.expandProperty_eq texts) context id
  have hkeys := keywordOf?_of_mem_descriptionMembers hkeyword context id
    (.array (texts.map .string))
  have hinside : objectContext (.ofBase base)
      (descriptionMembers context id name (.array (texts.map .string))) = .ok c := by
    have hne : name ≠ "@context" := by
      rintro rfl
      cases hname
    rw [objectContext, descriptionMembers, Dict.find?_insert, if_neg hne, Dict.find?_cons_self]
    exact hcontext
  rw [description_eq]
  generalize descriptionMembers context id name (.array (texts.map .string)) = members at *
  have hnot (keyword : String) (hkeyword : some keyword ∉ [none, some "@context", some "@id"]) :
      ∀ m ∈ members, ¬ (keywordOf? c m.1 == some keyword) = true := by
    intro m hm hholds
    exact hkeyword (beq_iff_eq.mp hholds ▸ hkeys m hm)
  have hvalue : isValueObject c members = false :=
    List.any_eq_false.mpr (hnot "@value" (by decide))
  have htypes : typeContext c members = .ok c := by
    rw [typeContext, List.find?_eq_none.mpr (hnot "@type" (by decide))]
  have hne : (textMembers (c.resolve id) d.iri (d.language.or c.language) texts).isEmpty = false :=
    List.isEmpty_eq_false_iff.mpr (Dict.insert_ne_nil _ _ _)
  rw [expand, expandElement, expandObject, hinside, ok_bind, hvalue, if_neg Bool.false_ne_true,
    htypes, ok_bind, hentries, ok_bind, ← textMembers, hne, if_neg Bool.false_ne_true]
  rfl

end Expansion

/-! ## Conversion of a description -/

section Conversion

/-- The quad that states a text of a node. -/
def textQuad (subject : Node) (predicate : Iri) (language : Option String) (text : String) : Quad :=
  { subject, predicate, object := .literal (textIn language text) }

theorem run_objectOf_textObject (language : Option String) (text : String) (c : Converter) :
    (Converter.objectOf none (textObject language text)).run c =
      .ok (some (.literal (textIn language text))) c := by
  cases language <;> rfl

theorem run_propertyItems_texts (subject : Node) (predicate : Iri) (language : Option String)
    (texts : List String) (c : Converter) :
    (Converter.propertyItems none subject predicate (texts.map (textObject language))).run c =
      .ok () { c with quads := c.quads ++ texts.map (textQuad subject predicate language) } := by
  induction texts generalizing c with
  | nil =>
    rw [List.map_nil, List.map_nil, List.append_nil]
    rfl
  | cons text rest ih =>
    rw [List.map_cons, Converter.propertyItems, EStateM.run_bind, run_objectOf_textObject]
    show (Converter.propertyItems none subject predicate (rest.map (textObject language))).run
      { c with quads := c.quads ++ [textQuad subject predicate language text] } = _
    rw [ih, List.map_cons, List.append_assoc]
    rfl

theorem properties_keyword (subject : Node) {key : String} (hkey : isKeyword key = true)
    (value : Json) (rest : Json.Members) :
    Converter.properties none subject ((key, value) :: rest) =
      Converter.properties none subject rest := by
  rw [Converter.properties, if_pos hkey]

theorem run_properties_texts {predicate : Iri} (hpredicate : isKeyword predicate = false)
    (subject : Node) (id : String) (language : Option String) (texts : List String)
    (c : Converter) :
    (Converter.properties none subject (textMembers id predicate language texts)).run c =
      .ok () { c with quads := c.quads ++ texts.map (textQuad subject predicate language) } := by
  have hid : isKeyword "@id" = true := by decide
  have hne : predicate ≠ "@id" := by
    rintro rfl
    cases hpredicate
  -- The predicate stands in front of the identifier or behind it.
  rw [textMembers, Dict.insert, if_neg hne]
  split
  · rw [Converter.properties, hpredicate, if_neg Bool.false_ne_true, Converter.property,
      properties_keyword subject hid, EStateM.run_bind, run_propertyItems_texts]
    rfl
  · rw [Dict.insert, properties_keyword subject hid, Converter.properties, hpredicate,
      if_neg Bool.false_ne_true, Converter.property, EStateM.run_bind, run_propertyItems_texts]
    rfl

/-- A node with texts under one predicate states the texts in order. -/
theorem run_convert_texts {predicate : Iri} (hpredicate : isKeyword predicate = false)
    {id : String} (hid : blankLabel? id = none) (language : Option String) (texts : List String) :
    (Converter.convert (.array [.object (textMembers id predicate language texts)])).run {} =
      .ok () { quads := texts.map (textQuad (.iri id) predicate language) } := by
  have hproperties := run_properties_texts hpredicate (.iri id) id language texts {}
  have hfind (key : String) (hkey : isKeyword key = true) :
      Dict.find? (textMembers id predicate language texts) key =
        Dict.find? [("@id", .string id)] key := by
    have hne : predicate ≠ key := by
      rintro rfl
      rw [hkey] at hpredicate
      cases hpredicate
    rw [textMembers, Dict.find?_insert, if_neg hne]
  generalize textMembers id predicate language texts = members at *
  have hgraph : Dict.find? members "@graph" = none := hfind "@graph" (by decide)
  have hsubject : Dict.find? members "@id" = some (.string id) := hfind "@id" (by decide)
  have htypes : Converter.typesOf members = [] := by
    rw [Converter.typesOf, hfind "@type" (by decide)]
    rfl
  have hbegin : Converter.beginNode none members = pure (.iri id) := by
    rw [Converter.beginNode, Converter.subjectOf, hsubject, htypes]
    show (Converter.nodeOf id >>= fun subject => _) = _
    rw [Converter.nodeOf, hid]
    rfl
  have hnode : (Converter.node none members).run {} =
      .ok (.iri id) { quads := texts.map (textQuad (.iri id) predicate language) } := by
    rw [Converter.node, hbegin]
    show (Converter.properties none (.iri id) members >>= fun _ => pure (Node.iri id)).run {} = _
    rw [EStateM.run_bind, hproperties]
    rfl
  show (Converter.topLevel members >>= fun _ => pure ()).run {} = _
  rw [Converter.topLevel, hgraph]
  show ((Converter.node none members >>= fun _ => pure ()) >>= fun _ => pure ()).run {} = _
  rw [EStateM.run_bind, EStateM.run_bind, hnode]
  rfl

end Conversion

/-! ## What a path finds -/

/-- An identifier that is an absolute IRI is no label. -/
theorem blankLabel?_of_isAbsoluteIri {id : String} (h : isAbsoluteIri id = true) :
    blankLabel? id = none := by
  rw [blankLabel?]
  split
  · rename_i label hid
    rw [isAbsoluteIri, splitColon?, hid] at h
    cases h
  · rfl

/-- No predicate of a vocabulary is a keyword: neither that of `type` nor those taken over. -/
theorem isKeyword_of_vocabularyOf {document : Json} {v : Vocabulary}
    (h : vocabularyOf document = .ok v) {name : String} {iri : Iri}
    (hfind : v.find? name = some iri) : isKeyword iri = false := by
  obtain ⟨c, -, h⟩ := bind_eq_ok_iff.mp h
  rw [← pure_eq_ok_iff.mp h] at hfind
  have hbase : ∀ {name iri}, Vocabulary.base.find? name = some iri → isKeyword iri = false := by
    intro name iri hfind
    have hmem := List.mem_singleton.mp (Dict.mem_of_find?_eq_some hfind)
    cases hmem
    decide
  generalize hentries : List.filter _ c.terms = entries at hfind
  have hterms : ∀ e ∈ entries, isKeyword e.2.iri = false := by
    intro e he
    have hkept := (List.mem_filter.mp (hentries ▸ he)).2
    simp only [Bool.and_eq_true, Bool.not_eq_true'] at hkept
    exact hkept.1.2
  clear hentries
  -- The induction is on the terms to come, for any vocabulary without keywords before them.
  generalize Vocabulary.base = before at hfind hbase
  induction entries generalizing before with
  | nil => exact hbase hfind
  | cons e rest ih =>
    obtain ⟨hfirst, hrest⟩ := List.forall_mem_cons.mp hterms
    refine ih hrest (before.insert e.1 e.2.iri) hfind ?_
    intro name iri hinsert
    replace hinsert : Dict.find? (Dict.insert e.1 e.2.iri before.terms) name = some iri := hinsert
    rw [Dict.find?_insert] at hinsert
    split at hinsert
    · exact Option.some.inj hinsert ▸ hfirst
    · exact hbase hinsert

/-- Texts that were stated of a node under a predicate are what the predicate leads to. -/
theorem reach_textQuads (subject : Node) (predicate : Iri) (language : Option String)
    (texts : List String) :
    Path.reach (texts.map (textQuad subject predicate language)) .defaultGraph [predicate]
        (.node subject) =
      (texts.map (textIn language)).map .literal := by
  have hedges : Path.edges (texts.map (textQuad subject predicate language)) .defaultGraph subject
      predicate = texts.map (textQuad subject predicate language) := by
    rw [Path.edges, List.filter_eq_self]
    intro q hq
    obtain ⟨text, -, rfl⟩ := List.mem_map.mp hq
    simp [textQuad, Query.Scope.contains]
  simp only [Path.reach, hedges, List.flatMap_map, List.map_map]
  exact List.map_eq_flatMap.symm

/-- A vocabulary and expansion agree on names. If a context that can be processed defines a name as
a plain term, and its vocabulary maps the name to the IRI of that definition, then a document in
the context that gives a node some texts under the name becomes a graph in which the path of the
name finds these texts from the node, in order and nothing else. -/
theorem evaluate_description {m : Type → Type} [Monad m] [LawfulMonad m] {context : Json}
    {c : Context} {v : Vocabulary} {name : String} {d : TermDefinition}
    (hcontext : Context.extend {} context = .ok c)
    (hvocabulary : vocabularyOf (.object [("@context", context)]) = .ok v)
    (hfind : v.find? name = some d.iri) (hterm : IsPlainTerm c name d) {id : String}
    (hid : isAbsoluteIri id = true) (base : Option String) (texts : List String) :
    ∃ g, quadsOf base [description context id name texts] = .ok g ∧
      ∃ found : List Literal, found.map (·.value) = texts ∧
        Path.evaluate (Engine.ofGraph g : Engine m) v (.iri id) { segments := [name] } =
          pure (found.map .literal) := by
  obtain ⟨c', hcontext', halike⟩ := Context.extend_ofBase hcontext base
  have hterm' : IsPlainTerm c' name d :=
    { hterm with found := (halike.term? name).trans hterm.found }
  have hname := halike.names hterm.found
  have hiri := isKeyword_of_vocabularyOf hvocabulary hfind
  have hresolve : c'.resolve id = id := by
    rw [Context.resolve, hid, Bool.or_true, if_pos rfl]
  have hexpand := expand_description hcontext' hterm' hname hiri id texts
  rw [hresolve] at hexpand
  have hrun := run_convert_texts hiri (blankLabel?_of_isAbsoluteIri hid)
    (d.language.or c'.language) texts
  rw [← run_convertDocument_of_ok hexpand] at hrun
  refine ⟨texts.map (textQuad (.iri id) d.iri (d.language.or c'.language)), ?_,
    texts.map (textIn (d.language.or c'.language)), ?_, ?_⟩
  · rw [quadsOf, run_cons_of_ok [] hrun]
    rfl
  · simp [Function.comp_def]
  · have hresolves : Path.Resolves v [name] := by
      simp [Path.Resolves, hfind]
    have hpath := Path.evaluate_ofGraph (m := m)
      (texts.map (textQuad (.iri id) d.iri (d.language.or c'.language))) (.iri id) .defaultGraph
      (List.cons_ne_nil name []) hresolves
    rw [List.filterMap_cons_some hfind, List.filterMap_nil] at hpath
    rw [← reach_textQuads]
    exact hpath

/-- A context that forgets what it defined first, and then defines a name by a prefix. -/
def labelContext : Json :=
  .array [.object [("label", .string "urn:forgotten")], .null,
    .object [("@language", .string "en"), ("ex", .string "http://a.b/"),
      ("label", .object [("@id", .string "ex:label")])]]

/-- Two labels are found in the order of the document. -/
theorem evaluate_labels :
    ∃ c v d, Context.extend {} labelContext = .ok c ∧
      vocabularyOf (.object [("@context", labelContext)]) = .ok v ∧
      v.find? "label" = some d.iri ∧ IsPlainTerm c "label" d ∧
      isAbsoluteIri "http://a.b/x" = true ∧
      ∃ g, quadsOf none [description labelContext "http://a.b/x" "label" ["b", "a"]] = .ok g ∧
        ∃ found : List Literal, found.map (·.value) = ["b", "a"] ∧
          Path.evaluate (Engine.ofGraph g : Engine Id) v (.iri "http://a.b/x")
            { segments := ["label"] } = pure (found.map .literal) := by
  let d : TermDefinition := { iri := "http://a.b/label" }
  obtain ⟨c, hcontext, hfound⟩ :
      ∃ c, Context.extend {} labelContext = .ok c ∧ c.term? "label" = some d := ⟨_, rfl, rfl⟩
  obtain ⟨v, hvocabulary, hfind⟩ :
      ∃ v, vocabularyOf (.object [("@context", labelContext)]) = .ok v ∧
        v.find? "label" = some d.iri := ⟨_, rfl, rfl⟩
  have hterm : IsPlainTerm c "label" d :=
    ⟨hfound, by decide, Or.inl (occursIn_iff.mp (by decide)), rfl, rfl, rfl⟩
  have hid : isAbsoluteIri "http://a.b/x" = true := by decide
  exact ⟨c, v, d, hcontext, hvocabulary, hfind, hterm, hid,
    evaluate_description hcontext hvocabulary hfind hterm hid none ["b", "a"]⟩

end LinkedData.JsonLd
