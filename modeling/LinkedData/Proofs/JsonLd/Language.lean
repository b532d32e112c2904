import LinkedData.Proofs.JsonLd.Places

/-!
# LinkedData.Proofs.JsonLd.Language -- how far a default language reaches

A context may name the language of all strings for which nothing else is said. It reaches every
string that is a value of a property without a type and a language of its own, in arrays at any
depth, in every node of a document: each becomes a value object in that language, under the
property of its node in the expanded document. The language is the one of the context in which
the value is read, with all that the objects around it, the types of its node and its own term
have brought.

It does not reach into lists. Strings in an array of a term that holds lists, and strings under
`@list`, stay without a language.
-/

namespace LinkedData.JsonLd

open LinkedData.Text

/-! ## The strings of a value -/

mutual

/-- The values in an array and in the arrays in it; any other value alone. -/
def leaves : Json → List Json
  | .array items => leavesOf items
  | value => [value]

/-- The values in the items of an array. -/
def leavesOf : List Json → List Json
  | [] => []
  | item :: rest => leaves item ++ leavesOf rest

end

mutual

/-- A value expands leaf by leaf. -/
theorem items_expandValue (r : Reading) : (value : Json) →
    (expandValue r value >>= fun expanded => pure (itemsOf expanded)) =
      (leaves value).mapM (expandValue r) >>= fun results => pure (results.flatMap itemsOf)
  | .array items => by
    rw [expandValue, leaves, bind_assoc]
    exact (bind_pure _).trans (items_expandValues r items)
  | .object _ | .string _ | .number _ | .bool _ | .null => by
    simp only [leaves, List.mapM_cons, List.mapM_nil, pure_bind, bind_assoc, List.flatMap_cons,
      List.flatMap_nil, List.append_nil]
termination_by structural value => value

theorem items_expandValues (r : Reading) : (items : List Json) →
    expandValues r items =
      (leavesOf items).mapM (expandValue r) >>= fun results => pure (results.flatMap itemsOf)
  | [] => rfl
  | item :: rest => by
    have hfirst := items_expandValue r item
    have hrest := items_expandValues r rest
    calc expandValues r (item :: rest)
        = (expandValue r item >>= fun expanded => pure (itemsOf expanded)) >>= fun items =>
            expandValues r rest >>= fun others => pure (items ++ others) := by
          simp only [expandValues, bind_assoc, pure_bind]
      _ = (leavesOf (item :: rest)).mapM (expandValue r) >>= fun results =>
            pure (results.flatMap itemsOf) := by
          rw [hfirst, hrest]
          simp only [leavesOf, List.mapM_append, bind_assoc, pure_bind, List.flatMap_append]
termination_by structural items => items

end

/-- A result that a string leads to is the string, read in a language. -/
def IsText (language : Option String) (leaf result : Json) : Prop :=
  ∀ s, leaf = .string s → result = match language with
    | some tag => valueObject [("@language", .string tag)] (.string s)
    | none => valueObject [] (.string s)

/-- Where no type is asked for, every string of a value is read in the language of the
reading. -/
theorem texts_expandValue {r : Reading} (htype : r.type = none) {value expanded : Json}
    (h : expandValue r value = .ok expanded) :
    ∃ results, List.Forall₂ (IsText r.language) (leaves value) results ∧
      itemsOf expanded = results.flatMap itemsOf := by
  have hitems := items_expandValue r value
  rw [h, ok_bind] at hitems
  obtain ⟨results, hresults, hflat⟩ := bind_eq_ok_iff.mp hitems.symm
  refine ⟨results, (mapM_eq_ok_iff.mp hresults).imp ?_, (pure_eq_ok_iff.mp hflat).symm⟩
  rintro leaf result hleaf s rfl
  rw [expandValue, htype] at hleaf
  exact (Except.ok.inj hleaf).symm

/-! ## Strings of properties -/

/-- A key of a property and a value of it that is neither a map from languages nor a list, where
nothing is said about the type or the language of strings. -/
structure IsPlainProperty (c : Context) (key : String) (value : Json) (iri : String) : Prop where
  property : keywordOf? c key = none
  iri : propertyIri? c key = some iri
  type : (c.term? key).bind (·.type) = none
  language : (c.term? key).bind (·.language) = none
  map : (c.term? key).bind (·.container) = some .language → value.members? = none
  list : (c.term? key).bind (·.container) = some .list → value.items? = none

section Plain

variable {c inner : Context} {key iri : String} {value : Json}

/-- What such a property contributes: its strings in the default language. -/
theorem IsPlainProperty.texts (h : IsPlainProperty c key value iri)
    (hinner : valueContext key c = .ok inner) {told : Option (String × Json)}
    (htold : contribution c (key, value) = .ok told) :
    ∃ expanded results, told = some (iri, expanded) ∧
      List.Forall₂ (IsText inner.language) (leaves value) results ∧
      itemsOf expanded = results.flatMap itemsOf := by
  rw [contribution_property h.property h.iri, expandProperty_plain h.property h.map h.list, hinner,
    ok_bind, h.language, Option.none_or] at htold
  obtain ⟨expanded, hexpanded, htold⟩ := bind_eq_ok_iff.mp htold
  obtain ⟨results, hresults, hitems⟩ := texts_expandValue h.type hexpanded
  exact ⟨expanded, results, (pure_eq_ok_iff.mp htold).symm, hresults, hitems⟩

/-! ### Lists -/

/-- In a list that a term asks for strings stay without a language. -/
theorem texts_of_listed (hkey : keywordOf? c key = none)
    (hcontainer : (c.term? key).bind (·.container) = some .list)
    (htype : (c.term? key).bind (·.type) = none) {items : List Json} {expanded : Json}
    (h : (expandProperty c key (.array items) fun r => expandValue r (.array items)) =
      .ok expanded) :
    ∃ list results, expanded = .array [.object [("@list", list)]] ∧
      List.Forall₂ (IsText none) (leavesOf items) results ∧
      itemsOf list = results.flatMap itemsOf := by
  rw [expandProperty_eq hkey, hcontainer, htype] at h
  obtain ⟨context, -, h⟩ := bind_eq_ok_iff.mp h
  obtain ⟨list, hlist, h⟩ := bind_eq_ok_iff.mp h
  obtain ⟨results, hresults, hitems⟩ := texts_expandValue rfl hlist
  exact ⟨list, results, (pure_eq_ok_iff.mp h).symm, hresults, hitems⟩

/-- In a list that is written as one strings stay without a language. -/
theorem texts_of_list (hkey : keywordOf? c key = some "@list") {told : Option (String × Json)}
    (htold : contribution c (key, value) = .ok told) :
    ∃ list results, told = some ("@list", list) ∧
      List.Forall₂ (IsText none) (leaves value) results ∧
      itemsOf list = results.flatMap itemsOf := by
  rw [contribution_list hkey] at htold
  obtain ⟨list, hlist, htold⟩ := bind_eq_ok_iff.mp htold
  obtain ⟨results, hresults, hitems⟩ := texts_expandValue rfl hlist
  exact ⟨list, results, (pure_eq_ok_iff.mp htold).symm, hresults, hitems⟩

end Plain

/-! ## Documents -/

/-- **The default language.** In a document that expands, take a node, at any depth, and a string
among the values of a property of which nothing is said about type and language, in a context
that names a language. The node expands to one that has all strings of the value under the
property, in that language and in their order, and is found in the expanded document, unless
several keys of a node stand for its graph or for a list. -/
theorem language_of_expand {base : Option String} {document expanded : Json}
    (hexpand : expand document base = .ok expanded) {c : Context} {members : Json.Members}
    (hnode : NodeIn (.ofBase base) document c members) {key iri : String} {value : Json}
    (hentry : (key, value) ∈ members) (hplain : IsPlainProperty c key value iri)
    {inner : Context} (hinner : valueContext key c = .ok inner) {tag : String}
    (htag : inner.language = some tag) {s : String} (hs : .string s ∈ leaves value) :
    ∃ node items results, expandEntries c [] members = .ok node ∧
      Dict.find? node iri = some (.array items) ∧
      List.Forall₂ (IsText (some tag)) (leaves value) results ∧
      results.flatMap itemsOf <:+: items ∧
      ((∀ c' ms, NodeIn (.ofBase base) document c' ms → HoldsOnce c' ms) →
        Occurs (.object node) expanded) := by
  obtain ⟨result, hresult, hexpand⟩ := bind_eq_ok_iff.mp hexpand
  obtain ⟨node, hexpanded, hfound⟩ := hnode.expanded (Or.inl hresult)
  obtain ⟨told, htold⟩ := (eq_foldl_of_expandEntries hexpanded).2 _ hentry
  obtain ⟨contributed, results, rfl, htexts, hitems⟩ := hplain.texts hinner htold
  rw [htag] at htexts
  have hkeyword := (propertyIri?_eq_some_iff.mp hplain.iri).2.1
  -- The string leaves something, so the property is not dropped.
  have hcontributed : contributed ≠ .null := by
    rintro rfl
    obtain ⟨text, htext, hobject⟩ := exists_mem_of_forall₂ htexts hs
    have hnothing := List.flatMap_eq_nil_iff.mp hitems.symm text htext
    rw [hobject s rfl] at hnothing
    cases hnothing
  obtain ⟨items, hfind, hinfix⟩ := find?_property hexpanded hkeyword hentry htold hcontributed
  refine ⟨node, items, results, hexpanded, hfind, htexts, hitems ▸ hinfix, fun honce => ?_⟩
  have hne : node ≠ [] := List.ne_nil_of_mem (Dict.mem_of_find?_eq_some hfind)
  obtain ⟨i, hi, hoccurs⟩ := (hfound honce hne).exists_item
  rw [← pure_eq_ok_iff.mp hexpand]
  exact .item hi hoccurs

/-- The names of someone, in arrays in an array. -/
def knownNames : Json.Members :=
  [("name", .array [.array [.string "Anna"], .string "Bert"])]

/-- A document in one language, with a term whose values are in another. -/
def knownPerson : Json :=
  .object [
    ("@context", .object [("@language", .string "nl"),
      ("knows", .object [("@context", .object [("@language", .string "de")]),
        ("@id", .string "http://a.b/knows")]),
      ("name", .string "http://a.b/name")]),
    ("knows", .object knownNames)]

/-- The context of that document, in a language. -/
def knownPersonIn (language : String) : Context where
  terms := [
    ("knows", { iri := "http://a.b/knows",
                context := some (.object [("@language", .string "de")]) }),
    ("name", { iri := "http://a.b/name" })]
  language := some language

/-- No node of that document has a graph or a list. -/
theorem holdsOnce_knownPerson {c : Context} {ms : Json.Members}
    (h : NodeIn (.ofBase none) knownPerson c ms) : HoldsOnce c ms := by
  cases h with
  | here hread =>
    refine List.pairwise_pair.mpr fun keyword hkeyword hcontext => ?_
    cases hcontext
    exact absurd hkeyword (by decide)
  | inside hread hentry hholds hiri hinner hnode =>
    rcases List.mem_pair.mp hentry with heq | heq
    · cases heq
      rcases hholds with h | h | ⟨h, -⟩
      · exact absurd (Option.some.inj h) (by decide)
      · exact absurd (Option.some.inj h) (by decide)
      · cases h
    · cases heq
      -- The person is the only node inside, as the names are strings.
      cases hnode with
      | here => exact List.pairwise_singleton _ _
      | inside hread' hentry' hholds' hiri' hinner' hnode' =>
        cases List.mem_singleton.mp hentry'
        cases hnode' with
        | item hmem hnode' =>
          rcases List.mem_pair.mp hmem with rfl | rfl
          · cases hnode' with
            | item hmem hnode' =>
              cases List.mem_singleton.mp hmem
              cases hnode'
          · cases hnode'

theorem language_of_expand_knownPerson :
    ∃ expanded, expand knownPerson none = .ok expanded ∧
      NodeIn (.ofBase none) knownPerson (knownPersonIn "de") knownNames ∧
      valueContext "name" (knownPersonIn "de") = .ok (knownPersonIn "de") ∧
      ∃ node items results, expandEntries (knownPersonIn "de") [] knownNames = .ok node ∧
        Dict.find? node "http://a.b/name" = some (.array items) ∧
        List.Forall₂ (IsText (some "de")) [.string "Anna", .string "Bert"] results ∧
        results.flatMap itemsOf <:+: items ∧ Occurs (.object node) expanded := by
  have hexpand : expand knownPerson none = .ok _ := rfl
  have hnode : NodeIn (.ofBase none) knownPerson (knownPersonIn "de") knownNames := by
    refine @NodeIn.inside _ (knownPersonIn "nl") (knownPersonIn "de") _ _ _ "knows"
      (.object knownNames) ⟨rfl, ?_⟩ (List.mem_cons_of_mem _ (List.mem_singleton_self _))
      (Or.inr (Or.inr ⟨rfl, nofun⟩)) (fun _ => ⟨"http://a.b/knows", rfl⟩) rfl (.here ⟨rfl, ?_⟩)
    · rintro inner hinner
      cases hinner
      rfl
    · rintro inner hinner
      cases hinner
      rfl
  have hplain : IsPlainProperty (knownPersonIn "de") "name"
      (.array [.array [.string "Anna"], .string "Bert"]) "http://a.b/name" :=
    ⟨rfl, rfl, rfl, rfl, nofun, nofun⟩
  obtain ⟨node, items, results, hexpanded, hfind, htexts, hitems, hoccurs⟩ :=
    language_of_expand hexpand hnode (List.mem_singleton_self _) hplain rfl rfl
      (List.mem_cons_self ..)
  exact ⟨_, hexpand, hnode, rfl, node, items, results, hexpanded, hfind, htexts, hitems,
    hoccurs fun _ _ => holdsOnce_knownPerson⟩

/-- A document in one language with a list, as a term asks for it or as it is written. -/
def listed (definition : Json.Members) (names : Json) : Json :=
  .object [
    ("@context", .object [("@language", .string "nl"), ("names", .object definition)]),
    ("names", names)]

/-- The language of a document is lost in a list. -/
theorem expand_listed_plain :
    expand (listed [("@container", .string "@list"), ("@id", .string "http://a.b/names")]
        (.array [.string "Anna"])) none =
      .ok (.array [.object [("http://a.b/names",
        .array [.object [("@list", .array [valueObject [] (.string "Anna")])]])]]) ∧
    expand (listed [("@id", .string "http://a.b/names")]
        (.object [("@list", .array [.string "Anna"])])) none =
      .ok (.array [.object [("http://a.b/names",
        .array [.object [("@list", .array [valueObject [] (.string "Anna")])]])]]) :=
  ⟨rfl, rfl⟩

end LinkedData.JsonLd
