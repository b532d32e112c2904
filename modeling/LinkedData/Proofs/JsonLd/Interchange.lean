import LinkedData.JsonLd.Conversion
import LinkedData.JsonLd.Expansion
import LinkedData.Proofs.Dict.Ordered
import Mathlib.Data.List.Forall2
import Mathlib.Data.Option.Basic

/-!
# LinkedData.Proofs.JsonLd.Interchange -- what conversion cannot tell apart

Conversion reads four plain keywords of an object, its list, its graph, and the arrays of its
properties. Two objects in which it reads the same are interchangeable: wherever one of them
stands in an expanded document, the other leads to the same steps, with the same quads, the same
blank nodes and the same faults.

A property with no values is nothing to conversion, so a node may be given one. The only place
where that could be seen is the shortcut for a reference, a node object with an identifier and
nothing else; but a reference is converted to what the node itself would be.
-/

namespace LinkedData.JsonLd

open LinkedData.Rdf

/-! ## Objects -/

/-- Two items that lead to the same steps, as a value of a property, as a node of a graph and as
a node of the top level. -/
structure Interchangeable (x y : Json) : Prop where
  object (graph : Option Node) : Converter.objectOf graph x = Converter.objectOf graph y
  node (graph : Option Node) (rest : List Json) :
    Converter.nodes graph (x :: rest) = Converter.nodes graph (y :: rest)
  top (rest : List Json) : Converter.topLevels (x :: rest) = Converter.topLevels (y :: rest)

theorem Interchangeable.refl (x : Json) : Interchangeable x x :=
  ⟨fun _ => rfl, fun _ _ => rfl, fun _ => rfl⟩

/-- Two values that are the same but for items of an array, or for an object, that conversion
cannot tell apart. -/
inductive Alike : Json → Json → Prop
  | refl (x : Json) : Alike x x
  | object {ms ns : Json.Members} : Interchangeable (.object ms) (.object ns) →
      Alike (.object ms) (.object ns)
  | array {xs ys : List Json} : List.Forall₂ Interchangeable xs ys →
      Alike (.array xs) (.array ys)

section

variable {ms ns : Json.Members} {x y : Json}

theorem Alike.itemsOf (h : Alike x y) :
    List.Forall₂ Interchangeable (itemsOf x) (itemsOf y) := by
  cases h with
  | refl => exact List.forall₂_same.mpr fun i _ => .refl i
  | object hobject => exact .cons hobject .nil
  | array hitems => exact hitems

/-! ### Arrays -/

theorem objectsOf_congr {xs ys : List Json} (h : List.Forall₂ Interchangeable xs ys)
    (graph : Option Node) : Converter.objectsOf graph xs = Converter.objectsOf graph ys := by
  induction h with
  | nil => rfl
  | cons hfirst _ ih => rw [Converter.objectsOf, Converter.objectsOf, hfirst.object graph, ih]

theorem propertyItems_congr {xs ys : List Json} (h : List.Forall₂ Interchangeable xs ys)
    (graph : Option Node) (subject : Node) (predicate : Iri) :
    Converter.propertyItems graph subject predicate xs =
      Converter.propertyItems graph subject predicate ys := by
  induction h with
  | nil => rfl
  | cons hfirst _ ih =>
    rw [Converter.propertyItems, Converter.propertyItems, hfirst.object graph, ih]

theorem nodes_congr {xs ys : List Json} (h : List.Forall₂ Interchangeable xs ys)
    (graph : Option Node) : Converter.nodes graph xs = Converter.nodes graph ys := by
  induction h with
  | nil => rfl
  | @cons x y xs ys hfirst _ ih =>
    have hrest : Converter.nodes graph (x :: xs) = Converter.nodes graph (x :: ys) := by
      cases x <;> simp only [Converter.nodes, ih]
    rw [hrest, hfirst.node graph ys]

theorem topLevels_congr {xs ys : List Json} (h : List.Forall₂ Interchangeable xs ys) :
    Converter.topLevels xs = Converter.topLevels ys := by
  induction h with
  | nil => rfl
  | @cons x y xs ys hfirst _ ih =>
    have hrest : Converter.topLevels (x :: xs) = Converter.topLevels (x :: ys) := by
      cases x <;> simp only [Converter.topLevels, ih]
    rw [hrest, hfirst.top ys]

/-! ### Values of keys -/

theorem listOf_congr (h : Alike x y) (graph : Option Node) :
    Converter.listOf graph x = Converter.listOf graph y := by
  cases h with
  | refl => rfl
  | object => rfl
  | array hitems => rw [Converter.listOf, Converter.listOf, objectsOf_congr hitems graph]

theorem property_congr (h : Alike x y) (graph : Option Node) (subject : Node) (predicate : Iri) :
    Converter.property graph subject predicate x =
      Converter.property graph subject predicate y := by
  cases h with
  | refl => rfl
  | object => rfl
  | array hitems =>
    rw [Converter.property, Converter.property, propertyItems_congr hitems]

theorem graphNodes_congr (h : Alike x y) (graph : Option Node) :
    Converter.nodes graph (x.items?.getD []) = Converter.nodes graph (y.items?.getD []) := by
  cases h with
  | refl => rfl
  | object => rfl
  | array hitems => exact nodes_congr hitems graph

/-- The list of an object is the one that a look-up finds. -/
theorem listIn_eq (graph : Option Node) (members : Json.Members) :
    Converter.listIn graph members = match Dict.find? members "@list" with
      | some value => return some (.node (← Converter.listOf graph value))
      | none => return none := by
  induction members with
  | nil => rfl
  | cons m rest ih =>
    obtain ⟨key, value⟩ := m
    rw [Converter.listIn, Dict.find?]
    split
    · rfl
    · exact ih

/-! ### References -/

section References

variable (graph : Option Node) (subject : Node)

/-- The keywords of an object state no property. -/
theorem properties_keywords (h : ∀ m ∈ ms, isKeyword m.1 = true) :
    Converter.properties graph subject ms = pure () := by
  induction ms with
  | nil => rfl
  | cons m rest ih =>
    obtain ⟨hfirst, hrest⟩ := List.forall_mem_cons.mp h
    rw [Converter.properties, if_pos hfirst]
    exact ih hrest

theorem typesOf_eq_nil (h : Dict.find? ms "@type" = none) : Converter.typesOf ms = [] := by
  rw [Converter.typesOf, h]

/-- A node object of which only the identifier and a graph are told states nothing. -/
theorem node_eq_subjectOf (h : ∀ m ∈ ms, m.1 = "@id" ∨ m.1 = "@graph") :
    Converter.node graph ms = Converter.subjectOf ms := by
  have htypes : Dict.find? ms "@type" = none := by
    refine Dict.find?_eq_none_of_forall fun m hm => ?_
    rcases h m hm with hkey | hkey <;> rw [hkey] <;> decide
  have hproperties : ∀ m ∈ ms, isKeyword m.1 = true := by
    intro m hm
    rcases h m hm with hkey | hkey <;> rw [hkey] <;> decide
  simp only [Converter.node, Converter.beginNode, typesOf_eq_nil htypes, Converter.emitTypes,
    properties_keywords graph _ hproperties, pure_bind, bind_pure]

/-- A node object stands for the node, also where it is a mere reference. -/
theorem objectOf_node (hvalue : Dict.find? ms "@value" = none)
    (hlist : Dict.find? ms "@list" = none) :
    Converter.objectOf graph (.object ms) = do
      return some (.node (← Converter.node graph ms)) := by
  rw [Converter.objectOf, hvalue]
  dsimp only
  rw [if_neg (Dict.not_has_iff.mpr hlist)]
  split
  · rename_i href
    obtain ⟨hlength, hid⟩ := href
    obtain ⟨m, rfl⟩ := List.length_eq_one_iff.mp hlength
    have hkey : m.1 = "@id" := by
      obtain ⟨value, hfind⟩ := Dict.has_iff.mp hid
      have hmem := List.mem_singleton.mp (Dict.mem_of_find?_eq_some hfind)
      rw [← hmem]
    rw [node_eq_subjectOf graph fun m' hm' => Or.inl (List.mem_singleton.mp hm' ▸ hkey)]
  · simp only [Converter.node, bind_assoc, pure_bind]

/-- The graph that a node with an identifier names, whether it says more about it or not. -/
theorem graphOf_eq : Converter.graphOf ms =
    match (Dict.find? ms "@id").bind Json.string? with
    | none => return none
    | some _ => some <$> Converter.node none ms := by
  rw [Converter.graphOf]
  cases hid : (Dict.find? ms "@id").bind Json.string? with
  | none => rfl
  | some id =>
    dsimp only
    split
    · rfl
    · rename_i hother
      have hkeys : ∀ m ∈ ms, m.1 = "@id" ∨ m.1 = "@graph" := by
        intro m hm
        by_contra hne
        refine hother (List.any_eq_true.mpr ⟨m, hm, ?_⟩)
        simpa [not_or] using hne
      have hfind : Dict.find? ms "@id" = some (.string id) := by
        obtain ⟨value, hvalue, hstring⟩ := Option.bind_eq_some_iff.mp hid
        cases value <;> cases hstring
        exact hvalue
      have hsubject : Converter.subjectOf ms = Converter.nodeOf id := by
        rw [Converter.subjectOf, hfind]
      rw [node_eq_subjectOf none hkeys, hsubject, map_eq_pure_bind]

end References

end

/-! ### What is read of an object -/

/-- The keywords of which conversion reads a string. -/
def plainKeywords : List String :=
  ["@id", "@language", "@type", "@value"]

theorem isKeyword_of_mem_plainKeywords : ∀ key ∈ plainKeywords, isKeyword key = true := by
  decide

theorem ne_of_isKeyword {key iri : String} (hkey : isKeyword key = true)
    (hiri : isKeyword iri = false) : key ≠ iri := by
  rintro rfl
  rw [hkey] at hiri
  cases hiri

theorem not_mem_plainKeywords {key : String} (h : isKeyword key = false) :
    key ∉ plainKeywords :=
  fun hmem => ne_of_isKeyword (isKeyword_of_mem_plainKeywords key hmem) h rfl

/-- Two objects of which conversion reads the same. -/
structure ReadAlike (ms ns : Json.Members) : Prop where
  plain : ∀ key ∈ plainKeywords, Dict.find? ms key = Dict.find? ns key
  list : Option.Rel Alike (Dict.find? ms "@list") (Dict.find? ns "@list")
  graph : Option.Rel Alike (Dict.find? ms "@graph") (Dict.find? ns "@graph")
  properties (graph : Option Node) (subject : Node) :
    Converter.properties graph subject ms = Converter.properties graph subject ns

section ReadAlike

variable {ms ns : Json.Members} (h : ReadAlike ms ns)

include h

theorem ReadAlike.node_eq (graph : Option Node) :
    Converter.node graph ms = Converter.node graph ns := by
  have hid := h.plain "@id" (by decide)
  have htype := h.plain "@type" (by decide)
  have hbegin : Converter.beginNode graph ms = Converter.beginNode graph ns := by
    rw [Converter.beginNode, Converter.beginNode, Converter.subjectOf, Converter.subjectOf, hid,
      Converter.typesOf, Converter.typesOf, htype]
  simp only [Converter.node, hbegin, h.properties]

theorem ReadAlike.listIn_eq (graph : Option Node) :
    Converter.listIn graph ms = Converter.listIn graph ns := by
  rw [JsonLd.listIn_eq, JsonLd.listIn_eq]
  have hlist := h.list
  generalize Dict.find? ms "@list" = l at hlist ⊢
  generalize Dict.find? ns "@list" = l' at hlist ⊢
  cases hlist with
  | none => rfl
  | some hvalue => simp only [listOf_congr hvalue]

theorem ReadAlike.has_list : Dict.has ms "@list" = Dict.has ns "@list" := by
  have hlist := h.list
  rw [Dict.has, Dict.has]
  generalize Dict.find? ms "@list" = l at hlist ⊢
  generalize Dict.find? ns "@list" = l' at hlist ⊢
  cases hlist <;> rfl

theorem ReadAlike.objectOf_eq (graph : Option Node) :
    Converter.objectOf graph (.object ms) = Converter.objectOf graph (.object ns) := by
  have hvalue := h.plain "@value" (by decide)
  cases hfind : Dict.find? ms "@value" with
  | some value =>
    have hliteral : Converter.literalOf value ms = Converter.literalOf value ns := by
      rw [Converter.literalOf, Converter.literalOf, h.plain "@language" (by decide),
        h.plain "@type" (by decide)]
    simp only [Converter.objectOf, ← hvalue, hfind, hliteral]
  | none =>
    rw [hfind] at hvalue
    cases hlist : Dict.has ms "@list" with
    | true =>
      rw [Converter.objectOf, Converter.objectOf, ← hvalue, hfind, ← h.has_list, hlist]
      exact h.listIn_eq graph
    | false =>
      have hms := Dict.not_has_iff.mp (ne_true_of_eq_false hlist)
      have hns := Dict.not_has_iff.mp (ne_true_of_eq_false (h.has_list.symm.trans hlist))
      rw [objectOf_node graph hfind hms, objectOf_node graph hvalue.symm hns, h.node_eq]

theorem ReadAlike.topLevel_eq : Converter.topLevel ms = Converter.topLevel ns := by
  have hgraph := h.graph
  have hnaming : Converter.graphOf ms = Converter.graphOf ns := by
    rw [graphOf_eq, graphOf_eq, h.plain "@id" (by decide), h.node_eq]
  rw [Converter.topLevel, Converter.topLevel]
  generalize Dict.find? ms "@graph" = g at hgraph ⊢
  generalize Dict.find? ns "@graph" = g' at hgraph ⊢
  cases hgraph with
  | none => simp only [h.node_eq]
  | some hnodes => simp only [hnaming, graphNodes_congr hnodes]

/-- Objects of which the same is read are interchangeable. -/
theorem ReadAlike.interchangeable : Interchangeable (.object ms) (.object ns) where
  object := h.objectOf_eq
  node graph rest := by rw [Converter.nodes, Converter.nodes, h.node_eq]
  top rest := by rw [Converter.topLevels, Converter.topLevels, h.topLevel_eq]

end ReadAlike

/-! ## Entries -/

/-- Two entries of objects that differ at most in items that conversion cannot tell apart. -/
inductive AlikeEntry : String × Json → String × Json → Prop
  | same (m : String × Json) : AlikeEntry m m
  | changed {key : String} {x y : Json} : key ∉ plainKeywords → Alike x y →
      AlikeEntry (key, x) (key, y)

/-- Two objects with such entries. -/
abbrev AlikeEntries : Json.Members → Json.Members → Prop :=
  List.Forall₂ AlikeEntry

theorem AlikeEntries.refl (ms : Json.Members) : AlikeEntries ms ms :=
  List.forall₂_same.mpr fun m _ => .same m

theorem AlikeEntry.key_eq {m n : String × Json} (h : AlikeEntry m n) : n.1 = m.1 := by
  cases h <;> rfl

theorem AlikeEntry.value {m n : String × Json} (h : AlikeEntry m n) : Alike m.2 n.2 := by
  cases h with
  | same => exact .refl _
  | changed _ hvalue => exact hvalue

namespace AlikeEntries

variable {ms ns : Json.Members} (h : AlikeEntries ms ns)

include h

theorem find? (key : String) :
    Option.Rel Alike (Dict.find? ms key) (Dict.find? ns key) := by
  induction h with
  | nil => exact .none
  | @cons m n ms ns hfirst _ ih =>
    rw [Dict.find?, Dict.find?, hfirst.key_eq]
    split
    · exact .some hfirst.value
    · exact ih

theorem find?_plain {key : String} (hkey : key ∈ plainKeywords) :
    Dict.find? ms key = Dict.find? ns key := by
  induction h with
  | nil => rfl
  | @cons m n ms ns hfirst _ ih =>
    cases hfirst with
    | same => rw [Dict.find?, Dict.find?, ih]
    | changed hplain =>
      have hne := ne_of_mem_of_not_mem hkey hplain
      rw [Dict.find?_cons_ne hne.symm, Dict.find?_cons_ne hne.symm, ih]

theorem properties (graph : Option Node) (subject : Node) :
    Converter.properties graph subject ms = Converter.properties graph subject ns := by
  induction h with
  | nil => rfl
  | @cons m n ms ns hfirst _ ih =>
    obtain ⟨key, value⟩ := m
    obtain ⟨key', value'⟩ := n
    obtain rfl : key' = key := hfirst.key_eq
    rw [Converter.properties, Converter.properties, property_congr hfirst.value, ih]

theorem readAlike : ReadAlike ms ns where
  plain _ := h.find?_plain
  list := h.find? "@list"
  graph := h.find? "@graph"
  properties := h.properties

theorem insert {key : String} {x y : Json} (hentry : AlikeEntry (key, x) (key, y)) :
    AlikeEntries (Dict.insert key x ms) (Dict.insert key y ns) := by
  induction h with
  | nil => exact .cons hentry .nil
  | @cons m n ms ns hfirst hrest ih =>
    obtain ⟨k, value⟩ := m
    obtain ⟨k', value'⟩ := n
    obtain rfl : k' = k := hfirst.key_eq
    rw [Dict.insert, Dict.insert]
    split
    · exact .cons hentry (.cons hfirst hrest)
    · split
      · exact .cons hentry hrest
      · exact .cons hfirst ih

end AlikeEntries

/-! ## Properties without values -/

theorem properties_append (graph : Option Node) (subject : Node)
    (before after : Json.Members) :
    Converter.properties graph subject (before ++ after) =
      (do
        Converter.properties graph subject before
        Converter.properties graph subject after) := by
  induction before with
  | nil => rfl
  | cons m before ih =>
    rw [List.cons_append, Converter.properties, Converter.properties, ih]
    cases isKeyword m.1 with
    | true => rfl
    | false => simp only [Bool.false_eq_true, if_false, bind_assoc]

/-- A property without values is nothing to conversion. -/
theorem interchangeable_padded {ms : Json.Members} {iri : String} (hiri : isKeyword iri = false)
    (hnew : Dict.find? ms iri = none) :
    Interchangeable (.object ms) (.object (ms.insert iri (.array []))) := by
  have hother : ∀ key, isKeyword key = true →
      Dict.find? ms key = Dict.find? (ms.insert iri (.array [])) key := by
    intro key hkey
    rw [Dict.find?_insert, if_neg (ne_of_isKeyword hkey hiri).symm]
  have hrel : ∀ key, isKeyword key = true →
      Option.Rel Alike (Dict.find? ms key) (Dict.find? (ms.insert iri (.array [])) key) := by
    intro key hkey
    rw [← hother key hkey]
    cases Dict.find? ms key with
    | none => exact .none
    | some value => exact .some (.refl value)
  refine ReadAlike.interchangeable ⟨?_, hrel _ (by decide), hrel _ (by decide), ?_⟩
  · exact fun key hkey => hother key (isKeyword_of_mem_plainKeywords key hkey)
  · intro graph subject
    obtain ⟨before, after, rfl, hinsert⟩ := Dict.insert_eq_append hnew (.array [])
    simp only [hinsert, properties_append, Converter.properties, hiri, Bool.false_eq_true,
      if_false, Converter.property, Converter.propertyItems, pure_bind]

end LinkedData.JsonLd
