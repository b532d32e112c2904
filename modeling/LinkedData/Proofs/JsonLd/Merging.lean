import LinkedData.Proofs.JsonLd.NormalForm

/-!
# LinkedData.Proofs.JsonLd.Merging -- keys of a node with the same meaning

Several keys of a node may stand for the same property, by aliases, prefixes and the default
vocabulary, and several for the same keyword. Expanding a node is a fold: each key contributes a
value under an IRI or a keyword, and the node receives one contribution after another. So what
the node holds in the end depends on the contributions alone: under a property the items of all
of them, in the order of the keys, but under a keyword the last one. Types and graphs that were
contributed before it are lost.
-/

namespace LinkedData.JsonLd

open LinkedData.Text

/-! ## Contributions -/

/-- What an entry of a node contributes to its expansion, under an IRI or a keyword. -/
def contribution (c : Context) (entry : String × Json) :
    Except Document.Error (Option (String × Json)) :=
  if entry.1 = "@context" then pure none
  else
    match keywordOf? c entry.1 with
    | some "@id" => pure (entry.2.string?.map fun id => ("@id", .string (c.resolve id)))
    | some "@type" => do
      let types ← expandTypes c entry.2
      pure (some ("@type", types))
    | some "@graph" => do
      let nodes ← expandElement c entry.2
      pure (some ("@graph", .array (itemsOf nodes)))
    | some "@list" => do
      let items ← expandValue { context := c } entry.2
      pure (some ("@list", items))
    | some _ => pure none
    | none =>
      match propertyIri? c entry.1 with
      | none => pure none
      | some iri => do
        let expanded ← expandProperty c entry.1 entry.2 fun r => expandValue r entry.2
        pure (some (iri, expanded))

/-- What the entries of a node contribute, in their order. -/
def contributions (c : Context) (entries : List (String × Json)) : List (String × Json) :=
  entries.filterMap fun entry => (contribution c entry).toOption.join

/-- A node with one more contribution. -/
def receive (node : Json.Members) (told : String × Json) : Json.Members :=
  if isKeyword told.1 then node.insert told.1 told.2 else addProperty node told.1 told.2

section Receive

variable {key : String}

theorem receive_keyword (h : isKeyword key = true) (node : Json.Members) (value : Json) :
    receive node (key, value) = node.insert key value :=
  if_pos h

theorem receive_property (h : isKeyword key = false) (node : Json.Members) (value : Json) :
    receive node (key, value) = addProperty node key value :=
  if_neg (by rw [h]; exact Bool.false_ne_true)

end Receive

/-- One step of the expansion of a node: it receives what the entry contributes. -/
theorem expandEntries_cons (c : Context) (before : Json.Members) (entry : String × Json)
    (rest : List (String × Json)) :
    expandEntries c before (entry :: rest) = contribution c entry >>= fun told =>
      expandEntries c (told.elim before (receive before)) rest := by
  obtain ⟨key, value⟩ := entry
  have hid : isKeyword "@id" = true := by decide
  have htype : isKeyword "@type" = true := by decide
  have hgraph : isKeyword "@graph" = true := by decide
  have hlist : isKeyword "@list" = true := by decide
  rw [expandEntries.eq_def]
  simp only [pure_bind]
  -- The context is passed over; then one case for each keyword, and the properties.
  split
  · rename_i hcontext
    simp only [contribution, if_pos hcontext, pure_bind, Option.elim_none]
  · rename_i hcontext
    split
    · rename_i hkey
      cases value <;>
        simp only [contribution, if_neg hcontext, hkey, Json.string?, Option.map_some,
          Option.map_none, pure_bind, Option.elim_some, Option.elim_none, receive_keyword hid]
    · rename_i hkey
      simp only [contribution, if_neg hcontext, hkey, bind_assoc, pure_bind, Option.elim_some,
        receive_keyword htype]
    · rename_i hkey
      simp only [contribution, if_neg hcontext, hkey, bind_assoc, pure_bind, Option.elim_some,
        receive_keyword hgraph]
    · rename_i hkey
      simp only [contribution, if_neg hcontext, hkey, bind_assoc, pure_bind, Option.elim_some,
        receive_keyword hlist]
    · rename_i hkey
      simp only [contribution, if_neg hcontext, hkey, pure_bind, Option.elim_none]
    · rename_i hkey
      split
      · rename_i hiri
        simp only [contribution, if_neg hcontext, hkey, hiri, pure_bind, Option.elim_none]
      · rename_i iri hiri
        have hproperty := (propertyIri?_eq_some_iff.mp hiri).2.1
        simp only [contribution, if_neg hcontext, hkey, hiri, bind_assoc, pure_bind,
          Option.elim_some, receive_property hproperty]

theorem expandEntries_append (c : Context) (node before after : Json.Members) :
    expandEntries c node (before ++ after) =
      expandEntries c node before >>= fun node => expandEntries c node after := by
  induction before generalizing node with
  | nil =>
    rw [expandEntries.eq_def c node []]
    rfl
  | cons m before ih =>
    rw [List.cons_append, expandEntries_cons, expandEntries_cons, bind_assoc]
    exact congrArg _ (funext fun told => ih _)

/-- A node that is expanded has received what its entries contribute, each without a fault. -/
theorem eq_foldl_of_expandEntries {c : Context} {before node : Json.Members}
    {entries : List (String × Json)} (h : expandEntries c before entries = .ok node) :
    node = (contributions c entries).foldl receive before ∧
      ∀ entry ∈ entries, ∃ told, contribution c entry = .ok told := by
  induction entries generalizing before with
  | nil =>
    rw [expandEntries] at h
    exact ⟨(Except.ok.inj h).symm, fun _ hmem => absurd hmem List.not_mem_nil⟩
  | cons entry rest ih =>
    rw [expandEntries_cons] at h
    obtain ⟨told, htold, h⟩ := bind_eq_ok_iff.mp h
    obtain ⟨hnode, hrest⟩ := ih h
    refine ⟨?_, List.forall_mem_cons.mpr ⟨⟨told, htold⟩, hrest⟩⟩
    have hjoin : (contribution c entry).toOption.join = told := by
      rw [htold]
      rfl
    rw [contributions, List.filterMap_cons, hjoin, hnode]
    cases told <;> rfl

/-! ## What a node holds -/

/-- The values that are contributed under a key. -/
def valuesOf (key : String) (told : List (String × Json)) : List Json :=
  (told.filter fun entry => entry.1 = key).map (·.2)

/-- What a node holds under a key for which it has received some values: of a keyword the last
one, of a property the items of all, unless none of them is anything. -/
def held (key : String) (values : List Json) : Option Json :=
  if isKeyword key then values.getLast?
  else if values.all Json.isNull then none else some (.array (values.flatMap itemsOf))

/-- The items that a property has so far. -/
def earlierItems (value : Option Json) : List Json :=
  (value.bind Json.items?).getD []

section Held

variable {key : String}

theorem held_keyword_append (h : isKeyword key = true) (values : List Json) (value : Json) :
    held key (values ++ [value]) = some value := by
  rw [held, if_pos h, List.getLast?_append_of_ne_nil _ (List.cons_ne_nil _ _)]
  rfl

theorem flatMap_itemsOf_eq_nil {values : List Json} (h : values.all Json.isNull = true) :
    values.flatMap itemsOf = [] := by
  rw [List.flatMap_eq_nil_iff]
  intro value hvalue
  have hnull := List.all_eq_true.mp h value hvalue
  cases value with
  | null => rfl
  | _ => cases hnull

theorem earlierItems_held (h : isKeyword key = false) (values : List Json) :
    earlierItems (held key values) = values.flatMap itemsOf := by
  rw [held, h, if_neg Bool.false_ne_true]
  split
  · rename_i hnull
    exact (flatMap_itemsOf_eq_nil hnull).symm
  · rfl

theorem held_property_append (h : isKeyword key = false) (values : List Json) (value : Json) :
    held key (values ++ [value]) =
      if value.isNull then held key values
      else some (.array (earlierItems (held key values) ++ itemsOf value)) := by
  rw [earlierItems_held h]
  cases hnull : value.isNull with
  | true =>
    have hitems : [value].flatMap itemsOf = [] := flatMap_itemsOf_eq_nil (by simpa using hnull)
    simp only [held, h, Bool.false_eq_true, if_false, List.all_append, List.all_cons, hnull,
      List.all_nil, Bool.and_true, List.flatMap_append, hitems, List.append_nil, if_true]
  | false =>
    simp [held, h, hnull]

/-- Adding items to a property, whatever it has so far. -/
theorem addItems_eq (node : Json.Members) (iri : String) (items : List Json) :
    addItems node iri items =
      node.insert iri (.array (earlierItems (Dict.find? node iri) ++ items)) := by
  rw [addItems, earlierItems]
  split
  · rename_i earlier hfind
    rw [hfind]
    rfl
  · rename_i hother
    cases hfind : Dict.find? node iri with
    | none => rfl
    | some value =>
      cases value with
      | array earlier => exact absurd hfind (hother earlier)
      | _ => rfl

theorem addProperty_of_ne_null {value : Json} (h : value ≠ .null) (node : Json.Members)
    (iri : String) : addProperty node iri value = addItems node iri (itemsOf value) := by
  cases value with
  | null => exact absurd rfl h
  | _ => rfl

theorem find?_addProperty_self (node : Json.Members) (key : String) (value : Json) :
    Dict.find? (addProperty node key value) key =
      if value.isNull then Dict.find? node key
      else some (.array (earlierItems (Dict.find? node key) ++ itemsOf value)) := by
  have hadd : Dict.find? (addItems node key (itemsOf value)) key =
      some (.array (earlierItems (Dict.find? node key) ++ itemsOf value)) := by
    rw [addItems_eq, Dict.find?_insert, if_pos rfl]
  cases value with
  | null => rfl
  | _ => exact hadd

theorem find?_receive_ne (node : Json.Members) {told : String × Json} (h : told.1 ≠ key) :
    Dict.find? (receive node told) key = Dict.find? node key := by
  rw [receive]
  split
  · rw [Dict.find?_insert, if_neg h]
  · unfold addProperty
    split
    · rfl
    · rw [addItems_eq, Dict.find?_insert, if_neg h]

/-- What a node holds in the end, by induction on the contribution that it receives last. -/
theorem find?_foldl_receive (told : List (String × Json)) (key : String) :
    Dict.find? (told.foldl receive []) key = held key (valuesOf key told) := by
  induction told using List.reverseRecOn with
  | nil =>
    rw [held]
    split <;> rfl
  | append_singleton told last ih =>
    rw [List.foldl_concat]
    by_cases hlast : last.1 = key
    · obtain ⟨k, value⟩ := last
      subst hlast
      have hvalues : valuesOf k (told ++ [(k, value)]) = valuesOf k told ++ [value] := by
        simp [valuesOf]
      rw [hvalues]
      cases hkeyword : isKeyword k with
      | true =>
        rw [receive_keyword hkeyword, Dict.find?_insert, if_pos rfl,
          held_keyword_append hkeyword]
      | false =>
        rw [receive_property hkeyword, find?_addProperty_self, held_property_append hkeyword, ih]
    · have hvalues : valuesOf key (told ++ [last]) = valuesOf key told := by
        simp [valuesOf, hlast]
      rw [hvalues, find?_receive_ne _ hlast, ih]

end Held

/-! ## Nodes -/

/-- **Keys with the same meaning.** An object that is no value expands, in the context that it and
its types bring, to a node that holds under each property all items which its keys contribute to
it, and under each keyword what the last of its keys contributes. -/
theorem member?_expandObject {c inner : Context} {members : Json.Members} {result : Json}
    (hinner : objectContext c members = .ok inner) (hnode : isValueObject inner members = false)
    (h : expandObject c members (fun c => expandEntries c [] members) = .ok result) :
    ∃ inside, typeContext inner members = .ok inside ∧
      (∀ entry ∈ members, ∃ told, contribution inside entry = .ok told) ∧
      ∀ key, result.member? key = held key (valuesOf key (contributions inside members)) := by
  rw [expandObject, hinner, ok_bind, hnode, if_neg Bool.false_ne_true] at h
  obtain ⟨inside, hinside, h⟩ := bind_eq_ok_iff.mp h
  obtain ⟨node, hentries, h⟩ := bind_eq_ok_iff.mp h
  obtain ⟨hfold, htold⟩ := eq_foldl_of_expandEntries hentries
  refine ⟨inside, hinside, htold, fun key => ?_⟩
  rw [← find?_foldl_receive, ← hfold, ← pure_eq_ok_iff.mp h]
  cases node <;> rfl

/-- An object with two names for one property. -/
def namedTwice : Json.Members :=
  [("@context", .object
      [("label", .string "http://a.b/name"), ("name", .string "http://a.b/name")]),
    ("@type", .string "http://a.b/T"), ("label", .string "x"), ("name", .string "y")]

theorem member?_namedTwice : ∃ inner result, objectContext {} namedTwice = .ok inner ∧
    isValueObject inner namedTwice = false ∧
    expandObject {} namedTwice (fun c => expandEntries c [] namedTwice) = .ok result ∧
    result.member? "http://a.b/name" =
      some (.array [valueObject [] (.string "x"), valueObject [] (.string "y")]) := by
  have hinner : objectContext {} namedTwice = .ok _ := rfl
  have hexpand : expandObject {} namedTwice (fun c => expandEntries c [] namedTwice) = .ok _ := rfl
  refine ⟨_, _, hinner, rfl, hexpand, ?_⟩
  obtain ⟨inside, hinside, -, hheld⟩ := member?_expandObject hinner rfl hexpand
  rw [hheld]
  cases hinside
  rfl

/-- A type is lost when another key of the node stands for its types and comes after it. -/
theorem expandObject_loses_type : ∃ inside,
    objectContext {} [("@context", .object [("kind", .string "@type")]),
      ("@type", .string "http://a.b/A"), ("kind", .string "http://a.b/B")] = .ok inside ∧
    contribution inside ("@type", .string "http://a.b/A") =
      .ok (some ("@type", .array [.string "http://a.b/A"])) ∧
    contribution inside ("kind", .string "http://a.b/B") =
      .ok (some ("@type", .array [.string "http://a.b/B"])) ∧
    expandElement {} (.object [("@context", .object [("kind", .string "@type")]),
      ("@type", .string "http://a.b/A"), ("kind", .string "http://a.b/B")]) =
      .ok (.object [("@type", .array [.string "http://a.b/B"])]) :=
  ⟨_, rfl, rfl, rfl, rfl⟩

end LinkedData.JsonLd
