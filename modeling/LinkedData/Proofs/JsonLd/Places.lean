import LinkedData.Proofs.JsonLd.Merging
import Mathlib.Data.List.Forall2

/-!
# LinkedData.Proofs.JsonLd.Places -- the nodes of a document and the contexts they stand in

Contexts come with objects, with types and with terms, so what a key of a document means depends
on the place where it stands. The places where keys are read are the nodes of the document: of
the top level, of graphs and lists, and among the values of properties, at any depth.

Every node of a document that expands is expanded itself, in the context of its place. What it
expands to is found in the expanded document, unless it belongs to one of several graphs or
lists of a node, of which only the last is kept.
-/

namespace LinkedData.JsonLd

open LinkedData.Text

/-! ## Contexts -/

/-- The context in which the keys of a node are read: the context inside the object, with the
contexts that its types bring. -/
def nodeContext (members : Json.Members) (c : Context) : Except Document.Error Context := do
  typeContext (← objectContext c members) members

/-- The context in which the value of a key is read. -/
def valueContext (key : String) (c : Context) : Except Document.Error Context :=
  match keywordOf? c key, (c.term? key).bind (·.context) with
  | none, some own => c.extend own
  | _, _ => .ok c

theorem valueContext_keyword {c : Context} {key keyword : String}
    (h : keywordOf? c key = some keyword) : valueContext key c = .ok c := by
  rw [valueContext, h]

/-- An entry whose value holds nodes: a graph, a list, or values of a property. -/
def HoldsNodes (c : Context) (key : String) (value : Json) : Prop :=
  keywordOf? c key = some "@graph" ∨ keywordOf? c key = some "@list" ∨
    keywordOf? c key = none ∧
      ((c.term? key).bind (·.container) = some .language → value.members? = none)

/-! ## Values of a key -/

section Property

variable {c : Context} {key : String}

/-- The context of a value is made first. -/
theorem expandProperty_eq (hkey : keywordOf? c key = none) (value : Json)
    (read : Reading → Except Document.Error Json) :
    expandProperty c key value read = valueContext key c >>= fun context =>
      match (c.term? key).bind (·.container), value with
      | some .language, .object byLanguage => return .array (expandLanguageMap byLanguage)
      | some .list, .array _ => do
        let items ← read { type := (c.term? key).bind (·.type), context }
        return .array [.object [("@list", items)]]
      | _, _ => read
          { type := (c.term? key).bind (·.type),
            language := ((c.term? key).bind (·.language)).or context.language, context } := by
  rw [expandProperty, valueContext, hkey]
  cases (c.term? key).bind (·.context) with
  | none => rfl
  | some own => rfl

/-- A value that is neither a map from languages nor a list is read by the type and the language
of its key. -/
theorem expandProperty_plain (hkey : keywordOf? c key = none) {value : Json}
    (hlanguage : (c.term? key).bind (·.container) = some .language → value.members? = none)
    (hlist : (c.term? key).bind (·.container) = some .list → value.items? = none)
    (read : Reading → Except Document.Error Json) :
    expandProperty c key value read = valueContext key c >>= fun context => read
      { type := (c.term? key).bind (·.type),
        language := ((c.term? key).bind (·.language)).or context.language, context } := by
  rw [expandProperty_eq hkey]
  generalize (c.term? key).bind (·.container) = container at hlanguage hlist
  cases container with
  | none => rfl
  | some container =>
    cases container with
    | set => rfl
    | graph => rfl
    | list =>
      cases value with
      | array items => cases hlist rfl
      | _ => rfl
    | language =>
      cases value with
      | object members => cases hlanguage rfl
      | _ => rfl

/-- The key of a context stands for itself. -/
theorem ne_context_of_keywordOf? {keyword : Option String} (hkey : keywordOf? c key = keyword)
    (h : keyword ≠ some "@context") : key ≠ "@context" := by
  rintro rfl
  exact h (hkey.symm.trans (if_pos (by decide)))

theorem contribution_property {iri : String} (hkey : keywordOf? c key = none)
    (hiri : propertyIri? c key = some iri) (value : Json) :
    contribution c (key, value) =
      (expandProperty c key value fun r => expandValue r value) >>= fun expanded =>
        pure (some (iri, expanded)) := by
  simp only [contribution, if_neg (ne_context_of_keywordOf? hkey (by decide)), hkey, hiri]

theorem contribution_graph (hkey : keywordOf? c key = some "@graph") (value : Json) :
    contribution c (key, value) = expandElement c value >>= fun nodes =>
      pure (some ("@graph", .array (itemsOf nodes))) := by
  simp only [contribution, if_neg (ne_context_of_keywordOf? hkey (by decide)), hkey]

theorem contribution_list (hkey : keywordOf? c key = some "@list") (value : Json) :
    contribution c (key, value) = expandValue { context := c } value >>= fun items =>
      pure (some ("@list", items)) := by
  simp only [contribution, if_neg (ne_context_of_keywordOf? hkey (by decide)), hkey]

end Property

/-! ## Items of an array -/

theorem mapM_eq_ok_iff {ε α β : Type} {f : α → Except ε β} {xs : List α} {ys : List β} :
    xs.mapM f = .ok ys ↔ List.Forall₂ (fun x y => f x = .ok y) xs ys := by
  induction xs generalizing ys with
  | nil => exact ⟨fun h => Except.ok.inj h ▸ .nil, fun h => by cases h; rfl⟩
  | cons x xs ih =>
    rw [List.mapM_cons, List.forall₂_cons_left_iff]
    simp only [bind_eq_ok_iff, pure_eq_ok_iff, ih]
    exact ⟨fun ⟨y, hy, ys', hys', h⟩ => ⟨y, ys', hy, hys', h.symm⟩,
      fun ⟨y, ys', hy, hys', h⟩ => ⟨y, hy, ys', hys', h.symm⟩⟩

theorem exists_mem_of_forall₂ {α β : Type} {R : α → β → Prop} {xs : List α} {ys : List β}
    (h : List.Forall₂ R xs ys) {x : α} (hx : x ∈ xs) : ∃ y ∈ ys, R x y := by
  induction h with
  | nil => cases hx
  | @cons x' y xs ys hfirst hrest ih =>
    rcases List.mem_cons.mp hx with rfl | hx
    · exact ⟨y, List.mem_cons_self .., hfirst⟩
    · obtain ⟨y', hy', hR⟩ := ih hx
      exact ⟨y', List.mem_cons_of_mem _ hy', hR⟩

theorem expandElements_eq (c : Context) (items : List Json) :
    expandElements c items =
      items.mapM (expandElement c) >>= fun results => pure (results.flatMap itemsOf) := by
  induction items with
  | nil => rfl
  | cons item items ih =>
    simp only [expandElements, ih, List.mapM_cons, bind_assoc, pure_bind, List.flatMap_cons]

theorem expandValues_eq (r : Reading) (items : List Json) :
    expandValues r items =
      items.mapM (expandValue r) >>= fun results => pure (results.flatMap itemsOf) := by
  induction items with
  | nil => rfl
  | cons item items ih =>
    simp only [expandValues, ih, List.mapM_cons, bind_assoc, pure_bind, List.flatMap_cons]

/-! ## Nodes of a document -/

/-- The keys of an object are read as those of a node, in a context. -/
structure ReadAsNode (c : Context) (members : Json.Members) (active : Context) : Prop where
  context : nodeContext members c = .ok active
  node : ∀ inner, objectContext c members = .ok inner → isValueObject inner members = false

/-- The nodes of a document that stands in a context, each with the context in which its keys
are read. -/
inductive NodeIn : Context → Json → Context → Json.Members → Prop
  | here {c active : Context} {members : Json.Members} : ReadAsNode c members active →
      NodeIn c (.object members) active members
  | inside {c active inner c' : Context} {members ms : Json.Members} {key : String}
      {value : Json} : ReadAsNode c members active → (key, value) ∈ members →
      HoldsNodes active key value →
      (keywordOf? active key = none → ∃ iri, propertyIri? active key = some iri) →
      valueContext key active = .ok inner → NodeIn inner value c' ms →
      NodeIn c (.object members) c' ms
  | item {c c' : Context} {items : List Json} {value : Json} {ms : Json.Members} :
      value ∈ items → NodeIn c value c' ms → NodeIn c (.array items) c' ms

/-- A value that is found in another one, at any depth. -/
inductive Occurs (x : Json) : Json → Prop
  | here : Occurs x x
  | item {items : List Json} {y : Json} : y ∈ items → Occurs x y → Occurs x (.array items)
  | member {members : Json.Members} {key : String} {y : Json} : (key, y) ∈ members →
      Occurs x y → Occurs x (.object members)

/-- The keywords under which a node holds other nodes. -/
def nodeKeywords : List String :=
  ["@graph", "@list"]

/-- No two keys of a node stand for its graph, nor for a list. -/
def HoldsOnce (c : Context) (members : Json.Members) : Prop :=
  members.Pairwise fun m m' => ∀ keyword ∈ nodeKeywords, keywordOf? c m.1 = some keyword →
    keywordOf? c m'.1 ≠ some keyword

/-- What a document in a context expands to, as an element or as a value. -/
def ExpandsTo (c : Context) (document result : Json) : Prop :=
  expandElement c document = .ok result ∨
    ∃ type language, expandValue ⟨type, language, c⟩ document = .ok result

/-- The object that entries make, unless there are none. -/
def nodeOrNothing (entries : Json.Members) : Json :=
  if entries.isEmpty then .null else .object entries

section Occurs

variable {x : Json.Members} {result : Json}

/-- An object that is found in a value is found in one of its items. -/
theorem Occurs.exists_item (h : Occurs (.object x) result) :
    ∃ i ∈ itemsOf result, Occurs (.object x) i := by
  cases h with
  | here => exact ⟨_, List.mem_singleton_self _, .here⟩
  | item hy h => exact ⟨_, hy, h⟩
  | member hy h => exact ⟨_, List.mem_singleton_self _, .member hy h⟩

/-- An object that is found in one of several results is found in the array of all their items. -/
theorem Occurs.array {results : List Json} (h : Occurs (.object x) result)
    (hresult : result ∈ results) : Occurs (.object x) (.array (results.flatMap itemsOf)) := by
  obtain ⟨i, hi, h⟩ := h.exists_item
  exact .item (List.mem_flatMap.mpr ⟨result, hresult, hi⟩) h

end Occurs

/-! ### What a node keeps -/

section Kept

variable {c : Context} {members node : Json.Members} {entry : String × Json} {key : String}
  {value : Json}

theorem mem_valuesOf (hentry : entry ∈ members)
    (htold : contribution c entry = .ok (some (key, value))) :
    value ∈ valuesOf key (contributions c members) := by
  refine List.mem_map.mpr ⟨(key, value), List.mem_filter.mpr ⟨?_, by simp⟩, rfl⟩
  refine List.mem_filterMap.mpr ⟨entry, hentry, ?_⟩
  rw [htold]
  rfl

/-- What a node holds under a property: all items that its entries contribute. -/
theorem find?_property (hexpand : expandEntries c [] members = .ok node)
    (hkey : isKeyword key = false) (hentry : entry ∈ members)
    (htold : contribution c entry = .ok (some (key, value))) (hvalue : value ≠ .null) :
    ∃ items, Dict.find? node key = some (.array items) ∧ itemsOf value <:+: items := by
  obtain ⟨hnode, -⟩ := eq_foldl_of_expandEntries hexpand
  have hmem := mem_valuesOf hentry htold
  have hsome : (valuesOf key (contributions c members)).all Json.isNull = false := by
    refine Bool.eq_false_iff.mpr fun hall => hvalue ?_
    have hnull := List.all_eq_true.mp hall value hmem
    cases value with
    | null => rfl
    | _ => cases hnull
  refine ⟨_, ?_, List.infix_of_mem_flatten (List.mem_map_of_mem hmem)⟩
  rw [hnode, find?_foldl_receive, held, hkey, hsome]
  rfl

/-- What is contributed under a keyword comes from a key that stands for it. -/
theorem keywordOf?_of_contribution (hkey : isKeyword key = true)
    (htold : contribution c entry = .ok (some (key, value))) :
    keywordOf? c entry.1 = some key := by
  rw [contribution] at htold
  split at htold
  · cases htold
  · split at htold
    · rename_i hid
      obtain ⟨_, _, h⟩ := Option.map_eq_some_iff.mp (pure_eq_ok_iff.mp htold)
      cases h
      exact hid
    · rename_i htype
      obtain ⟨_, _, h⟩ := bind_eq_ok_iff.mp htold
      cases h
      exact htype
    · rename_i hgraph
      obtain ⟨_, _, h⟩ := bind_eq_ok_iff.mp htold
      cases h
      exact hgraph
    · rename_i hlist
      obtain ⟨_, _, h⟩ := bind_eq_ok_iff.mp htold
      cases h
      exact hlist
    · cases htold
    · split at htold
      · cases htold
      · rename_i iri hiri
        obtain ⟨_, _, h⟩ := bind_eq_ok_iff.mp htold
        cases h
        rw [(propertyIri?_eq_some_iff.mp hiri).2.1] at hkey
        cases hkey

theorem valuesOf_eq_nil (hkey : isKeyword key = true)
    (h : ∀ m ∈ members, keywordOf? c m.1 ≠ some key) :
    valuesOf key (contributions c members) = [] := by
  rw [valuesOf, List.map_eq_nil_iff, List.filter_eq_nil_iff]
  rintro ⟨k, v⟩ htold hk
  obtain rfl : k = key := by simpa using hk
  obtain ⟨m, hm, hcontributed⟩ := List.mem_filterMap.mp htold
  suffices hresult : contribution c m = .ok (some (k, v)) from
    h m hm (keywordOf?_of_contribution hkey hresult)
  cases hresult : contribution c m with
  | error e =>
    rw [hresult] at hcontributed
    cases hcontributed
  | ok told =>
    rw [hresult] at hcontributed
    exact congrArg _ hcontributed

theorem isKeyword_of_mem_nodeKeywords : ∀ key ∈ nodeKeywords, isKeyword key = true := by
  decide

/-- What a node holds as its graph or as a list, where a single key stands for it. -/
theorem find?_keyword (hexpand : expandEntries c [] members = .ok node)
    (honce : HoldsOnce c members) (hmem : key ∈ nodeKeywords) (hentry : entry ∈ members)
    (htold : contribution c entry = .ok (some (key, value))) :
    Dict.find? node key = some value := by
  have hkey := isKeyword_of_mem_nodeKeywords key hmem
  obtain ⟨hnode, -⟩ := eq_foldl_of_expandEntries hexpand
  obtain ⟨before, after, rfl⟩ := List.append_of_mem hentry
  have hlater := (List.pairwise_cons.mp (List.pairwise_append.mp honce).2.1).1
  have hafter : valuesOf key (contributions c after) = [] :=
    valuesOf_eq_nil hkey fun m hm =>
      hlater m hm key hmem (keywordOf?_of_contribution hkey htold)
  have hvalues : valuesOf key (contributions c (before ++ entry :: after)) =
      valuesOf key (contributions c before) ++ [value] := by
    have htold' : (contribution c entry).toOption.join = some (key, value) := by
      rw [htold]
      rfl
    rw [valuesOf] at hafter
    simpa [valuesOf, contributions, htold'] using hafter
  rw [hnode, find?_foldl_receive, hvalues, held_keyword_append hkey]

/-- An object in what an entry contributes is found in the node. -/
theorem occurs_of_contribution {x : Json.Members}
    (hexpand : expandEntries c [] members = .ok node) (honce : HoldsOnce c members)
    (hnodes : isKeyword key = true → key ∈ nodeKeywords) (hentry : entry ∈ members)
    (htold : contribution c entry = .ok (some (key, value))) (h : Occurs (.object x) value) :
    Occurs (.object x) (nodeOrNothing node) := by
  obtain ⟨held, hfind, hheld⟩ :
      ∃ held, Dict.find? node key = some held ∧ Occurs (.object x) held := by
    cases hkey : isKeyword key with
    | true => exact ⟨value, find?_keyword hexpand honce (hnodes hkey) hentry htold, h⟩
    | false =>
      have hvalue : value ≠ .null := by
        rintro rfl
        cases h
      obtain ⟨items, hfind, hitems⟩ := find?_property hexpand hkey hentry htold hvalue
      obtain ⟨i, hi, h⟩ := h.exists_item
      exact ⟨_, hfind, .item (hitems.subset hi) h⟩
  have hmem := Dict.mem_of_find?_eq_some hfind
  rw [nodeOrNothing, if_neg (mt List.isEmpty_iff.mp (List.ne_nil_of_mem hmem))]
  exact .member hmem hheld

end Kept

/-! ### What becomes of a node -/

/-- An object that is read as a node expands to what its entries make. -/
theorem ReadAsNode.expandObject_eq {c active : Context} {members : Json.Members}
    (h : ReadAsNode c members active)
    (entries : Context → Except Document.Error Json.Members) :
    expandObject c members entries = nodeOrNothing <$> entries active := by
  obtain ⟨inner, hinner, hactive⟩ := bind_eq_ok_iff.mp h.context
  rw [expandObject, hinner, ok_bind, h.node inner hinner, if_neg Bool.false_ne_true, hactive,
    ok_bind, map_eq_pure_bind]
  rfl

/-- What a property contributes is made of what its value expands to. -/
theorem exists_expandsTo {c inner : Context} {key : String} {value expanded : Json}
    (hkey : keywordOf? c key = none)
    (hlanguage : (c.term? key).bind (·.container) = some .language → value.members? = none)
    (hinner : valueContext key c = .ok inner)
    (h : (expandProperty c key value fun r => expandValue r value) = .ok expanded) :
    ∃ result, ExpandsTo inner value result ∧
      ∀ x : Json.Members, Occurs (.object x) result → Occurs (.object x) expanded := by
  by_cases hlist : (c.term? key).bind (·.container) = some .list → value.items? = none
  · rw [expandProperty_plain hkey hlanguage hlist, hinner, ok_bind] at h
    exact ⟨expanded, Or.inr ⟨_, _, h⟩, fun _ => id⟩
  · obtain ⟨hcontainer, hvalue⟩ := Classical.not_imp.mp hlist
    rw [expandProperty_eq hkey, hinner, ok_bind, hcontainer] at h
    cases value with
    | array items =>
      obtain ⟨results, hresults, h⟩ := bind_eq_ok_iff.mp h
      rw [← pure_eq_ok_iff.mp h]
      exact ⟨results, Or.inr ⟨_, none, hresults⟩, fun x hx =>
        .item (List.mem_singleton_self _) (.member (List.mem_singleton_self _) hx)⟩
    | _ => exact absurd rfl hvalue

/-- What an entry that holds nodes contributes is made of what its value expands to. -/
theorem exists_contribution {c inner : Context} {key : String} {value : Json}
    (hholds : HoldsNodes c key value)
    (hiri : keywordOf? c key = none → ∃ iri, propertyIri? c key = some iri)
    (hinner : valueContext key c = .ok inner) {told : Option (String × Json)}
    (htold : contribution c (key, value) = .ok told) :
    ∃ under contributed result, told = some (under, contributed) ∧
      (isKeyword under = true → under ∈ nodeKeywords) ∧ ExpandsTo inner value result ∧
      ∀ x : Json.Members, Occurs (.object x) result → Occurs (.object x) contributed := by
  rcases hholds with hgraph | hlist | ⟨hproperty, hlanguage⟩
  · rw [valueContext_keyword hgraph] at hinner
    obtain rfl := Except.ok.inj hinner
    rw [contribution_graph hgraph] at htold
    obtain ⟨result, hresult, htold⟩ := bind_eq_ok_iff.mp htold
    refine ⟨_, _, result, (pure_eq_ok_iff.mp htold).symm, fun _ => by decide, Or.inl hresult,
      fun x hx => ?_⟩
    obtain ⟨i, hi, hx⟩ := hx.exists_item
    exact .item hi hx
  · rw [valueContext_keyword hlist] at hinner
    obtain rfl := Except.ok.inj hinner
    rw [contribution_list hlist] at htold
    obtain ⟨result, hresult, htold⟩ := bind_eq_ok_iff.mp htold
    exact ⟨_, _, result, (pure_eq_ok_iff.mp htold).symm, fun _ => by decide,
      Or.inr ⟨none, none, hresult⟩, fun _ => id⟩
  · obtain ⟨iri, hiri⟩ := hiri hproperty
    rw [contribution_property hproperty hiri] at htold
    obtain ⟨expanded, hexpanded, htold⟩ := bind_eq_ok_iff.mp htold
    obtain ⟨result, hresult, hoccurs⟩ := exists_expandsTo hproperty hlanguage hinner hexpanded
    have hproperty := (propertyIri?_eq_some_iff.mp hiri).2.1
    exact ⟨_, _, result, (pure_eq_ok_iff.mp htold).symm, fun hkeyword =>
      absurd hkeyword (ne_true_of_eq_false hproperty), hresult, hoccurs⟩

theorem ExpandsTo.object {c : Context} {members : Json.Members} {result : Json}
    (h : ExpandsTo c (.object members) result) :
    expandObject c members (fun c => expandEntries c [] members) = .ok result := by
  rcases h with h | ⟨type, language, h⟩
  · rwa [expandElement] at h
  · rwa [expandValue] at h

/-- The items of an array expand one by one. -/
theorem ExpandsTo.item {c : Context} {items : List Json} {result item : Json}
    (h : ExpandsTo c (.array items) result) (hitem : item ∈ items) :
    ∃ part, ExpandsTo c item part ∧
      ∀ x : Json.Members, Occurs (.object x) part → Occurs (.object x) result := by
  rcases h with h | ⟨type, language, h⟩
  · rw [expandElement, expandElements_eq, bind_assoc] at h
    obtain ⟨parts, hparts, h⟩ := bind_eq_ok_iff.mp h
    obtain ⟨part, hmem, hpart⟩ := exists_mem_of_forall₂ (mapM_eq_ok_iff.mp hparts) hitem
    rw [← pure_eq_ok_iff.mp h]
    exact ⟨part, Or.inl hpart, fun x hx => hx.array hmem⟩
  · rw [expandValue, expandValues_eq, bind_assoc] at h
    obtain ⟨parts, hparts, h⟩ := bind_eq_ok_iff.mp h
    obtain ⟨part, hmem, hpart⟩ := exists_mem_of_forall₂ (mapM_eq_ok_iff.mp hparts) hitem
    rw [← pure_eq_ok_iff.mp h]
    exact ⟨part, Or.inr ⟨type, language, hpart⟩, fun x hx => hx.array hmem⟩

/-- Every node of a document that expands is expanded, in the context of its place, and found in
what the document expands to, unless several keys of a node stand for its graph or for a list. -/
theorem NodeIn.expanded {c c' : Context} {document : Json} {members : Json.Members}
    (h : NodeIn c document c' members) {result : Json} (hresult : ExpandsTo c document result) :
    ∃ node, expandEntries c' [] members = .ok node ∧
      ((∀ c'' ms, NodeIn c document c'' ms → HoldsOnce c'' ms) → node ≠ [] →
        Occurs (.object node) result) := by
  induction h generalizing result with
  | here hread =>
    have hobject := hresult.object
    rw [hread.expandObject_eq] at hobject
    obtain ⟨node, hnode, rfl⟩ := map_eq_ok_iff.mp hobject
    refine ⟨node, hnode, fun _ hne => ?_⟩
    rw [nodeOrNothing, if_neg (mt List.isEmpty_iff.mp hne)]
    exact .here
  | inside hread hentry hholds hiri hinner hnode ih =>
    have hobject := hresult.object
    rw [hread.expandObject_eq] at hobject
    obtain ⟨outer, houter, rfl⟩ := map_eq_ok_iff.mp hobject
    obtain ⟨told, htold⟩ := (eq_foldl_of_expandEntries houter).2 _ hentry
    obtain ⟨under, contributed, part, rfl, hunder, hpart, hoccurs⟩ :=
      exists_contribution hholds hiri hinner htold
    obtain ⟨node, hexpanded, hfound⟩ := ih hpart
    refine ⟨node, hexpanded, fun honce hne => ?_⟩
    have hfound := hfound
      (fun c'' ms hnode' => honce c'' ms (.inside hread hentry hholds hiri hinner hnode')) hne
    exact occurs_of_contribution houter (honce _ _ (.here hread)) hunder hentry htold
      (hoccurs node hfound)
  | item hitem hnode ih =>
    obtain ⟨part, hpart, hoccurs⟩ := hresult.item hitem
    obtain ⟨node, hexpanded, hfound⟩ := ih hpart
    refine ⟨node, hexpanded, fun honce hne => ?_⟩
    exact hoccurs node (hfound (fun c'' ms hnode' => honce c'' ms (.item hitem hnode')) hne)

end LinkedData.JsonLd
