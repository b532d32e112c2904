import LinkedData.Proofs.Dict.Ordered
import LinkedData.Proofs.JsonLd.NormalForm
import LinkedData.Proofs.Text.Step
import LinkedData.Rdf.Term
import LinkedData.Text.Search

/-!
# LinkedData.Proofs.JsonLd.Bare -- documents that are their own expansion

A context that defines nothing leaves names as they are, so expanding in it changes nothing of a
document in normal form, provided that the keys of its properties are recognised: each begins with a
scheme, so that it is taken for an IRI, and has the shape that a property needs.
-/

namespace LinkedData.JsonLd

open LinkedData.Rdf LinkedData.Text

/-! ## Names in a context that defines nothing -/

/-- The context of a document without a base. -/
abbrev bare : Context :=
  .ofBase none

theorem compact?_bare (s : String) : bare.compact? s = none := by
  rw [Context.compact?]
  cases splitColon? s with
  | none => rfl
  | some parts => rfl

/-- References stay as they are. -/
theorem resolve_bare (s : String) : bare.resolve s = s := by
  rw [Context.resolve, compact?_bare]
  split
  · rfl
  · rfl

/-- So do the names of types. -/
theorem iriOrSelf_bare (s : String) : bare.iriOrSelf s = s := by
  rw [Context.iriOrSelf, Context.expandIri, compact?_bare]
  split
  · rfl
  · show Option.getD (ite _ _ _) s = s
    split
    · rfl
    · rfl

/-- And the names of types of nodes. -/
theorem vocabularyIri_bare (s : String) : vocabularyIri bare s = s := by
  have hself := iriOrSelf_bare s
  rw [Context.iriOrSelf] at hself
  rw [vocabularyIri]
  cases hiri : bare.expandIri s with
  | none => exact resolve_bare s
  | some iri =>
    rw [hiri, Option.getD_some] at hself
    rw [hself, resolve_bare]
    exact ite_self s

theorem keywordOf?_bare (key : String) :
    keywordOf? bare key = if isKeyword key then some key else none := rfl

section Scheme

/-- A text begins with a scheme and a colon. -/
def BeginsWithScheme (s : String) : Prop :=
  ∃ scheme rest, s.toList = scheme ++ ':' :: rest ∧ isScheme scheme = true

theorem isSchemeChar_of_isLetter {c : Char} (h : Url.isLetter c = true) :
    Url.isSchemeChar c = true := by
  rw [Url.isSchemeChar, h]
  rfl

theorem not_colon_of_mem_scheme {scheme : List Char} (h : isScheme scheme = true) :
    ∀ c ∈ scheme, (c != ':') = true := by
  intro c hc
  have hchar : Url.isSchemeChar c = true := by
    cases scheme with
    | nil => cases hc
    | cons first rest =>
      rw [isScheme, Bool.and_eq_true] at h
      rcases List.mem_cons.mp hc with rfl | hc
      · exact isSchemeChar_of_isLetter h.1
      · exact List.all_eq_true.mp h.2 c hc
  rw [bne_iff_ne]
  rintro rfl
  exact absurd hchar (by decide)

theorem BeginsWithScheme.splitColon? {s : String} (h : BeginsWithScheme s) :
    ∃ scheme rest, splitColon? s = some (scheme, rest) ∧ isScheme scheme = true := by
  obtain ⟨scheme, rest, hs, hscheme⟩ := h
  have hchars := not_colon_of_mem_scheme hscheme
  refine ⟨scheme, rest, ?_, hscheme⟩
  rw [JsonLd.splitColon?, hs, List.dropWhile_append_of_pos hchars,
    List.takeWhile_append_of_pos hchars, List.dropWhile_cons_of_neg (by decide),
    List.takeWhile_cons_of_neg (by decide), List.append_nil]

/-- A scheme begins with a letter, which no keyword does. -/
theorem BeginsWithScheme.letter {s : String} (h : BeginsWithScheme s) :
    ∃ c rest, s.toList = c :: rest ∧ Url.isLetter c = true := by
  obtain ⟨scheme, rest, hs, hscheme⟩ := h
  cases scheme with
  | nil => cases hscheme
  | cons c more =>
    rw [isScheme, Bool.and_eq_true] at hscheme
    exact ⟨c, more ++ ':' :: rest, hs, hscheme.1⟩

theorem lt_of_isLetter {c : Char} (h : Url.isLetter c = true) : '@' < c := by
  simp only [Url.isLetter, Bool.or_eq_true, Bool.and_eq_true, decide_eq_true_eq] at h
  rcases h with ⟨h, -⟩ | ⟨h, -⟩
  · exact lt_of_lt_of_le (by decide) h
  · exact lt_of_lt_of_le (by decide) h

end Scheme

/-- What a document needs of a predicate: it is no keyword, sorts after all of them, and stands
for itself. -/
structure IsKey (p : Iri) : Prop where
  keyword : isKeyword p = false
  after : "@id" < p
  iri : propertyIri? bare p = some p

theorem isKey_of_scheme {p : String} (hscheme : BeginsWithScheme p) (hshape : HasPropertyShape p) :
    IsKey p := by
  obtain ⟨c, tail, hp, hletter⟩ := hscheme.letter
  have hlt := lt_of_isLetter hletter
  have hkeyword : isKeyword p = false := by
    rw [isKeyword, hp]
    simpa using hlt.ne'
  refine ⟨hkeyword, ?_, ?_⟩
  · rw [String.lt_iff_toList_lt, hp]
    exact List.cons_lt_cons_iff.mpr (Or.inl hlt)
  · have hiri : bare.expandIri p = some p := by
      obtain ⟨scheme, rest, hsplit, hscheme⟩ := hscheme.splitColon?
      rw [Context.expandIri, compact?_bare, hsplit]
      split
      · rfl
      · show (if isScheme scheme then some p else _) = _
        rw [if_pos hscheme]
    exact propertyIri?_eq_some_iff.mpr ⟨hiri, hkeyword, hshape⟩

theorem IsKey.ne {p : Iri} (hp : IsKey p) {key : String} (hkey : isKeyword key = true) :
    p ≠ key := by
  rintro rfl
  exact absurd hkey (by rw [hp.keyword]; decide)

/-! ## Expansion changes nothing -/

theorem typeContext_bare (members : Json.Members) : typeContext bare members = .ok bare := by
  rw [typeContext]
  split
  · rfl
  · have hnone : ∀ names : List String,
        (names.filterMap fun t => (bare.term? t).bind (·.context)) = [] :=
      fun names => List.filterMap_eq_nil_iff.mpr fun _ _ => rfl
    rw [hnone]
    rfl

theorem isValueObject_bare {members : Json.Members} (h : ∀ m ∈ members, m.1 ≠ "@value") :
    isValueObject bare members = false := by
  rw [isValueObject, List.any_eq_false]
  intro m hm hkeyword
  rw [keywordOf?_bare, beq_iff_eq] at hkeyword
  split at hkeyword
  · exact h m hm (Option.some.inj hkeyword)
  · cases hkeyword

/-- A node object whose entries expand to some is these entries. -/
theorem expandObject_bare {members kept : Json.Members}
    {entries : Context → Except Document.Error Json.Members}
    (hcontext : ∀ m ∈ members, m.1 ≠ "@context") (hvalue : ∀ m ∈ members, m.1 ≠ "@value")
    (hkept : entries bare = .ok kept) (hne : kept ≠ []) :
    expandObject bare members entries = .ok (.object kept) := by
  have hobject : objectContext bare members = .ok bare := by
    rw [objectContext, Dict.find?_eq_none_of_forall hcontext]
  rw [expandObject, hobject]
  show (if isValueObject bare members = true then _ else
    (typeContext bare members >>= fun c => entries c >>= fun result =>
      pure (if result.isEmpty then Json.null else .object result))) = _
  rw [isValueObject_bare hvalue, if_neg Bool.false_ne_true, typeContext_bare, ok_bind, hkept,
    ok_bind, if_neg (by simpa using hne)]
  rfl

section Entries

variable (before : Json.Members) (rest : List (String × Json))

/-- The context of an object is no entry of it. -/
theorem expandEntries_context (c : Context) (value : Json) :
    expandEntries c before (("@context", value) :: rest) = expandEntries c before rest := by
  rw [expandEntries.eq_def]
  rfl

theorem expandEntries_id (c : Context) (id : String) :
    expandEntries c before (("@id", .string id) :: rest) =
      expandEntries c (before.insert "@id" (.string (c.resolve id))) rest := by
  rw [expandEntries.eq_def]
  rfl

/-- A key that stands for a property which the node does not have yet. -/
theorem expandEntries_property {c : Context} {key iri : String} {value : Json} {items : List Json}
    (hkeyword : keywordOf? c key = none) (hiri : propertyIri? c key = some iri)
    (hvalue : expandProperty c key value (fun r => expandValue r value) = .ok (.array items))
    (hnew : Dict.find? before iri = none) :
    expandEntries c before ((key, value) :: rest) =
      expandEntries c (before.insert iri (.array items)) rest := by
  have hcontext : key ≠ "@context" := by
    rintro rfl
    cases hkeyword
  have hadd : addProperty before iri (.array items) = before.insert iri (.array items) := by
    show addItems before iri items = _
    rw [addItems, hnew]
  rw [expandEntries.eq_def]
  simp only [hcontext, if_false, hkeyword, hiri, hvalue, ok_bind, pure_bind, hadd]

theorem expandEntries_types (types : List String) :
    expandEntries bare before (("@type", .array (types.map .string)) :: rest) =
      expandEntries bare (Dict.insert "@type" (.array (types.map .string)) before) rest := by
  have htypes : expandTypes bare (.array (types.map .string)) =
      .ok (.array (types.map .string)) := by
    simp [expandTypes, List.filterMap_map, Function.comp_def, Json.string?, vocabularyIri_bare]
  rw [expandEntries.eq_def]
  show (expandTypes bare (.array (types.map .string)) >>= fun _ => _) = _
  rw [htypes]
  rfl

theorem expandEntries_list {value : Json}
    (h : expandValue { context := bare } value = .ok value) :
    expandEntries bare before (("@list", value) :: rest) =
      expandEntries bare (before.insert "@list" value) rest := by
  rw [expandEntries.eq_def]
  show (expandValue { context := bare } value >>= fun _ => _) = _
  rw [h]
  rfl

theorem expandEntries_graph {nodes : List Json}
    (h : expandElement bare (.array nodes) = .ok (.array nodes)) :
    expandEntries bare before (("@graph", .array nodes) :: rest) =
      expandEntries bare (before.insert "@graph" (.array nodes)) rest := by
  rw [expandEntries.eq_def]
  show (expandElement bare (.array nodes) >>= fun _ => _) = _
  rw [h]
  rfl

theorem expandEntries_key {p : Iri} (hp : IsKey p) {items : List Json}
    (h : ∀ r : Reading, r.context = bare → expandValues r items = .ok items)
    (hnew : Dict.find? before p = none) :
    expandEntries bare before ((p, .array items) :: rest) =
      expandEntries bare (before.insert p (.array items)) rest := by
  have hkeyword : keywordOf? bare p = none := by
    rw [keywordOf?_bare, hp.keyword]
    rfl
  have hexpanded : expandProperty bare p (.array items) (fun r => expandValue r (.array items)) =
      .ok (.array items) := by
    show expandValue _ (.array items) = _
    rw [expandValue, h _ rfl]
    rfl
  exact expandEntries_property before rest hkeyword hp.iri hexpanded hnew

end Entries

/-- A value object whose members are kept is these members. -/
theorem expandObject_bare_value {members : Json.Members} {value : Json}
    (entries : Context → Except Document.Error Json.Members)
    (hcontext : ∀ m ∈ members, m.1 ≠ "@context")
    (hkept : expandValueMembers bare members = .ok members)
    (hfind : Dict.find? members "@value" = some value) (hvalue : value ≠ .null) :
    expandObject bare members entries = .ok (.object members) := by
  have hobject : objectContext bare members = .ok bare := by
    rw [objectContext, Dict.find?_eq_none_of_forall hcontext]
  have hholds : isValueObject bare members = true :=
    List.any_eq_true.mpr
      ⟨_, Dict.mem_of_find?_eq_some hfind, beq_iff_eq.mpr (keywordOf?_bare "@value")⟩
  rw [expandObject, hobject, ok_bind, if_pos hholds, expandValueObject, hkept, ok_bind, hfind]
  cases value with
  | null => exact absurd rfl hvalue
  | _ => rfl

/-- The members of a value object are all kept. -/
theorem expandValueMembers_bare {members : Json.Members} (hordered : members.Ordered)
    (h : ∀ m ∈ members, IsValueEntry m.1 m.2) :
    expandValueMembers bare members = .ok members := by
  show _ = Except.ok ([] ++ members)
  replace hordered : Dict.Ordered ([] ++ members) := hordered
  rw [expandValueMembers]
  -- The induction is on the members to come, for any that were kept before them.
  generalize ([] : Json.Members) = before at hordered ⊢
  induction members generalizing before with
  | nil => exact congrArg Except.ok (List.append_nil before).symm
  | cons m rest ih =>
    obtain ⟨key, value⟩ := m
    have hmember : IsValueEntry key value := h _ (List.mem_cons_self ..)
    have hlast := Dict.insert_last hordered.lt_of_mem value
    rw [List.append_cons] at hordered ⊢
    rw [← ih (fun m hm => h m (List.mem_cons_of_mem _ hm)) _ hordered, ← hlast, List.foldlM_cons]
    cases hmember with
    | value => rfl
    | type type =>
      show List.foldlM _ (Dict.insert "@type" (.string (bare.iriOrSelf type)) before) rest = _
      rw [iriOrSelf_bare]
    | language => rfl

/-! ## Documents in normal form -/

mutual

/-- The keys of the properties in a value, at any depth; what `@value` and `@language` hold is
data. -/
def propertyKeys : Json → List String
  | .array items => itemKeys items
  | .object members => memberKeys members
  | _ => []

def itemKeys : List Json → List String
  | [] => []
  | item :: rest => propertyKeys item ++ itemKeys rest

def memberKeys : List (String × Json) → List String
  | [] => []
  | (key, value) :: rest =>
    (if isKeyword key then [] else [key]) ++
      (if key ∈ ["@value", "@language"] then [] else propertyKeys value) ++ memberKeys rest

end

section Keys

variable {P : String → Prop}

theorem forall_propertyKeys_array {items : List Json} :
    (∀ key ∈ propertyKeys (.array items), P key) ↔
      ∀ item ∈ items, ∀ key ∈ propertyKeys item, P key := by
  show (∀ key ∈ itemKeys items, P key) ↔ _
  induction items with
  | nil => simp [itemKeys]
  | cons item rest ih => rw [itemKeys, List.forall_mem_append, ih, List.forall_mem_cons]

theorem forall_propertyKeys_object {members : Json.Members} :
    (∀ key ∈ propertyKeys (.object members), P key) ↔
      ∀ m ∈ members, (isKeyword m.1 = false → P m.1) ∧
        (m.1 ∉ ["@value", "@language"] → ∀ key ∈ propertyKeys m.2, P key) := by
  show (∀ key ∈ memberKeys members, P key) ↔ _
  induction members with
  | nil => simp [memberKeys]
  | cons m rest ih =>
    obtain ⟨key, value⟩ := m
    rw [memberKeys, List.forall_mem_append, List.forall_mem_append, ih, List.forall_mem_cons]
    refine and_congr_left fun _ => and_congr ?_ ?_
    · cases isKeyword key <;> simp
    · by_cases hdata : key ∈ ["@value", "@language"]
      · rw [if_pos hdata]
        exact iff_of_true nofun (absurd hdata)
      · rw [if_neg hdata]
        exact ⟨fun h _ => h, fun h => h hdata⟩

end Keys

/-- A value that is its own expansion wherever it may stand, and that counts as one item. -/
structure IsOwnExpansion (item : Json) : Prop where
  element : expandElement bare item = .ok item
  value : ∀ r : Reading, r.context = bare → expandValue r item = .ok item
  alone : itemsOf item = [item]

theorem expandElements_own {items : List Json} (h : ∀ item ∈ items, IsOwnExpansion item) :
    expandElements bare items = .ok items := by
  induction items with
  | nil => rfl
  | cons item rest ih =>
    obtain ⟨hitem, hrest⟩ := List.forall_mem_cons.mp h
    rw [expandElements, hitem.element, ok_bind, ih hrest, ok_bind, hitem.alone]
    rfl

theorem expandValues_own {items : List Json} (h : ∀ item ∈ items, IsOwnExpansion item)
    {r : Reading} (hr : r.context = bare) : expandValues r items = .ok items := by
  induction items with
  | nil => rfl
  | cons item rest ih =>
    obtain ⟨hitem, hrest⟩ := List.forall_mem_cons.mp h
    rw [expandValues, hitem.value r hr, ok_bind, ih hrest, ok_bind, hitem.alone]
    rfl

/-- An object is its own expansion if it holds a value or its entries expand to themselves. -/
theorem isOwnExpansion_object {members : Json.Members}
    (h : IsNormal Unrestricted (.object members))
    (hentries : (∀ m ∈ members, IsNormalEntry Unrestricted m.1 m.2) →
      expandEntries bare [] members = .ok members) : IsOwnExpansion (.object members) := by
  have hobject : expandObject bare members (fun c => expandEntries c [] members) =
      .ok (.object members) := by
    cases h with
    | value hordered hvalues hfind hnull =>
      have hcontext : ∀ m ∈ members, m.1 ≠ "@context" := by
        intro m hm hkey
        exact absurd (hkey ▸ (hvalues m hm).mem_keys) (by decide)
      have hkept := expandValueMembers_bare hordered hvalues
      exact expandObject_bare_value _ hcontext hkept hfind hnull
    | node hordered hne hnormal =>
      exact expandObject_bare (fun m hm => (hnormal m hm).key_ne_context)
        (fun m hm => (hnormal m hm).key_ne_value) (hentries hnormal) hne
  refine ⟨?_, fun r hr => ?_, rfl⟩
  · rw [expandElement, hobject]
  · rw [expandValue, hr, hobject]

/-- What a member holds is its own expansion if its items are. -/
theorem expandValue_own {value : Json} (h : ∀ item ∈ itemsOf value, IsOwnExpansion item)
    {r : Reading} (hr : r.context = bare) : expandValue r value = .ok value := by
  cases value with
  | null => rfl
  | array items =>
    have hitems : expandValues r items = .ok items := expandValues_own h hr
    rw [expandValue, hitems]
    rfl
  | _ => exact (h _ (List.mem_singleton_self _)).value r hr

/-- An entry of a node expands to itself and stands behind those before it. -/
theorem expandEntries_own {before rest : Json.Members} {key : String} {value : Json}
    (h : IsNormalEntry Unrestricted key value) (hlt : ∀ e ∈ before, e.1 < key)
    (hkey : isKeyword key = false → IsKey key)
    (hitems : ∀ item ∈ itemsOf value, IsNormal Unrestricted item → IsOwnExpansion item) :
    expandEntries bare before ((key, value) :: rest) =
      expandEntries bare (before ++ [(key, value)]) rest := by
  have hown : (∀ item ∈ itemsOf value, IsNormal Unrestricted item) →
      ∀ item ∈ itemsOf value, IsOwnExpansion item :=
    fun hnormal item hitem => hitems item hitem (hnormal item hitem)
  rw [← Dict.insert_last hlt value]
  cases h with
  | id id => rw [expandEntries_id, resolve_bare]
  | types types => exact expandEntries_types before rest types
  | graph hnormal =>
    rename_i items
    have hitems : expandElements bare items = .ok items := expandElements_own (hown hnormal)
    apply expandEntries_graph
    rw [expandElement, hitems]
    rfl
  | list _ hnormal => exact expandEntries_list before rest (expandValue_own (hown hnormal) rfl)
  | property hproperty hnormal =>
    have hnew : Dict.find? before key = none :=
      Dict.find?_eq_none_of_forall fun e he => (hlt e he).ne
    exact expandEntries_key before rest (hkey hproperty)
      (fun r hr => expandValues_own (hown hnormal) hr) hnew

theorem IsNormalEntry.not_mem_data {key : String} {value : Json}
    (h : IsNormalEntry Unrestricted key value) : key ∉ ["@value", "@language"] := by
  intro hdata
  rcases List.mem_pair.mp hdata with rfl | rfl
  · exact h.key_ne_value rfl
  · exact absurd (h.mem_keywords (by decide)) (by decide)

theorem IsNormal.itemsOf_eq {item : Json} (h : IsNormal Unrestricted item) :
    itemsOf item = [item] := by
  cases h <;> rfl

mutual

theorem isOwnExpansion_items : (items : List Json) →
    (∀ item ∈ items, ∀ key ∈ propertyKeys item, IsKey key) →
    ∀ item ∈ items, IsNormal Unrestricted item → IsOwnExpansion item
  | [], _ => nofun
  | item :: rest, hkeys => by
    obtain ⟨hitem, hrest⟩ := List.forall_mem_cons.mp hkeys
    refine List.forall_mem_cons.mpr ⟨fun h => ?_, isOwnExpansion_items rest hrest⟩
    have hmem : item ∈ itemsOf item := h.itemsOf_eq ▸ List.mem_singleton_self item
    exact isOwnExpansion_value item hitem item hmem h
termination_by structural items => items

/-- Every normal object in a value is its own expansion if its keys stand for properties. -/
theorem isOwnExpansion_value : (value : Json) → (∀ key ∈ propertyKeys value, IsKey key) →
    ∀ item ∈ itemsOf value, IsNormal Unrestricted item → IsOwnExpansion item
  | .array items, hkeys => isOwnExpansion_items items (forall_propertyKeys_array.mp hkeys)
  | .object members, hkeys => by
    intro item hitem h
    cases List.mem_singleton.mp hitem
    exact isOwnExpansion_object h (expandEntries_members members hkeys h.ordered)
  | .null, _ => nofun
  | .bool _, _ | .number _, _ | .string _, _ => by
    intro item hitem h
    cases List.mem_singleton.mp hitem
    cases h
termination_by structural value => value

theorem expandEntries_members : (members : List (String × Json)) →
    (∀ key ∈ memberKeys members, IsKey key) → {before : Json.Members} →
    Dict.Ordered (before ++ members) → (∀ m ∈ members, IsNormalEntry Unrestricted m.1 m.2) →
    expandEntries bare before members = .ok (before ++ members)
  | [], _, before, _, _ => by
    rw [expandEntries, List.append_nil]
  | (key, value) :: rest, hkeys, before, hordered, h => by
    rw [memberKeys, List.forall_mem_append, List.forall_mem_append] at hkeys
    obtain ⟨⟨hkey, hvalue⟩, hrest⟩ := hkeys
    obtain ⟨hentry, hnormal⟩ := List.forall_mem_cons.mp h
    rw [if_neg hentry.not_mem_data] at hvalue
    have hproperty : isKeyword key = false → IsKey key := by
      intro hproperty
      rw [hproperty] at hkey
      exact hkey key (List.mem_singleton_self key)
    rw [expandEntries_own hentry hordered.lt_of_mem hproperty (isOwnExpansion_value value hvalue)]
    rw [List.append_cons before (key, value) rest] at hordered ⊢
    exact expandEntries_members rest hrest hordered hnormal
termination_by structural members => members

end

/-- A normal document whose keys all stand for properties is its own expansion. -/
theorem IsNormalDocument.expand_eq {document : Json} (h : IsNormalDocument Unrestricted document)
    (hkeys : ∀ key ∈ propertyKeys document, IsKey key) : expand document none = .ok document := by
  obtain ⟨items, rfl, hitems⟩ := h
  have hown : expandElements bare items = .ok items :=
    expandElements_own fun item hitem =>
      isOwnExpansion_items items (forall_propertyKeys_array.mp hkeys) item hitem (hitems item hitem)
  rw [expand, expandElement, hown]
  rfl

end LinkedData.JsonLd
