import LinkedData.JsonLd.Expansion
import LinkedData.Proofs.Dict.Ordered
import LinkedData.Proofs.Text.Step

/-!
# LinkedData.Proofs.JsonLd.NormalForm -- what expansion makes

Expansion and conversion are two recursions over values that only share an understanding of
what an expanded document looks like. `IsNormal` states it: an array of objects that are not
empty, each a value object with a value, or a node object whose members are what their keys
ask for, at every depth.

Everything that expansion makes is normal, but for one member: what `@list` holds is expanded
as any value is, so it is an array only if it was one before. The form is therefore stated for
any condition on what `@list` may hold; the objects in it are normal in any case.

The recursion of expansion is gone through once, for any conditions that its ways of building an
object keep (`ExpansionInvariant`); the normal form is one of them.
-/

namespace LinkedData.JsonLd

open LinkedData.Text

/-! ## The normal form -/

/-- What a value object may hold. -/
inductive IsValueEntry : String → Json → Prop
  | value (value : Json) : IsValueEntry "@value" value
  | type (type : String) : IsValueEntry "@type" (.string type)
  | language (tag : Json) : IsValueEntry "@language" tag

mutual

/-- A value object or a node object in normal form, in which everything that a `@list` holds
is one of some values. -/
inductive IsNormal (lists : Json → Prop) : Json → Prop
  | value {members : Json.Members} {value : Json} : members.Ordered →
      (∀ m ∈ members, IsValueEntry m.1 m.2) → members.find? "@value" = some value →
      value ≠ .null → IsNormal lists (.object members)
  | node {members : Json.Members} : members.Ordered → members ≠ [] →
      (∀ m ∈ members, IsNormalEntry lists m.1 m.2) → IsNormal lists (.object members)

/-- What a node object may hold: what its keyword asks for, and for other keys an array. -/
inductive IsNormalEntry (lists : Json → Prop) : String → Json → Prop
  | id (id : String) : IsNormalEntry lists "@id" (.string id)
  | types (types : List String) : IsNormalEntry lists "@type" (.array (types.map .string))
  | graph {items : List Json} : (∀ item ∈ items, IsNormal lists item) →
      IsNormalEntry lists "@graph" (.array items)
  | list {value : Json} : lists value → (∀ item ∈ itemsOf value, IsNormal lists item) →
      IsNormalEntry lists "@list" value
  | property {key : String} {items : List Json} : isKeyword key = false →
      (∀ item ∈ items, IsNormal lists item) → IsNormalEntry lists key (.array items)

end

/-- An array of objects in normal form. -/
def IsNormalDocument (lists : Json → Prop) (document : Json) : Prop :=
  ∃ items, document = .array items ∧ ∀ item ∈ items, IsNormal lists item

/-- Anything. -/
def Unrestricted (_ : Json) : Prop :=
  True

/-- An array. -/
def IsArray (value : Json) : Prop :=
  ∃ items, value = .array items

section Entries

variable {lists : Json → Prop}

theorem IsNormalEntry.id_string {value : Json} (h : IsNormalEntry lists "@id" value) :
    ∃ id, value = .string id := by
  generalize hid : "@id" = key at h
  cases h with
  | id id => exact ⟨id, rfl⟩
  | property hkey _ => exact absurd hkey (by rw [← hid]; decide)
  | _ => exact absurd hid (by decide)

theorem IsNormalEntry.graph_array {value : Json} (h : IsNormalEntry lists "@graph" value) :
    ∃ items, value = .array items ∧ ∀ item ∈ items, IsNormal lists item := by
  generalize hgraph : "@graph" = key at h
  cases h with
  | graph hitems => exact ⟨_, rfl, hitems⟩
  | property hkey _ => exact absurd hkey (by rw [← hgraph]; decide)
  | _ => exact absurd hgraph (by decide)

theorem IsNormalEntry.property_array {key : String} {value : Json}
    (h : IsNormalEntry lists key value) (hkey : isKeyword key = false) :
    ∃ items, value = .array items ∧ ∀ item ∈ items, IsNormal lists item := by
  cases h with
  | property _ hitems => exact ⟨_, rfl, hitems⟩
  | _ => exact absurd hkey (by decide)

theorem IsNormalEntry.list_items {value : Json} (h : IsNormalEntry lists "@list" value) :
    lists value ∧ ∀ item ∈ itemsOf value, IsNormal lists item := by
  generalize hlist : "@list" = key at h
  cases h with
  | list hvalue hitems => exact ⟨hvalue, hitems⟩
  | property hkey _ => exact absurd hkey (by rw [← hlist]; decide)
  | _ => exact absurd hlist (by decide)

/-- The keywords of node objects. -/
theorem IsNormalEntry.mem_keywords {key : String} {value : Json}
    (h : IsNormalEntry lists key value) (hkey : isKeyword key = true) :
    key ∈ ["@id", "@type", "@graph", "@list"] := by
  cases h with
  | property hproperty _ =>
    rw [hproperty] at hkey
    cases hkey
  | _ => decide

/-- Only value objects have a value. -/
theorem IsNormalEntry.key_ne_value {key : String} {value : Json}
    (h : IsNormalEntry lists key value) : key ≠ "@value" := by
  rintro rfl
  exact absurd (h.mem_keywords (by decide)) (by decide)

/-- No context is left. -/
theorem IsNormalEntry.key_ne_context {key : String} {value : Json}
    (h : IsNormalEntry lists key value) : key ≠ "@context" := by
  rintro rfl
  exact absurd (h.mem_keywords (by decide)) (by decide)

theorem find?_value_of_node {members : Json.Members}
    (h : ∀ m ∈ members, IsNormalEntry lists m.1 m.2) : Dict.find? members "@value" = none :=
  Dict.find?_eq_none_of_forall fun m hm => (h m hm).key_ne_value

theorem IsValueEntry.mem_keys {key : String} {value : Json} (h : IsValueEntry key value) :
    key ∈ ["@value", "@type", "@language"] := by
  cases h <;> decide

theorem IsValueEntry.isKeyword {key : String} {value : Json} (h : IsValueEntry key value) :
    isKeyword key = true := by
  cases h <;> decide

theorem IsNormal.ordered {members : Json.Members} (h : IsNormal lists (.object members)) :
    members.Ordered := by
  cases h with
  | value hordered _ _ _ => exact hordered
  | node hordered _ _ => exact hordered

/-- What a look-up finds in an object, apart from the members of value objects. -/
theorem IsNormal.entry {members : Json.Members} {key : String} {value : Json}
    (h : IsNormal lists (.object members)) (hfind : Dict.find? members key = some value)
    (hkey : key ∉ ["@value", "@type", "@language"]) : IsNormalEntry lists key value := by
  have hmem := Dict.mem_of_find?_eq_some hfind
  cases h with
  | value _ hentries _ _ => exact absurd (hentries _ hmem).mem_keys hkey
  | node _ _ hentries => exact hentries _ hmem

end Entries

/-! ## What expansion makes -/

/-- The shape of a name that stands for a property: two slashes after a colon, or a name of the
`urn` scheme. -/
def HasPropertyShape (iri : String) : Prop :=
  "://".toList <:+: iri.toList ∨ "urn:".toList <+: iri.toList

/-- Conditions on objects and on the entries of nodes that every way in which expansion builds an
object keeps. They hold of everything that expansion makes. -/
structure ExpansionInvariant (item : Json → Prop) (entry : String → Json → Prop) : Prop where
  value {members : Json.Members} {value : Json} : members.Ordered →
    (∀ m ∈ members, IsValueEntry m.1 m.2) → members.find? "@value" = some value →
    value ≠ .null → item (.object members)
  node {members : Json.Members} : members.Ordered → members ≠ [] →
    (∀ m ∈ members, entry m.1 m.2) → item (.object members)
  id (id : String) : entry "@id" (.string id)
  types (types : List String) : entry "@type" (.array (types.map .string))
  graph {items : List Json} : (∀ i ∈ items, item i) → entry "@graph" (.array items)
  list {value : Json} : (∀ i ∈ itemsOf value, item i) → entry "@list" value
  property {key : String} {items : List Json} : isKeyword key = false → HasPropertyShape key →
    (∀ i ∈ items, item i) → entry key (.array items)
  /-- What was added to a property before. -/
  added {key : String} {items : List Json} : isKeyword key = false → entry key (.array items) →
    ∀ i ∈ items, item i

/-- What a value expands to adds objects of a kind to an array. -/
def Yields (item : Json → Prop) (result : Json) : Prop :=
  ∀ i ∈ itemsOf result, item i

section Yields

variable {item : Json → Prop}

theorem yields_null : Yields item .null :=
  nofun

theorem yields_array {items : List Json} (h : ∀ i ∈ items, item i) : Yields item (.array items) :=
  h

theorem yields_object {members : Json.Members} (h : item (.object members)) :
    Yields item (.object members) := by
  intro i hi
  rw [List.mem_singleton.mp hi]
  exact h

end Yields

theorem string_ne_null (s : String) : Json.string s ≠ .null := by
  intro h
  cases h

section Members

variable {c : Context}

theorem expandTypes_strings {value types : Json} (h : expandTypes c value = .ok types) :
    ∃ names : List String, types = .array (names.map .string) := by
  cases value with
  | string s =>
    injection h with h
    exact ⟨[vocabularyIri c s], h.symm⟩
  | array items =>
    injection h with h
    refine ⟨(items.filterMap Json.string?).map (vocabularyIri c), ?_⟩
    rw [← h, List.map_map]
    rfl
  | _ => cases h

/-- Members are kept or dropped one by one. -/
theorem isValueMembers_expand {members result : Json.Members}
    (h : expandValueMembers c members = .ok result) : result.Holds IsValueEntry := by
  rw [expandValueMembers] at h
  -- The induction is on the members to come, for any that were kept before them.
  have hkept : Dict.Holds IsValueEntry [] := Dict.holds_nil
  generalize ([] : Json.Members) = kept at h hkept
  induction members generalizing kept with
  | nil =>
    injection h with h
    exact h ▸ hkept
  | cons m rest ih =>
    obtain ⟨key, value⟩ := m
    rw [List.foldlM_cons] at h
    obtain ⟨next, hnext, hrest⟩ := bind_eq_ok_iff.mp h
    refine ih next hrest ?_
    dsimp only at hnext
    split at hnext
    · exact Except.ok.inj hnext ▸ hkept.insert (.value _)
    · split at hnext
      · exact Except.ok.inj hnext ▸ hkept.insert (.type _)
      · cases hnext
    · exact Except.ok.inj hnext ▸ hkept.insert (.language _)
    · exact Except.ok.inj hnext ▸ hkept

/-- A key stands for a property if it expands to a name with the shape of one. -/
theorem propertyIri?_eq_some_iff {key iri : String} :
    propertyIri? c key = some iri ↔
      c.expandIri key = some iri ∧ isKeyword iri = false ∧ HasPropertyShape iri := by
  rw [propertyIri?, Option.filter_eq_some_iff, Bool.and_eq_true, Bool.not_eq_true', Bool.or_eq_true,
    occursIn_iff, List.isPrefixOf_iff_prefix]
  rfl

end Members

namespace ExpansionInvariant

variable {item : Json → Prop} {entry : String → Json → Prop}

section Steps

variable {c : Context} (inv : ExpansionInvariant item entry)

include inv

/-! ### Values -/

theorem plainValue {value : Json} (h : value ≠ .null) : item (valueObject [] value) := by
  refine inv.value (List.pairwise_singleton _ _) ?_ rfl h
  intro m hm
  rw [List.mem_singleton.mp hm]
  exact .value value

/-- A value with its type or its language in front. -/
theorem valueWith {key : String} {other value : Json} (hentry : IsValueEntry key other)
    (hkey : key < "@value") (h : value ≠ .null) : item (valueObject [(key, other)] value) := by
  refine inv.value (List.pairwise_pair.mpr hkey) ?_ ?_ h
  · intro m hm
    rcases List.mem_pair.mp hm with rfl | rfl
    · exact hentry
    · exact .value value
  · show Dict.find? ((key, other) :: [("@value", value)]) "@value" = some value
    rw [Dict.find?_cons_ne hkey.ne, Dict.find?_cons_self]

theorem reference (id : String) : item (nodeReference id) := by
  refine inv.node (List.pairwise_singleton _ _) (List.cons_ne_nil _ _) ?_
  intro m hm
  rw [List.mem_singleton.mp hm]
  exact inv.id id

theorem taggedValue (tag s : String) :
    item (valueObject [("@language", .string tag)] (.string s)) :=
  inv.valueWith (.language _) (by decide) (string_ne_null s)

theorem yields_expandString (type language : Option String) (s : String) :
    Yields item (expandString c type language s) := by
  have hplain : Yields item (expandString c none language s) := by
    cases language with
    | some tag => exact yields_object (inv.taggedValue tag s)
    | none => exact yields_object (inv.plainValue (string_ne_null s))
  cases type with
  | none => exact hplain
  | some t =>
    show Yields item (if t = "@id" then _ else if t = "@vocab" then _ else
      if t = "@json" then _ else _)
    by_cases hid : t = "@id"
    · rw [if_pos hid]
      exact yields_object (inv.reference _)
    rw [if_neg hid]
    by_cases hvocab : t = "@vocab"
    · rw [if_pos hvocab]
      exact yields_object (inv.reference _)
    rw [if_neg hvocab]
    by_cases hjson : t = "@json"
    · rw [if_pos hjson]
      exact hplain
    rw [if_neg hjson]
    exact yields_object (inv.valueWith (.type t) (by decide) (string_ne_null s))

theorem yields_languageMap (members : Json.Members) :
    Yields item (.array (expandLanguageMap members)) := by
  refine yields_array fun i hi => ?_
  obtain ⟨⟨tag, value⟩, -, hi⟩ := List.mem_flatMap.mp hi
  obtain ⟨s, -, rfl⟩ := List.mem_map.mp hi
  exact inv.taggedValue tag s

theorem yields_expandValueObject {members : Json.Members} {result : Json}
    (h : expandValueObject c members = .ok result) : Yields item result := by
  obtain ⟨kept, hkept, h⟩ := bind_eq_ok_iff.mp h
  obtain ⟨hordered, hentries⟩ := isValueMembers_expand hkept
  split at h
  · exact pure_eq_ok_iff.mp h ▸ yields_null
  · exact pure_eq_ok_iff.mp h ▸ yields_null
  · rename_i value hnull hfind
    rw [← pure_eq_ok_iff.mp h]
    exact yields_object (inv.value hordered hentries hfind hnull)

/-! ### Nodes and properties -/

theorem yields_expandObject {members : Json.Members} {result : Json}
    {entries : Context → Except Document.Error Json.Members}
    (hentries : ∀ c kept, entries c = .ok kept → kept.Holds entry)
    (h : expandObject c members entries = .ok result) : Yields item result := by
  obtain ⟨c', -, h⟩ := bind_eq_ok_iff.mp h
  split at h
  · exact inv.yields_expandValueObject h
  · obtain ⟨inner, -, h⟩ := bind_eq_ok_iff.mp h
    obtain ⟨kept, hkept, h⟩ := bind_eq_ok_iff.mp h
    obtain ⟨hordered, hnormal⟩ := hentries inner kept hkept
    have h := pure_eq_ok_iff.mp h
    cases kept with
    | nil => exact h ▸ yields_null
    | cons m rest =>
      subst h
      exact yields_object (inv.node hordered (List.cons_ne_nil m rest) hnormal)

theorem holds_addItems {members : Json.Members} {iri : String} {items : List Json}
    (h : members.Holds entry) (hkeyword : isKeyword iri = false) (hshape : HasPropertyShape iri)
    (hitems : ∀ i ∈ items, item i) : Dict.Holds entry (addItems members iri items) := by
  rw [addItems]
  split
  · rename_i earlier hfind
    have hearlier := inv.added hkeyword (h.entries _ (Dict.mem_of_find?_eq_some hfind))
    exact h.insert (inv.property hkeyword hshape (List.forall_mem_append.mpr ⟨hearlier, hitems⟩))
  · exact h.insert (inv.property hkeyword hshape hitems)

theorem holds_addProperty {members : Json.Members} {key iri : String} {value : Json}
    (h : members.Holds entry) (hiri : propertyIri? c key = some iri) (hvalue : Yields item value) :
    Dict.Holds entry (addProperty members iri value) := by
  obtain ⟨-, hkeyword, hshape⟩ := propertyIri?_eq_some_iff.mp hiri
  have hitems := inv.holds_addItems h hkeyword hshape hvalue
  cases value with
  | null => exact h
  | _ => exact hitems

/-- A map from languages, a list, or values that are read one by one. -/
theorem yields_contained (container : Option Container) {value result : Json}
    {read : Reading → Except Document.Error Json}
    (hread : ∀ r result, read r = .ok result → Yields item result) (inList alone : Reading)
    (h : (match container, value with
      | some .language, .object byLanguage => pure (.array (expandLanguageMap byLanguage))
      | some .list, .array _ => do
        return .array [.object [("@list", ← read inList)]]
      | _, _ => read alone : Except Document.Error Json) = .ok result) : Yields item result := by
  split at h
  · rw [← pure_eq_ok_iff.mp h]
    exact inv.yields_languageMap _
  · obtain ⟨items, hitems, h⟩ := bind_eq_ok_iff.mp h
    rw [← pure_eq_ok_iff.mp h]
    refine yields_object (inv.node (List.pairwise_singleton _ _) (List.cons_ne_nil _ _) ?_)
    intro m hm
    rw [List.mem_singleton.mp hm]
    exact inv.list (hread inList items hitems)
  · exact hread alone result h

theorem yields_expandProperty {key : String} {value result : Json}
    {read : Reading → Except Document.Error Json}
    (hread : ∀ r result, read r = .ok result → Yields item result)
    (h : expandProperty c key value read = .ok result) : Yields item result := by
  rw [expandProperty] at h
  split at h
  · obtain ⟨context, -, h⟩ := bind_eq_ok_iff.mp h
    exact inv.yields_contained ((c.term? key).bind (·.container)) hread _ _ h
  · exact inv.yields_contained ((c.term? key).bind (·.container)) hread _ _ h

end Steps

/-! ### Documents -/

mutual

theorem yields_expandElement (inv : ExpansionInvariant item entry) (c : Context) :
    (document : Json) → {result : Json} → expandElement c document = .ok result →
    Yields item result
  | .array items, result, h => by
    rw [expandElement] at h
    obtain ⟨results, hresults, h⟩ := bind_eq_ok_iff.mp h
    rw [← pure_eq_ok_iff.mp h]
    exact yields_array (inv.yields_expandElements c items hresults)
  | .object members, result, h => by
    rw [expandElement] at h
    refine inv.yields_expandObject ?_ h
    intro c kept hkept
    exact inv.holds_expandEntries c Dict.holds_nil members hkept
  | .null, result, h | .bool _, result, h | .number _, result, h | .string _, result, h => by
    rw [← Except.ok.inj h]
    exact yields_null
termination_by structural document => document

theorem yields_expandElements (inv : ExpansionInvariant item entry) (c : Context) :
    (items : List Json) → {results : List Json} → expandElements c items = .ok results →
    ∀ i ∈ results, item i
  | [], results, h => by
    rw [← Except.ok.inj h]
    exact nofun
  | value :: rest, results, h => by
    rw [expandElements] at h
    obtain ⟨first, hfirst, h⟩ := bind_eq_ok_iff.mp h
    obtain ⟨others, hothers, h⟩ := bind_eq_ok_iff.mp h
    rw [← pure_eq_ok_iff.mp h]
    exact List.forall_mem_append.mpr ⟨inv.yields_expandElement c value hfirst,
      inv.yields_expandElements c rest hothers⟩
termination_by structural items => items

theorem holds_expandEntries (inv : ExpansionInvariant item entry) (c : Context)
    {before : Json.Members} (hbefore : before.Holds entry) : (entries : List (String × Json)) →
    {result : Json.Members} → expandEntries c before entries = .ok result →
    Dict.Holds entry result
  | [], result, h => by
    rw [← Except.ok.inj h]
    exact hbefore
  | (key, value) :: rest, result, h => by
    have hrest : ∀ {next : Json.Members}, Dict.Holds entry next →
        expandEntries c next rest = .ok result → Dict.Holds entry result :=
      fun hnext h => inv.holds_expandEntries c hnext rest h
    rw [expandEntries.eq_def] at h
    simp only [pure_bind] at h
    -- The context is passed over; then one case for each keyword, and the properties.
    split at h
    · exact hrest hbefore h
    · split at h
      · split at h
        · exact hrest (hbefore.insert (inv.id _)) h
        · exact hrest hbefore h
      · obtain ⟨types, htypes, h⟩ := bind_eq_ok_iff.mp h
        obtain ⟨names, rfl⟩ := expandTypes_strings htypes
        exact hrest (hbefore.insert (inv.types names)) h
      · obtain ⟨nodes, hnodes, h⟩ := bind_eq_ok_iff.mp h
        exact hrest (hbefore.insert (inv.graph (inv.yields_expandElement c value hnodes))) h
      · obtain ⟨items, hitems, h⟩ := bind_eq_ok_iff.mp h
        have hlist := inv.yields_expandValue { context := c } value hitems
        exact hrest (hbefore.insert (inv.list hlist)) h
      · exact hrest hbefore h
      · split at h
        · exact hrest hbefore h
        · rename_i iri hiri
          obtain ⟨expanded, hexpanded, h⟩ := bind_eq_ok_iff.mp h
          have hproperty := inv.yields_expandProperty
            (fun r _ hr => inv.yields_expandValue r value hr) hexpanded
          exact hrest (inv.holds_addProperty hbefore hiri hproperty) h
termination_by structural entries => entries

theorem yields_expandValue (inv : ExpansionInvariant item entry) (r : Reading) :
    (value : Json) → {result : Json} → expandValue r value = .ok result → Yields item result
  | .array items, result, h => by
    rw [expandValue] at h
    obtain ⟨results, hresults, h⟩ := bind_eq_ok_iff.mp h
    rw [← pure_eq_ok_iff.mp h]
    exact yields_array (inv.yields_expandValues r items hresults)
  | .object members, result, h => by
    rw [expandValue] at h
    refine inv.yields_expandObject ?_ h
    intro c kept hkept
    exact inv.holds_expandEntries c Dict.holds_nil members hkept
  | .string s, result, h => by
    rw [← Except.ok.inj h]
    exact inv.yields_expandString r.type r.language s
  | .number n, result, h => by
    rw [← Except.ok.inj h]
    exact yields_object (inv.plainValue nofun)
  | .bool b, result, h => by
    rw [← Except.ok.inj h]
    exact yields_object (inv.plainValue nofun)
  | .null, result, h => by
    rw [← Except.ok.inj h]
    exact yields_null
termination_by structural value => value

theorem yields_expandValues (inv : ExpansionInvariant item entry) (r : Reading) :
    (items : List Json) → {results : List Json} → expandValues r items = .ok results →
    ∀ i ∈ results, item i
  | [], results, h => by
    rw [← Except.ok.inj h]
    exact nofun
  | value :: rest, results, h => by
    rw [expandValues] at h
    obtain ⟨first, hfirst, h⟩ := bind_eq_ok_iff.mp h
    obtain ⟨others, hothers, h⟩ := bind_eq_ok_iff.mp h
    rw [← pure_eq_ok_iff.mp h]
    exact List.forall_mem_append.mpr ⟨inv.yields_expandValue r value hfirst,
      inv.yields_expandValues r rest hothers⟩
termination_by structural items => items

end

/-- What a document expands to is an array of objects of the kind. -/
theorem expand_eq_ok (inv : ExpansionInvariant item entry) {document expanded : Json}
    {base : Option String} (h : expand document base = .ok expanded) :
    ∃ items, expanded = .array items ∧ ∀ i ∈ items, item i := by
  obtain ⟨result, hresult, h⟩ := bind_eq_ok_iff.mp h
  exact ⟨_, (pure_eq_ok_iff.mp h).symm, inv.yields_expandElement _ document hresult⟩

end ExpansionInvariant

/-- The normal form is kept. -/
theorem isNormal_invariant :
    ExpansionInvariant (IsNormal Unrestricted) (IsNormalEntry Unrestricted) where
  value := .value
  node := .node
  id := .id
  types := .types
  graph := .graph
  list := .list trivial
  property hkeyword _ := .property hkeyword
  added hkeyword h := by
    obtain ⟨_, heq, hitems⟩ := h.property_array hkeyword
    cases heq
    exact hitems

/-- Expanded documents are normal, but for what their lists hold. -/
theorem expand_isNormal {document expanded : Json} {base : Option String}
    (h : expand document base = .ok expanded) : IsNormalDocument Unrestricted expanded :=
  isNormal_invariant.expand_eq_ok h

end LinkedData.JsonLd
