import LinkedData.Proofs.JsonLd.NormalForm
import LinkedData.Proofs.JsonLd.Realized

/-!
# LinkedData.Proofs.JsonLd.Faultless -- what conversion takes

Conversion checks three things: that a document is an array, that an identifier is a string,
and that a list is an array. Expansion sees to the first two. So an expanded document fails to
convert in one way only, and every one whose lists are arrays converts.
-/

namespace LinkedData.JsonLd

open LinkedData.Rdf

/-! ## The only fault of a normal document -/

/-- A list that is no array. -/
def listFault : Document.Error :=
  Converter.error "@list must be an array"

/-- An account has no fault but that of a list that is no array, where there may be such
lists. -/
def FaultsInLists (lists : Json → Prop) (account : Account) : Prop :=
  ∀ e, account.fault? = some e → e = listFault ∧ ∃ value, lists value ∧ ¬ IsArray value

section Rules

variable {lists : Json → Prop} {a b : Account}

theorem faultsInLists_nil : FaultsInLists lists [] :=
  nofun

theorem FaultsInLists.append (ha : FaultsInLists lists a) (hb : FaultsInLists lists b) :
    FaultsInLists lists (a ++ b) := by
  intro e he
  cases hfault : a.fault? with
  | none =>
    rw [Arrivals.fault?_append hfault] at he
    exact hb e he
  | some e' =>
    rw [(Arrivals.before_append_of_fault hfault).2] at he
    exact ha e (hfault.trans he)

end Rules

section Parts

variable {d : Nat} {g : Option AbstractNode} {lists : Json → Prop}

theorem faultsInLists_needs (node : AbstractNode) : FaultsInLists lists (needs node) := by
  cases node with
  | iri i => exact nofun
  | blank o => exact nofun

theorem faultsInLists_states (subject : AbstractNode) (predicate : Iri) (object : AbstractTerm) :
    FaultsInLists lists (states subject predicate object g) :=
  nofun

theorem faultsInLists_types (subject : AbstractNode) (types : List String) :
    FaultsInLists lists (typesAccount d g subject types) := by
  induction types with
  | nil => exact faultsInLists_nil
  | cons type rest ih =>
    exact ((faultsInLists_needs _).append (faultsInLists_states _ _ _)).append ih

theorem faultsInLists_link (subject : AbstractNode) (predicate : Iri)
    (object : Option AbstractTerm) :
    FaultsInLists lists (linkAccount g subject predicate object) := by
  cases object with
  | none => exact faultsInLists_nil
  | some object => exact faultsInLists_states subject predicate object

theorem faultsInLists_cells (place : Place) (objects : List AbstractTerm) :
    FaultsInLists lists (cellsAccount d g place objects) := by
  induction objects with
  | nil => exact faultsInLists_nil
  | cons object rest ih =>
    exact ih.append ((faultsInLists_needs _).append
      ((faultsInLists_states _ _ _).append (faultsInLists_states _ _ _)))

theorem faultsInLists_begin {members : Json.Members} (h : IsNormal lists (.object members))
    (place : Place) : FaultsInLists lists (beginAccount d g place members) := by
  refine FaultsInLists.append ?_ (faultsInLists_types _ _)
  rw [subjectAccount]
  cases hid : Dict.find? members "@id" with
  | none => exact faultsInLists_needs _
  | some value =>
    obtain ⟨id, rfl⟩ := (h.entry hid (by decide)).id_string
    exact faultsInLists_needs _

/-- Keywords say nothing. -/
theorem membersAccount_of_keywords {members : Json.Members}
    (h : ∀ m ∈ members, isKeyword m.1 = true) (place : Place) (subject : AbstractNode)
    (k : Nat) : membersAccount d g place subject k members = [] := by
  induction members generalizing k with
  | nil => rfl
  | cons m rest ih =>
    obtain ⟨key, value⟩ := m
    rw [membersAccount, if_pos (h _ (List.mem_cons_self ..)), List.nil_append]
    exact ih (fun m hm => h m (List.mem_cons_of_mem _ hm)) (k + 1)

end Parts

section Objects

-- One lemma for each account, by recursion on the value, as the accounts recurse. A list that
-- is no array is the only place where a fault stands.
variable {d : Nat} {g : Option AbstractNode} {lists : Json → Prop}

mutual

theorem faultsInLists_item (place : Place) : (item : Json) → IsNormal lists item →
    FaultsInLists lists (itemAccount d g place item)
  | .object members, h => by
    have hbegin := faultsInLists_begin (d := d) (g := g) h place
    rw [itemAccount]
    cases hvalue : Dict.find? members "@value" with
    | some value => exact faultsInLists_nil
    | none =>
      cases h with
      | value _ _ hfind _ =>
        rw [hfind] at hvalue
        cases hvalue
      | node _ _ hentries =>
        show FaultsInLists lists (ite _ _ _)
        split
        · exact faultsInLists_listMember place members hentries
        · exact hbegin.append (faultsInLists_members place _ 0 members hentries)

theorem faultsInLists_listMember (place : Place) : (members : List (String × Json)) →
    (∀ m ∈ members, IsNormalEntry lists m.1 m.2) →
    FaultsInLists lists (listMember d g place members)
  | [], _ => faultsInLists_nil
  | (key, value) :: rest, h => by
    rw [listMember]
    by_cases hkey : key = "@list"
    · rw [if_pos hkey]
      subst hkey
      exact faultsInLists_list place value (h _ (List.mem_cons_self ..))
    · rw [if_neg hkey]
      exact faultsInLists_listMember place rest fun m hm => h m (List.mem_cons_of_mem _ hm)

theorem faultsInLists_list (place : Place) : (value : Json) →
    IsNormalEntry lists "@list" value → FaultsInLists lists (listAccount d g place value)
  | .array items, h => by
    rw [listAccount]
    exact (faultsInLists_items place 0 items h.list_items.2).append (faultsInLists_cells _ _)
  | .null, h | .bool _, h | .number _, h | .string _, h | .object _, h => by
    intro e he
    injection he with he
    exact ⟨he.symm, _, h.list_items.1, nofun⟩

theorem faultsInLists_items (place : Place) (j : Nat) : (items : List Json) →
    (∀ item ∈ items, IsNormal lists item) →
    FaultsInLists lists (itemsAccount d g place j items)
  | [], _ => faultsInLists_nil
  | item :: rest, h => by
    rw [itemsAccount]
    exact (faultsInLists_item _ item (h item (List.mem_cons_self ..))).append
      (faultsInLists_items place (j + 1) rest fun i hi => h i (List.mem_cons_of_mem _ hi))

theorem faultsInLists_members (place : Place) (subject : AbstractNode) (k : Nat) :
    (members : List (String × Json)) → (∀ m ∈ members, IsNormalEntry lists m.1 m.2) →
    FaultsInLists lists (membersAccount d g place subject k members)
  | [], _ => faultsInLists_nil
  | (key, value) :: rest, h => by
    rw [membersAccount]
    refine FaultsInLists.append ?_ (faultsInLists_members place subject (k + 1) rest fun m hm =>
      h m (List.mem_cons_of_mem _ hm))
    by_cases hkey : isKeyword key = true
    · rw [if_pos hkey]
      exact faultsInLists_nil
    · rw [if_neg hkey]
      rw [Bool.not_eq_true] at hkey
      exact faultsInLists_property place subject key k value hkey (h _ (List.mem_cons_self ..))

theorem faultsInLists_property (place : Place) (subject : AbstractNode) (key : String)
    (k : Nat) : (value : Json) → isKeyword key = false → IsNormalEntry lists key value →
    FaultsInLists lists (propertyAccount d g place subject key k value)
  | .array items, hkey, h => by
    obtain ⟨_, heq, hitems⟩ := h.property_array hkey
    cases heq
    exact faultsInLists_values place subject key k 0 items hitems
  | .null, _, _ | .bool _, _, _ | .number _, _, _ | .string _, _, _ | .object _, _, _ =>
    faultsInLists_nil

theorem faultsInLists_values (place : Place) (subject : AbstractNode) (predicate : Iri)
    (k j : Nat) : (items : List Json) → (∀ item ∈ items, IsNormal lists item) →
    FaultsInLists lists (valuesAccount d g place subject predicate k j items)
  | [], _ => faultsInLists_nil
  | item :: rest, h => by
    rw [valuesAccount]
    exact (faultsInLists_item _ item (h item (List.mem_cons_self ..))).append
      ((faultsInLists_link _ _ _).append
        (faultsInLists_values place subject predicate k (j + 1) rest fun i hi =>
          h i (List.mem_cons_of_mem _ hi)))

end

theorem faultsInLists_node {members : Json.Members} (h : IsNormal lists (.object members))
    (place : Place) : FaultsInLists lists (nodeAccount d g place members) := by
  refine (faultsInLists_begin h place).append ?_
  cases h with
  | value _ hentries _ _ =>
    rw [membersAccount_of_keywords fun m hm => (hentries m hm).isKeyword]
    exact faultsInLists_nil
  | node _ _ hentries => exact faultsInLists_members place _ 0 members hentries

theorem faultsInLists_nodes (place : Place) (j : Nat) {items : List Json}
    (h : ∀ item ∈ items, IsNormal lists item) :
    FaultsInLists lists (nodesAccount d g place j items) := by
  induction items generalizing j with
  | nil => exact faultsInLists_nil
  | cons item rest ih =>
    have hrest := ih (j + 1) fun i hi => h i (List.mem_cons_of_mem _ hi)
    cases item with
    | object members =>
      exact (faultsInLists_node (h _ (List.mem_cons_self ..)) _).append hrest
    | _ => exact hrest

theorem faultsInLists_top {members : Json.Members} (h : IsNormal lists (.object members))
    (place : Place) : FaultsInLists lists (topAccount d place members) := by
  rw [topAccount]
  cases hgraph : Dict.find? members "@graph" with
  | none => exact faultsInLists_node h place
  | some graphNodes =>
    obtain ⟨items, rfl, hitems⟩ := (h.entry hgraph (by decide)).graph_array
    refine FaultsInLists.append ?_ (faultsInLists_nodes place 0 hitems)
    rw [graphAccount]
    split
    · exact faultsInLists_nil
    · split
      · exact faultsInLists_node h place
      · exact faultsInLists_needs _

theorem faultsInLists_document {document : Json} (h : IsNormalDocument lists document) :
    FaultsInLists lists (documentAccount d document) := by
  obtain ⟨items, rfl, hitems⟩ := h
  rw [documentAccount]
  generalize 0 = i
  induction items generalizing i with
  | nil => exact faultsInLists_nil
  | cons item rest ih =>
    have hrest := ih (fun i hi => hitems i (List.mem_cons_of_mem _ hi)) (i + 1)
    cases item with
    | object members =>
      exact (faultsInLists_top (hitems _ (List.mem_cons_self ..)) _).append hrest
    | _ => exact hrest

end Objects

/-! ## Lists that are arrays -/

mutual

/-- Whether everything that `@list` holds in a value is an array. What a value object holds
does not matter. -/
def listsAreArrays : Json → Bool
  | .object members => Dict.has members "@value" || memberListsAreArrays members
  | .array items => itemListsAreArrays items
  | _ => true

/-- Whether everything that `@list` holds in some members is an array. -/
def memberListsAreArrays : List (String × Json) → Bool
  | [] => true
  | (key, value) :: rest =>
    (key != "@list" || value.items?.isSome) && listsAreArrays value && memberListsAreArrays rest

/-- Whether everything that `@list` holds in some items is an array. -/
def itemListsAreArrays : List Json → Bool
  | [] => true
  | item :: rest => listsAreArrays item && itemListsAreArrays rest

end

mutual

theorem IsNormal.restrict : (item : Json) → IsNormal Unrestricted item →
    listsAreArrays item = true → IsNormal IsArray item
  | .object members, h, harrays => by
    cases h with
    | value hordered hentries hfind hvalue => exact .value hordered hentries hfind hvalue
    | node hordered hne hentries =>
      rw [listsAreArrays, Bool.or_eq_true] at harrays
      rcases harrays with hvalue | harrays
      · exact absurd hvalue (Dict.not_has_iff.mpr (find?_value_of_node hentries))
      · exact .node hordered hne (IsNormalEntry.restrict_all members hentries harrays)

theorem IsNormalEntry.restrict_all : (members : List (String × Json)) →
    (∀ m ∈ members, IsNormalEntry Unrestricted m.1 m.2) →
    memberListsAreArrays members = true → ∀ m ∈ members, IsNormalEntry IsArray m.1 m.2
  | [], _, _ => nofun
  | (key, value) :: rest, h, harrays => by
    rw [memberListsAreArrays, Bool.and_eq_true, Bool.and_eq_true] at harrays
    obtain ⟨⟨hlist, hvalue⟩, hrest⟩ := harrays
    intro m hm
    rcases List.mem_cons.mp hm with rfl | hm
    · exact IsNormalEntry.restrict key value (h _ (List.mem_cons_self ..)) hlist hvalue
    · exact IsNormalEntry.restrict_all rest (fun m hm => h m (List.mem_cons_of_mem _ hm)) hrest m hm

theorem IsNormalEntry.restrict (key : String) : (value : Json) →
    IsNormalEntry Unrestricted key value → (key != "@list" || value.items?.isSome) = true →
    listsAreArrays value = true → IsNormalEntry IsArray key value
  | .array items, h, _, harrays => by
    have hitems : (∀ item ∈ items, IsNormal Unrestricted item) →
        ∀ item ∈ items, IsNormal IsArray item :=
      fun hnormal => IsNormal.restrict_all items hnormal harrays
    cases h with
    | types names => exact .types names
    | graph hnormal => exact .graph (hitems hnormal)
    | list _ hnormal => exact .list ⟨items, rfl⟩ (hitems hnormal)
    | property hkey hnormal => exact .property hkey (hitems hnormal)
  | .string id, h, hlist, _ => by
    cases h with
    | id => exact .id id
    | list => exact absurd hlist (by simp [Json.items?])
  | .null, h, hlist, _ | .bool _, h, hlist, _ | .number _, h, hlist, _
  | .object _, h, hlist, _ => by
    cases h with
    | list => exact absurd hlist (by simp [Json.items?])

theorem IsNormal.restrict_all : (items : List Json) →
    (∀ item ∈ items, IsNormal Unrestricted item) → itemListsAreArrays items = true →
    ∀ item ∈ items, IsNormal IsArray item
  | [], _, _ => nofun
  | item :: rest, h, harrays => by
    rw [itemListsAreArrays, Bool.and_eq_true] at harrays
    intro item' hitem
    rcases List.mem_cons.mp hitem with heq | hitem
    · rw [heq]
      exact IsNormal.restrict item (h _ (List.mem_cons_self ..)) harrays.1
    · exact IsNormal.restrict_all rest (fun i hi => h i (List.mem_cons_of_mem _ hi)) harrays.2
        item' hitem

end

theorem IsNormalDocument.restrict {document : Json} (h : IsNormalDocument Unrestricted document)
    (harrays : listsAreArrays document = true) : IsNormalDocument IsArray document := by
  obtain ⟨items, rfl, hitems⟩ := h
  exact ⟨items, rfl, IsNormal.restrict_all items hitems harrays⟩

/-! ## Conversion of what expansion makes -/

theorem convert_of_fault?_eq_none {document : Json}
    (h : (documentAccount 0 document).fault? = none) (c : Converter) :
    ∃ c', (Converter.convert document).run c = .ok () c' := by
  obtain ⟨c', -, hends⟩ := convert_adds 0 document c
  rw [h] at hends
  exact ⟨c', hends⟩

/-- A conversion that fails meets the first fault of the document. -/
theorem fault?_of_convert_error {document : Json} {c c' : Converter} {e : Document.Error}
    (h : (Converter.convert document).run c = .error e c') :
    (documentAccount 0 document).fault? = some e := by
  obtain ⟨c'', -, hends⟩ := convert_adds 0 document c
  cases hfault : (documentAccount 0 document).fault? with
  | none =>
    rw [hfault, h] at hends
    cases hends
  | some e' =>
    rw [hfault, h] at hends
    injection hends with hends
    rw [hends]

/-- What a document expands to is in normal form, but for what its lists hold, and it fails to
convert only where a list is no array. If all its lists are arrays, it is in normal form
altogether, and every converter takes it in. -/
theorem expand_normal_and_convertible {document expanded : Json} {base : Option String}
    (h : expand document base = .ok expanded) :
    IsNormalDocument Unrestricted expanded ∧
      (∀ c e c', (Converter.convert expanded).run c = .error e c' → e = listFault) ∧
        (listsAreArrays expanded = true →
          IsNormalDocument IsArray expanded ∧
            ∀ c, ∃ c', (Converter.convert expanded).run c = .ok () c') := by
  have hnormal := expand_isNormal h
  refine ⟨hnormal, ?_, ?_⟩
  · intro c e c' herror
    exact (faultsInLists_document hnormal e (fault?_of_convert_error herror)).1
  · intro harrays
    have hrestricted := hnormal.restrict harrays
    refine ⟨hrestricted, fun c => convert_of_fault?_eq_none ?_ c⟩
    cases hfault : (documentAccount 0 expanded).fault? with
    | none => rfl
    | some e =>
      obtain ⟨-, value, harray, hnot⟩ := faultsInLists_document hrestricted e hfault
      exact absurd harray hnot

/-- A node with a type, a value in a language, and a list of a node and a truth value. -/
def listedNode : Json :=
  .object
    [("@id", .string "http://a.b/x"), ("@type", .string "http://a.b/T"),
      ("http://a.b/name", .object [("@language", .string "en"), ("@value", .string "x")]),
      ("http://a.b/p", .object [("@list", .array [.object [("@id", .string "_:y")], .bool true])])]

theorem expand_listedNode_convertible :
    ∃ expanded, expand listedNode none = .ok expanded ∧ listsAreArrays expanded = true ∧
      IsNormalDocument IsArray expanded ∧
        ∀ c, ∃ c', (Converter.convert expanded).run c = .ok () c' := by
  have h := expand_normal_and_convertible (show expand listedNode none = .ok _ from rfl)
  exact ⟨_, rfl, rfl, h.2.2 rfl⟩

/-- A node with a list that is written without brackets. -/
def bareList : Json :=
  .object [("http://a.b/p", .object [("@list", .string "x")])]

/-- The list of `bareList` is expanded into a value object, which no converter takes for a
list. -/
theorem expand_bareList_not_convertible :
    ∃ expanded, expand bareList none = .ok expanded ∧ ¬ IsNormalDocument IsArray expanded ∧
      ∀ c, ∃ c', (Converter.convert expanded).run c = .error listFault c' := by
  refine ⟨_, rfl, ?_, fun c => ⟨_, rfl⟩⟩
  rintro ⟨items, heq, hitems⟩
  cases heq
  have hnode := hitems _ (List.mem_singleton_self _)
  have hproperty : IsNormalEntry IsArray "http://a.b/p" _ := hnode.entry rfl (by decide)
  obtain ⟨values, heq, hvalues⟩ := hproperty.property_array (by decide)
  cases heq
  have hlist : IsNormalEntry IsArray "@list" _ :=
    (hvalues _ (List.mem_singleton_self _)).entry rfl (by decide)
  obtain ⟨⟨_, heq⟩, -⟩ := hlist.list_items
  cases heq

end LinkedData.JsonLd
