import LinkedData.Proofs.JsonLd.Faultless
import LinkedData.Proofs.JsonLd.Sharing
import Mathlib.Data.List.Perm.Subperm

/-!
# LinkedData.Proofs.JsonLd.Statements -- which statements a conversion keeps

A node object of an expanded document says one thing for each of its types, and one for each
value of each of its properties, wherever it stands. `nodeQuads` collects what all node objects
say. Conversion reaches node objects by several routes, and each route looks at some keys only:
`Position.follows` says at which. `missedQuads` collects what is said off these routes: in a
`@graph` below the top level, in a `@list` that is no value, beside a `@list`, and, in a node of
the top level with a `@graph` and no identifier, by the node itself.

Every statement of a document is in the result of its conversion or is one of those. So a
document without any of them loses nothing, and others can.
-/

namespace LinkedData.JsonLd

open LinkedData.Rdf

/-! ## What node objects say -/

section Said

variable (d : Nat)

/-- What the types of a node say. -/
def typeQuads (graph : Option AbstractNode) (subject : AbstractNode) (types : List String) :
    List AbstractQuad :=
  types.map fun type => ⟨subject, rdfType, .node (identified d type), graph⟩

/-- What the values of a property from the `j`-th one on say. -/
def valueQuads (graph : Option AbstractNode) (place : Place) (subject : AbstractNode)
    (predicate : Iri) (k j : Nat) : List Json → List AbstractQuad
  | [] => []
  | item :: rest =>
    ((objectAt d (.value k j :: place) item).map fun object =>
        ⟨subject, predicate, object, graph⟩).toList ++
      valueQuads graph place subject predicate k (j + 1) rest

mutual

/-- What the node objects in a value say, at every depth. -/
def quadsIn (graph : Option AbstractNode) (place : Place) : Json → List AbstractQuad
  | .object members =>
    if Dict.has members "@value" then []
    else
      typeQuads d graph (subjectAt d place members) (Converter.typesOf members) ++
        memberQuads graph (graphAt d members) place (subjectAt d place members) 0 members
  | _ => []

/-- What the members of a node object from the `k`-th one on say of the node, and what the node
objects in them say. Those in its `@graph` stand in a graph of their own. -/
def memberQuads (graph inner : Option AbstractNode) (place : Place) (subject : AbstractNode)
    (k : Nat) : List (String × Json) → List AbstractQuad
  | [] => []
  | (key, value) :: rest =>
    entryQuads graph inner place subject key k value ++
      memberQuads graph inner place subject (k + 1) rest

/-- What one member says. -/
def entryQuads (graph inner : Option AbstractNode) (place : Place) (subject : AbstractNode)
    (key : String) (k : Nat) : Json → List AbstractQuad
  | .array items =>
    if key = "@graph" then itemQuads inner place .member 0 items
    else if key = "@list" then itemQuads graph place .item 0 items
    else if isKeyword key then []
    else
      valueQuads d graph place subject key k 0 items ++ itemQuads graph place (.value k) 0 items
  | _ => []

/-- What the node objects in items from the `j`-th one on say. -/
def itemQuads (graph : Option AbstractNode) (place : Place) (step : Nat → Step) (j : Nat) :
    List Json → List AbstractQuad
  | [] => []
  | item :: rest =>
    quadsIn graph (step j :: place) item ++ itemQuads graph place step (j + 1) rest

end

/-- What the node objects in an expanded document say. -/
def nodeQuads (document : Json) : List AbstractQuad :=
  itemQuads d none [] .top 0 (document.items?.getD [])

end Said

/-! ## Where conversion looks for node objects -/

/-- Where an object stands. -/
inductive Position where
  /-- At the top level. -/
  | top
  /-- In a `@graph`. -/
  | member
  /-- As the value of a property, or as the item of a list. -/
  | value
deriving DecidableEq, Repr

/-- Whether conversion looks at the member of a key, in a node object at a position. It looks
at the types and the properties of a node together. -/
def Position.follows (position : Position) (members : Json.Members) (key : String) : Bool :=
  if key = "@graph" then position == .top
  else if key = "@list" then position == .value
  else
    match position with
    | .top => !Dict.has members "@graph" || Dict.has members "@id"
    | .member => true
    | .value => !Dict.has members "@list"

section Missed

variable (d : Nat)

mutual

/-- What the node objects in a value say where conversion does not look. -/
def missedIn (position : Position) (graph : Option AbstractNode) (place : Place) :
    Json → List AbstractQuad
  | .object members =>
    if Dict.has members "@value" then []
    else
      (if position.follows members "@type" then []
        else typeQuads d graph (subjectAt d place members) (Converter.typesOf members)) ++
        missedMembers (position.follows members) graph (graphAt d members) place
          (subjectAt d place members) 0 members
  | _ => []

/-- What the members from the `k`-th one on say where conversion does not look, if it looks at
some keys. -/
def missedMembers (follows : String → Bool) (graph inner : Option AbstractNode) (place : Place)
    (subject : AbstractNode) (k : Nat) : List (String × Json) → List AbstractQuad
  | [] => []
  | (key, value) :: rest =>
    missedEntry (follows key) graph inner place subject key k value ++
      missedMembers follows graph inner place subject (k + 1) rest

/-- What one member says where conversion does not look: everything, if it is not followed. -/
def missedEntry (followed : Bool) (graph inner : Option AbstractNode) (place : Place)
    (subject : AbstractNode) (key : String) (k : Nat) : Json → List AbstractQuad
  | .array items =>
    if followed then
      if key = "@graph" then missedItems .member inner place .member 0 items
      else if key = "@list" then missedItems .value graph place .item 0 items
      else if isKeyword key then []
      else missedItems .value graph place (.value k) 0 items
    else entryQuads d graph inner place subject key k (.array items)
  | _ => []

/-- What the node objects in items from the `j`-th one on say where conversion does not look. -/
def missedItems (position : Position) (graph : Option AbstractNode) (place : Place)
    (step : Nat → Step) (j : Nat) : List Json → List AbstractQuad
  | [] => []
  | item :: rest =>
    missedIn position graph (step j :: place) item ++
      missedItems position graph place step (j + 1) rest

end

/-- What the node objects in an expanded document say where conversion does not look. -/
def missedQuads (document : Json) : List AbstractQuad :=
  missedItems d .top none [] .top 0 (document.items?.getD [])

end Missed

/-! ## What accounts state -/

section Accounts

variable {d : Nat} {g : Option AbstractNode}

theorem saidIn_types (subject : AbstractNode) (types : List String) :
    saidIn (typesAccount d g subject types) = typeQuads d g subject types := by
  induction types with
  | nil => rfl
  | cons type rest ih =>
    rw [typesAccount, saidIn_append, saidIn_append, saidIn_needs, ih]
    rfl

theorem saidIn_begin (place : Place) (members : Json.Members) :
    saidIn (beginAccount d g place members) =
      typeQuads d g (subjectAt d place members) (Converter.typesOf members) := by
  have hsubject : saidIn (subjectAccount d place members) = [] := by
    rw [subjectAccount]
    split
    · exact saidIn_needs _
    · exact saidIn_needs _
    · rfl
  rw [beginAccount, saidIn_append, hsubject, saidIn_types, List.nil_append]

theorem saidIn_link (subject : AbstractNode) (predicate : Iri) (object : Option AbstractTerm) :
    saidIn (linkAccount g subject predicate object) =
      (object.map fun object => ⟨subject, predicate, object, g⟩).toList := by
  cases object with
  | none => rfl
  | some object => rfl

end Accounts

/-! ## Conversion keeps what it looks at -/

section Sublists

variable {α : Type} {a b a' b' m n : List α}

/-- What is kept and what is missed, of two parts together. -/
theorem subperm_append_append (ha : a.Subperm (a' ++ m)) (hb : b.Subperm (b' ++ n)) :
    (a ++ b).Subperm ((a' ++ b') ++ (m ++ n)) := by
  have hswap : (a' ++ ((m ++ b') ++ n)).Perm (a' ++ ((b' ++ m) ++ n)) :=
    (List.perm_append_comm.append_right n).append_left a'
  have hperm : ((a' ++ m) ++ (b' ++ n)).Perm ((a' ++ b') ++ (m ++ n)) := by
    simpa only [List.append_assoc] using hswap
  exact (ha.append hb).trans hperm.subperm

theorem subperm_append_said (hb : b.Subperm (b' ++ n)) : (a ++ b).Subperm ((a ++ b') ++ n) := by
  rw [List.append_assoc]
  exact (List.Subperm.refl a).append hb

theorem subperm_append_missed (hb : b.Subperm (b' ++ n)) : (m ++ b).Subperm (b' ++ (m ++ n)) := by
  have hcomm : (m ++ b').Perm (b' ++ m) := List.perm_append_comm
  have hswap : (m ++ (b' ++ n)).Perm (b' ++ (m ++ n)) := by
    simpa only [List.append_assoc] using hcomm.append_right n
  exact ((List.Subperm.refl m).append hb).trans hswap.subperm

theorem perm_interleave (a b c e : List α) :
    ((a ++ b) ++ (c ++ e)).Perm (c ++ (a ++ (b ++ e))) := by
  have hswap : (((a ++ b) ++ c) ++ e).Perm ((c ++ (a ++ b)) ++ e) :=
    List.perm_append_comm.append_right e
  simpa only [List.append_assoc] using hswap

end Sublists

section Follows

variable {members : Json.Members}

/-- Whether conversion looks at the types and the properties of a node. -/
def FollowsOwn (follows : String → Bool) : Prop :=
  ∀ key, key ≠ "@graph" → key ≠ "@list" → follows key = true

/-- Whether conversion looks at one key of a node at most. -/
def FollowsOnly (follows : String → Bool) (followed : String) : Prop :=
  ∀ key, key ≠ followed → follows key = false

theorem followsOnly_value (hlist : Dict.has members "@list" = true) :
    FollowsOnly (Position.follows .value members) "@list" := by
  intro key hkey
  rw [Position.follows]
  by_cases hgraph : key = "@graph"
  · rw [if_pos hgraph]
    rfl
  · rw [if_neg hgraph, if_neg hkey]
    exact congrArg not hlist

theorem followsOwn_value (hlist : ¬ Dict.has members "@list" = true) :
    FollowsOwn (Position.follows .value members) := by
  intro key hgraph hkey
  rw [Bool.not_eq_true] at hlist
  rw [Position.follows, if_neg hgraph, if_neg hkey]
  exact congrArg not hlist

theorem followsOwn_member : FollowsOwn (Position.follows .member members) := by
  intro key hgraph hkey
  rw [Position.follows, if_neg hgraph, if_neg hkey]

theorem followsOwn_top (hgraph : ¬ Dict.has members "@graph" = true) :
    FollowsOwn (Position.follows .top members) := by
  intro key hkey hlist
  rw [Bool.not_eq_true] at hgraph
  rw [Position.follows, if_neg hkey, if_neg hlist]
  show (!Dict.has members "@graph" || _) = true
  rw [hgraph]
  rfl

theorem followsOwn_top_named (hid : Dict.has members "@id" = true) :
    FollowsOwn (Position.follows .top members) := by
  intro key hkey hlist
  rw [Position.follows, if_neg hkey, if_neg hlist]
  show (_ || Dict.has members "@id") = true
  rw [hid, Bool.or_true]

theorem followsOnly_top_unnamed (hgraph : Dict.has members "@graph" = true)
    (hid : ¬ Dict.has members "@id" = true) :
    FollowsOnly (Position.follows .top members) "@graph" := by
  intro key hkey
  rw [Bool.not_eq_true] at hid
  rw [Position.follows, if_neg hkey]
  by_cases hlist : key = "@list"
  · rw [if_pos hlist]
    rfl
  · rw [if_neg hlist]
    show (!Dict.has members "@graph" || Dict.has members "@id") = false
    rw [hgraph, hid]
    rfl

theorem ne_list_of_find?_cons {key : String} {value : Json} {rest : Json.Members}
    (h : Dict.find? ((key, value) :: rest) "@list" = none) : key ≠ "@list" := by
  rintro rfl
  rw [Dict.find?_cons_self] at h
  cases h

end Follows

section Unfollowed

variable {d : Nat} {g inner : Option AbstractNode} {place : Place} {subject : AbstractNode}

theorem missedEntry_false (key : String) (k : Nat) (value : Json) :
    missedEntry d false g inner place subject key k value =
      entryQuads d g inner place subject key k value := by
  cases value with
  | array items => rw [missedEntry, if_neg Bool.false_ne_true]
  | _ => rfl

/-- A member that is not followed is missed. -/
theorem subperm_of_not_followed {followed : Bool} (h : followed = false) {key : String} {k : Nat}
    {value : Json} :
    (entryQuads d g inner place subject key k value).Subperm
      ([] ++ missedEntry d followed g inner place subject key k value) := by
  rw [h, missedEntry_false]
  exact List.Subperm.refl _

theorem entryQuads_keyword {key : String} (hgraph : key ≠ "@graph") (hlist : key ≠ "@list")
    (hkeyword : isKeyword key = true) {k : Nat} {value : Json} :
    entryQuads d g inner place subject key k value = [] := by
  cases value with
  | array items => rw [entryQuads, if_neg hgraph, if_neg hlist, if_pos hkeyword]
  | _ => rfl

theorem missedMembers_of_not_followed {follows : String → Bool} {members : Json.Members}
    (h : ∀ m ∈ members, follows m.1 = false) (k : Nat) :
    missedMembers d follows g inner place subject k members =
      memberQuads d g inner place subject k members := by
  induction members generalizing k with
  | nil => rfl
  | cons m rest ih =>
    obtain ⟨key, value⟩ := m
    have hkey : follows key = false := h _ (List.mem_cons_self ..)
    rw [missedMembers, memberQuads, hkey, missedEntry_false,
      ih (fun m hm => h m (List.mem_cons_of_mem _ hm))]

/-- Where conversion looks at one key only, it keeps of a node what it keeps of that member. -/
theorem subperm_of_one_followed {follows : String → Bool} {followed : String}
    (honly : FollowsOnly follows followed) {said : List AbstractQuad}
    {members : Json.Members} (hordered : members.Ordered)
    (h : ∀ k value, Dict.find? members followed = some value →
      (entryQuads d g inner place subject followed k value).Subperm
        (said ++ missedEntry d (follows followed) g inner place subject followed k value))
    (k : Nat) :
    (memberQuads d g inner place subject k members).Subperm
      (said ++ missedMembers d follows g inner place subject k members) := by
  induction members generalizing k with
  | nil => exact List.nil_subperm
  | cons m rest ih =>
    obtain ⟨key, value⟩ := m
    obtain ⟨hfirst, hordered⟩ := List.pairwise_cons.mp hordered
    rw [memberQuads, missedMembers]
    by_cases hkey : key = followed
    · -- No other member has this key, so all others are missed.
      subst hkey
      have hrest : ∀ m ∈ rest, follows m.1 = false :=
        fun m hm => honly m.1 (hfirst m hm).ne'
      rw [missedMembers_of_not_followed hrest, ← List.append_assoc]
      exact (h k value (Dict.find?_cons_self ..)).append (List.Subperm.refl _)
    · rw [honly key hkey, missedEntry_false]
      have hrest := ih hordered (fun k value hfind =>
        h k value ((Dict.find?_cons_ne hkey ..).trans hfind)) (k + 1)
      exact subperm_append_missed hrest

end Unfollowed

section Kept

-- One lemma for each account that recurses. What a node object says of itself is said between
-- what its values say, so the quads are compared up to their order.
variable {d : Nat} {g : Option AbstractNode}

mutual

theorem quadsIn_value (place : Place) : (item : Json) → IsNormal Unrestricted item →
    (quadsIn d g place item).Subperm
      (saidIn (itemAccount d g place item) ++ missedIn d .value g place item)
  | .object members, h => by
    rw [quadsIn, missedIn, itemAccount]
    cases h with
    | value _ _ hfind _ =>
      rw [if_pos (Dict.has_iff.mpr ⟨_, hfind⟩)]
      exact List.nil_subperm
    | node hordered _ hentries =>
      have hvalue := find?_value_of_node hentries
      rw [if_neg (Dict.not_has_iff.mpr hvalue), if_neg (Dict.not_has_iff.mpr hvalue), hvalue]
      show List.Subperm _ (saidIn (ite _ _ _) ++ _)
      by_cases hlist : Dict.has members "@list" = true
      · have honly := followsOnly_value hlist
        rw [if_pos hlist, honly "@type" (by decide), if_neg Bool.false_ne_true]
        refine subperm_append_missed (subperm_of_one_followed honly hordered ?_ 0)
        intro k value hfind
        exact quadsIn_listMember place _ _ k members hentries value hfind
      · have hown := followsOwn_value hlist
        rw [if_neg hlist, hown "@type" (by decide) (by decide), if_pos rfl, List.nil_append,
          saidIn_append, saidIn_begin]
        have hkept := quadsIn_members (graphAt d members) place (subjectAt d place members) 0
          (Position.follows .value members) hown [] members hordered hentries
          (Or.inl (Dict.not_has_iff.mp hlist)) fun k value _ => subperm_of_not_followed rfl
        rw [List.append_nil] at hkept
        exact subperm_append_said hkept
  | .null, _ | .bool _, _ | .number _, _ | .string _, _ | .array _, _ => List.nil_subperm

theorem quadsIn_listMember (place : Place) (inner : Option AbstractNode)
    (subject : AbstractNode) (k : Nat) : (members : List (String × Json)) →
    (∀ m ∈ members, IsNormalEntry Unrestricted m.1 m.2) →
    ∀ value, Dict.find? members "@list" = some value →
    (entryQuads d g inner place subject "@list" k value).Subperm
      (saidIn (listMember d g place members) ++
        missedEntry d true g inner place subject "@list" k value)
  | [], _, _, hfind => by cases hfind
  | (key, first) :: rest, hentries, value, hfind => by
    rw [listMember]
    by_cases hkey : key = "@list"
    · subst hkey
      rw [Dict.find?_cons_self] at hfind
      cases hfind
      rw [if_pos rfl]
      exact quadsIn_list place inner subject k first (hentries _ (List.mem_cons_self ..))
    · rw [if_neg hkey]
      rw [Dict.find?_cons_ne hkey] at hfind
      exact quadsIn_listMember place inner subject k rest
        (fun m hm => hentries m (List.mem_cons_of_mem _ hm)) value hfind

theorem quadsIn_list (place : Place) (inner : Option AbstractNode) (subject : AbstractNode)
    (k : Nat) : (value : Json) → IsNormalEntry Unrestricted "@list" value →
    (entryQuads d g inner place subject "@list" k value).Subperm
      (saidIn (listAccount d g place value) ++
        missedEntry d true g inner place subject "@list" k value)
  | .array items, h => by
    rw [entryQuads, if_neg (by decide), if_pos rfl, missedEntry, if_pos rfl, if_neg (by decide),
      if_pos rfl, listAccount, saidIn_append, List.append_assoc]
    have hitems := quadsIn_items place 0 items h.list_items.2
    -- The cells are stated beside what the items say.
    exact hitems.trans ((List.Subperm.refl _).append (List.sublist_append_right _ _).subperm)
  | .null, _ | .bool _, _ | .number _, _ | .string _, _ | .object _, _ => List.nil_subperm

theorem quadsIn_items (place : Place) (j : Nat) : (items : List Json) →
    (∀ item ∈ items, IsNormal Unrestricted item) →
    (itemQuads d g place .item j items).Subperm
      (saidIn (itemsAccount d g place j items) ++ missedItems d .value g place .item j items)
  | [], _ => List.nil_subperm
  | item :: rest, h => by
    rw [itemQuads, itemsAccount, missedItems, saidIn_append]
    exact subperm_append_append (quadsIn_value _ item (h _ (List.mem_cons_self ..)))
      (quadsIn_items place (j + 1) rest fun i hi => h i (List.mem_cons_of_mem _ hi))

/-- What the members of a node say, if conversion looks at its properties. What it keeps of the
`@graph` is given. -/
theorem quadsIn_members (inner : Option AbstractNode) (place : Place) (subject : AbstractNode)
    (k : Nat) (follows : String → Bool) (hown : FollowsOwn follows) (said : List AbstractQuad) :
    (members : List (String × Json)) → Dict.Ordered members →
    (∀ m ∈ members, IsNormalEntry Unrestricted m.1 m.2) →
    (Dict.find? members "@list" = none ∨ follows "@list" = false) →
    (∀ k value, Dict.find? members "@graph" = some value →
      (entryQuads d g inner place subject "@graph" k value).Subperm
        (said ++ missedEntry d (follows "@graph") g inner place subject "@graph" k value)) →
    (memberQuads d g inner place subject k members).Subperm
      ((saidIn (membersAccount d g place subject k members) ++ said) ++
        missedMembers d follows g inner place subject k members)
  | [], _, _, _, _ => List.nil_subperm
  | (key, value) :: rest, hordered, hentries, hlist, hgraph => by
    obtain ⟨hfirst, hordered'⟩ := List.pairwise_cons.mp hordered
    have hentry := hentries _ (List.mem_cons_self ..)
    have hentries' : ∀ m ∈ rest, IsNormalEntry Unrestricted m.1 m.2 :=
      fun m hm => hentries m (List.mem_cons_of_mem _ hm)
    have hlist' : Dict.find? rest "@list" = none ∨ follows "@list" = false := by
      refine hlist.imp_left fun hnone => ?_
      by_contra hsome
      rw [Dict.find?_cons_ne (ne_list_of_find?_cons hnone)] at hnone
      exact hsome hnone
    rw [memberQuads, membersAccount, missedMembers, saidIn_append]
    by_cases hkey : key = "@graph"
    · -- Properties do not state what is in the `@graph`, and no other member is one.
      subst hkey
      have hnone := Dict.find?_eq_none_of_lt hfirst
      have hrest := quadsIn_members inner place subject (k + 1) follows hown [] rest hordered'
        hentries' hlist' fun k value hfind => by
          rw [hnone] at hfind
          cases hfind
      rw [List.append_nil] at hrest
      rw [if_pos (by decide)]
      refine (subperm_append_append (hgraph k value (Dict.find?_cons_self ..)) hrest).trans ?_
      exact (List.perm_append_comm.append_right _).subperm
    · have hrest := quadsIn_members inner place subject (k + 1) follows hown said rest hordered'
        hentries' hlist' fun k value hfind =>
          hgraph k value ((Dict.find?_cons_ne hkey ..).trans hfind)
      rw [List.append_assoc (saidIn _) (saidIn _) said]
      refine subperm_append_append ?_ hrest
      by_cases hkeyword : isKeyword key = true
      · rw [if_pos hkeyword]
        by_cases hkeyList : key = "@list"
        · subst hkeyList
          have hmissed := hlist.resolve_left fun hnone => ne_list_of_find?_cons hnone rfl
          exact subperm_of_not_followed hmissed
        · rw [entryQuads_keyword hkey hkeyList hkeyword]
          exact List.nil_subperm
      · have hkeyList : key ≠ "@list" := by
          rintro rfl
          exact hkeyword (by decide)
        rw [if_neg hkeyword, hown key hkey hkeyList]
        rw [Bool.not_eq_true] at hkeyword
        exact quadsIn_property inner place subject key k value hkey hkeyList hkeyword hentry

theorem quadsIn_property (inner : Option AbstractNode) (place : Place) (subject : AbstractNode)
    (key : String) (k : Nat) :
    (value : Json) → key ≠ "@graph" → key ≠ "@list" → isKeyword key = false →
    IsNormalEntry Unrestricted key value →
    (entryQuads d g inner place subject key k value).Subperm
      (saidIn (propertyAccount d g place subject key k value) ++
        missedEntry d true g inner place subject key k value)
  | .array items, hgraph, hlist, hkeyword, h => by
    obtain ⟨_, heq, hitems⟩ := h.property_array hkeyword
    cases heq
    rw [entryQuads, if_neg hgraph, if_neg hlist, hkeyword, if_neg Bool.false_ne_true,
      missedEntry, if_pos rfl, if_neg hgraph, if_neg hlist, hkeyword, if_neg Bool.false_ne_true]
    exact quadsIn_values place subject key k 0 items hitems
  | .null, _, _, _, _ | .bool _, _, _, _, _ | .number _, _, _, _, _
  | .string _, _, _, _, _ | .object _, _, _, _, _ => List.nil_subperm

theorem quadsIn_values (place : Place) (subject : AbstractNode) (predicate : Iri) (k j : Nat) :
    (items : List Json) → (∀ item ∈ items, IsNormal Unrestricted item) →
    (valueQuads d g place subject predicate k j items ++
      itemQuads d g place (.value k) j items).Subperm
      (saidIn (valuesAccount d g place subject predicate k j items) ++
        missedItems d .value g place (.value k) j items)
  | [], _ => List.nil_subperm
  | item :: rest, h => by
    have hitem := quadsIn_value (.value k j :: place) item (h _ (List.mem_cons_self ..))
    have hrest := quadsIn_values place subject predicate k (j + 1) rest
      fun i hi => h i (List.mem_cons_of_mem _ hi)
    rw [valueQuads, itemQuads, valuesAccount, missedItems, saidIn_append, saidIn_append,
      saidIn_link]
    -- What is in a value is said before the value is mentioned.
    refine (perm_interleave _ _ _ _).subperm.trans ?_
    exact subperm_append_append hitem (subperm_append_said hrest)

end

/-- What a node object says, if conversion looks at its types and properties. -/
theorem quadsIn_node {members : Json.Members} (h : IsNormal Unrestricted (.object members))
    (hvalue : Dict.find? members "@value" = none) {follows : String → Bool}
    (hown : FollowsOwn follows) (hlist : follows "@list" = false) (inner : Option AbstractNode)
    (place : Place) {said : List AbstractQuad}
    (hgraph : ∀ k value, Dict.find? members "@graph" = some value →
      (entryQuads d g inner place (subjectAt d place members) "@graph" k value).Subperm
        (said ++ missedEntry d (follows "@graph") g inner place (subjectAt d place members)
          "@graph" k value)) :
    (typeQuads d g (subjectAt d place members) (Converter.typesOf members) ++
      memberQuads d g inner place (subjectAt d place members) 0 members).Subperm
      ((saidIn (nodeAccount d g place members) ++ said) ++
        missedMembers d follows g inner place (subjectAt d place members) 0 members) := by
  cases h with
  | value _ _ hfind _ =>
    rw [hvalue] at hfind
    cases hfind
  | node hordered _ hentries =>
    rw [nodeAccount, saidIn_append, saidIn_begin,
      List.append_assoc (typeQuads d g _ _) (saidIn _) said]
    exact subperm_append_said (quadsIn_members inner place _ 0 follows hown said members hordered
      hentries (Or.inr hlist) hgraph)

/-- The members of a graph. -/
theorem quadsIn_nodes (place : Place) (j : Nat) {items : List Json}
    (h : ∀ item ∈ items, IsNormal Unrestricted item) :
    (itemQuads d g place .member j items).Subperm
      (saidIn (nodesAccount d g place j items) ++
        missedItems d .member g place .member j items) := by
  induction items generalizing j with
  | nil => exact List.nil_subperm
  | cons item rest ih =>
    have hrest := ih (j + 1) fun i hi => h i (List.mem_cons_of_mem _ hi)
    have hitem := h item (List.mem_cons_self ..)
    rw [itemQuads, missedItems]
    cases item with
    | object members =>
      rw [nodesAccount, saidIn_append]
      refine subperm_append_append ?_ hrest
      rw [quadsIn, missedIn]
      split
      · exact List.nil_subperm
      · rename_i hvalue
        rw [Dict.not_has_iff] at hvalue
        have hown : FollowsOwn (Position.follows .member members) := followsOwn_member
        have hnode := quadsIn_node (d := d) (g := g) hitem hvalue hown rfl (graphAt d members)
          (.member j :: place) fun k value _ => subperm_of_not_followed rfl
        rw [List.append_nil] at hnode
        rw [hown "@type" (by decide) (by decide), if_pos rfl]
        exact hnode
    | _ => exact hrest

/-- A node with nothing but an identifier and a graph says nothing itself. -/
theorem saidIn_node_of_keys {members : Json.Members}
    (h : ∀ m ∈ members, m.1 = "@id" ∨ m.1 = "@graph") (place : Place) :
    saidIn (nodeAccount d g place members) = [] := by
  have hkeys : ∀ m ∈ members, m.1 ≠ "@type" ∧ isKeyword m.1 = true := by
    intro m hm
    rcases h m hm with hkey | hkey
    · rw [hkey]
      decide
    · rw [hkey]
      decide
  have htypes : Converter.typesOf members = [] := by
    rw [Converter.typesOf, Dict.find?_eq_none_of_forall fun m hm => (hkeys m hm).1]
  rw [nodeAccount, saidIn_append, saidIn_begin, htypes,
    membersAccount_of_keywords fun m hm => (hkeys m hm).2]
  rfl

/-- What a node of the top level with a graph and an identifier says itself is stated. -/
theorem said_in_graphAccount {members : Json.Members} {id : String}
    (hid : Dict.find? members "@id" = some (.string id)) (place : Place) :
    (saidIn (nodeAccount d none place members)).Subperm
      (saidIn (graphAccount d place members)) := by
  rw [graphAccount, hid]
  show List.Subperm _ (saidIn (ite _ _ _))
  split
  · exact List.Subperm.refl _
  · rename_i hkeys
    rw [saidIn_node_of_keys, saidIn_needs]
    intro m hm
    by_contra hne
    rw [not_or] at hne
    refine hkeys (List.any_eq_true.mpr ⟨m, hm, ?_⟩)
    rw [Bool.and_eq_true, bne_iff_ne, bne_iff_ne]
    exact hne

/-- What a node of the top level says in its `@graph`. -/
theorem quadsIn_graph {members : Json.Members} (h : IsNormal Unrestricted (.object members))
    {graphNodes : Json} (hfind : Dict.find? members "@graph" = some graphNodes)
    (inner : Option AbstractNode) (place : Place) (subject : AbstractNode) (k : Nat)
    (value : Json) (hvalue : Dict.find? members "@graph" = some value) :
    (entryQuads d g inner place subject "@graph" k value).Subperm
      (saidIn (nodesAccount d inner place 0 (graphNodes.items?.getD [])) ++
        missedEntry d true g inner place subject "@graph" k value) := by
  obtain rfl : graphNodes = value := Option.some.inj (hfind.symm.trans hvalue)
  obtain ⟨items, rfl, hitems⟩ := (h.entry hfind (by decide)).graph_array
  rw [entryQuads, if_pos rfl, missedEntry, if_pos rfl, if_pos rfl]
  exact quadsIn_nodes place 0 hitems

theorem quadsIn_top {members : Json.Members} (h : IsNormal Unrestricted (.object members))
    (place : Place) :
    (quadsIn d none place (.object members)).Subperm
      (saidIn (topAccount d place members) ++ missedIn d .top none place (.object members)) := by
  rw [quadsIn, missedIn]
  split
  · exact List.nil_subperm
  rename_i hvalue
  rw [Dict.not_has_iff] at hvalue
  rw [topAccount]
  cases hfind : Dict.find? members "@graph" with
  | none =>
    have hown := followsOwn_top (Dict.not_has_iff.mpr hfind)
    rw [hown "@type" (by decide) (by decide), if_pos rfl, List.nil_append,
      ← List.append_nil (saidIn _)]
    refine quadsIn_node h hvalue hown rfl (graphAt d members) place fun k value hsome => ?_
    rw [hfind] at hsome
    cases hsome
  | some graphNodes =>
    have hgraph := quadsIn_graph (d := d) (g := none) h hfind (graphAt d members) place
      (subjectAt d place members)
    show List.Subperm _ (saidIn (graphAccount d place members ++ nodesAccount d _ place 0 _) ++ _)
    rw [saidIn_append]
    cases hid : Dict.find? members "@id" with
    | some value =>
      obtain ⟨id, rfl⟩ := (h.entry hid (by decide)).id_string
      have hown := followsOwn_top_named (Dict.has_iff.mpr ⟨_, hid⟩)
      rw [hown "@type" (by decide) (by decide), if_pos rfl]
      refine (quadsIn_node h hvalue hown rfl _ place hgraph).trans ?_
      have hself := said_in_graphAccount (d := d) hid place
      exact (hself.append (List.Subperm.refl _)).append (List.Subperm.refl _)
    | none =>
      -- Nothing looks at the node itself, only at its graph.
      have honly := followsOnly_top_unnamed (Dict.has_iff.mpr ⟨_, hfind⟩)
        (Dict.not_has_iff.mpr hid)
      rw [honly "@type" (by decide), if_neg Bool.false_ne_true, List.append_assoc]
      have hkept := subperm_of_one_followed honly h.ordered hgraph 0
      exact (subperm_append_missed hkept).trans (List.sublist_append_right _ _).subperm

theorem quadsIn_tops (i : Nat) {items : List Json}
    (h : ∀ item ∈ items, IsNormal Unrestricted item) :
    (itemQuads d none [] .top i items).Subperm
      (saidIn (topsAccount d i items) ++ missedItems d .top none [] .top i items) := by
  induction items generalizing i with
  | nil => exact List.nil_subperm
  | cons item rest ih =>
    have hrest := ih (i + 1) fun i hi => h i (List.mem_cons_of_mem _ hi)
    rw [itemQuads, missedItems]
    cases item with
    | object members =>
      rw [topsAccount, saidIn_append]
      exact subperm_append_append (quadsIn_top (h _ (List.mem_cons_self ..)) _) hrest
    | _ => exact hrest

end Kept

/-! ## Conversion of what expansion makes -/

/-- Expansion and conversion lose no statement where conversion looks: with distinct labels for
distinct blank nodes, every type and every value of a property of a node object contributes a
quad of its own, with its node as the subject, or is said where conversion does not look. -/
theorem quadsOf_keeps {document expanded : Json} {base : Option String} {graph : Graph}
    (hexpand : expand document base = .ok expanded)
    (hgraph : quadsOf base [document] = .ok graph) :
    ∃ name : Origin → String,
      (∀ o ∈ (nodeQuads 0 expanded).flatMap AbstractQuad.origins,
        ∀ o' ∈ (nodeQuads 0 expanded).flatMap AbstractQuad.origins, name o = name o' → o = o') ∧
      ((nodeQuads 0 expanded).map (AbstractQuad.under name)).Subperm
        (graph ++ (missedQuads 0 expanded).map (AbstractQuad.under name)) := by
  obtain ⟨items, rfl, hitems⟩ := expand_isNormal hexpand
  obtain ⟨c, hrun, rfl⟩ := ok_of_quadsOf hgraph
  rw [run_convertDocument_of_ok hexpand] at hrun
  obtain ⟨c', hadds, hends⟩ := convert_adds 0 (.array items) {}
  cases hfault : (documentAccount 0 (.array items)).fault? with
  | some e =>
    rw [hfault, hrun] at hends
    cases hends
  | none =>
    rw [hfault, hrun] at hends
    cases hends
    obtain ⟨qs, hqs, hnames⟩ := hadds.quads
    have hstated : statedBy 0 (.array items) = saidIn (topsAccount 0 0 items) :=
      stated_before hfault
    have hsaid : (nodeQuads 0 (.array items)).Subperm
        (statedBy 0 (.array items) ++ missedQuads 0 (.array items)) :=
      hstated ▸ quadsIn_tops 0 hitems
    -- Blank nodes that no quad of the result mentions are numbered after the others.
    let issued := blankNodesOf 0 (.array items)
    let missed := (missedQuads 0 (.array items)).flatMap AbstractQuad.origins
    refine ⟨fun o => Converter.label (0 + (issued ++ missed).idxOf o), ?_, ?_⟩
    · intro o ho o' _ hlabel
      have hmem : o ∈ issued ++ missed := by
        obtain ⟨q, hq, ho⟩ := List.mem_flatMap.mp ho
        rcases List.mem_append.mp (hsaid.subset hq) with hq | hq
        · exact List.mem_append_left _
            (mem_of_mem_origins hnames o (List.mem_flatMap.mpr ⟨q, hq, ho⟩))
        · exact List.mem_append_right _ (List.mem_flatMap.mpr ⟨q, hq, ho⟩)
      rw [label_inj, Nat.add_left_cancel_iff] at hlabel
      exact (List.idxOf_inj hmem).mp hlabel
    · have hunder : qs = (statedBy 0 (.array items)).map
          (AbstractQuad.under fun o => Converter.label (0 + (issued ++ missed).idxOf o)) := by
        refine eq_map_of_names (fun o s hs => ?_) hnames
        rw [List.idxOf_append_of_mem hs.mem]
        exact hs.eq_label (nodup_blankNodesOf 0 (.array items))
      rw [hqs]
      show List.Subperm _ (qs ++ _)
      rw [hunder, ← List.map_append]
      obtain ⟨l, hperm, hsub⟩ := hsaid
      exact ⟨l.map _, hperm.map _, hsub.map _⟩

/-- A graph with a date, in which someone of a type knows someone else with a name, and has a
list. -/
def datedGraph : Json :=
  .object
    [("@graph", .array
        [.object
          [("@type", .string "http://a.b/Person"),
            ("http://a.b/knows", .object [("http://a.b/name", .string "Ada")]),
            ("http://a.b/list", .object [("@list", .array [.object [("@id", .string "_:x")]])])]]),
      ("@id", .string "http://a.b/graph"),
      ("http://a.b/date", .string "today")]

/-- The date, the type, the acquaintance with its name, and the list are five statements, and
conversion looks at all of them; the cell of the list takes two more. -/
theorem quadsOf_datedGraph_keeps :
    ∃ expanded graph, expand datedGraph none = .ok expanded ∧
      quadsOf none [datedGraph] = .ok graph ∧ (nodeQuads 0 expanded).length = 5 ∧
      missedQuads 0 expanded = [] ∧ graph.length = 7 ∧
      ∃ name : Origin → String,
        (∀ o ∈ (nodeQuads 0 expanded).flatMap AbstractQuad.origins,
          ∀ o' ∈ (nodeQuads 0 expanded).flatMap AbstractQuad.origins,
            name o = name o' → o = o') ∧
        ((nodeQuads 0 expanded).map (AbstractQuad.under name)).Subperm
          (graph ++ (missedQuads 0 expanded).map (AbstractQuad.under name)) := by
  have h := quadsOf_keeps (show expand datedGraph none = .ok _ from rfl)
    (show quadsOf none [datedGraph] = .ok _ from rfl)
  exact ⟨_, _, rfl, rfl, rfl, rfl, rfl, h⟩

/-- A node with a graph and a property, but without an identifier. -/
def unnamedGraph : Json :=
  .object [("@graph", .array []), ("http://a.b/p", .string "x")]

/-- The property of `unnamedGraph` is expanded, and conversion drops it without an error. -/
theorem quadsOf_unnamedGraph_drops :
    ∃ expanded, expand unnamedGraph none = .ok expanded ∧
      nodeQuads 0 expanded =
        [⟨.blank ⟨0, .object [.top 0]⟩, "http://a.b/p", .literal (.typed "x" xsdString), none⟩] ∧
      missedQuads 0 expanded = nodeQuads 0 expanded ∧
      quadsOf none [unnamedGraph] = .ok [] :=
  ⟨_, rfl, rfl, rfl, rfl⟩

end LinkedData.JsonLd
