import LinkedData.JsonLd.Document
import LinkedData.Proofs.JsonLd.Interchange
import LinkedData.Proofs.JsonLd.Places

/-!
# LinkedData.Proofs.JsonLd.Single -- a single value and an array of it

A property may be given a value or an array with that value alone. Both are read alike, wherever
in a document they stand: the documents have the same quads, with the same blank nodes, or fail
with the same error.

Two kinds of places are apart. A term whose container is a list only makes a list of an array,
so a single value is no list. And a property whose value expands to nothing is dropped, while an
array of nothing stays: a node of which nothing else is told is dropped in the first case and
stays in the second.
-/

namespace LinkedData.JsonLd

open LinkedData.Text

/-! ## Results that agree -/

/-- Two results of which neither can be told from the other but for a relation on values: the
same error, or values that are related. -/
inductive Agree {α : Type} (R : α → α → Prop) :
    Except Document.Error α → Except Document.Error α → Prop
  | error (e : Document.Error) : Agree R (.error e) (.error e)
  | ok {a b : α} : R a b → Agree R (.ok a) (.ok b)

namespace Agree

variable {α β : Type} {R : α → α → Prop} {S : β → β → Prop}

theorem refl (h : ∀ a, R a a) (x : Except Document.Error α) : Agree R x x := by
  cases x with
  | error e => exact .error e
  | ok a => exact .ok (h a)

theorem bind {x y : Except Document.Error α} {f g : α → Except Document.Error β}
    (hxy : Agree R x y) (hfg : ∀ a b, R a b → Agree S (f a) (g b)) :
    Agree S (x >>= f) (y >>= g) := by
  cases hxy with
  | error e => exact .error e
  | ok hab => exact hfg _ _ hab

theorem mono {x y : Except Document.Error α} {R' : α → α → Prop} (h : Agree R x y)
    (hR : ∀ a b, x = .ok a → R a b → R' a b) : Agree R' x y := by
  cases h with
  | error e => exact .error e
  | ok hab => exact .ok (hR _ _ rfl hab)

/-- Two computations that begin in the same way agree if what follows does. -/
theorem bind_same {x : Except Document.Error α} {f g : α → Except Document.Error β}
    (h : ∀ a, x = .ok a → Agree S (f a) (g a)) : Agree S (x >>= f) (x >>= g) := by
  cases x with
  | error e => exact .error e
  | ok a => exact h a rfl

end Agree

/-! ## Places in a document -/

/-- Whether the keys of an object are read as those of a node, in a context around it. -/
def IsRead (ctx : Except Document.Error Context) (members : Json.Members) : Prop :=
  ∀ c inner, ctx = .ok c → objectContext c members = .ok inner →
    isValueObject inner members = false

/-- An entry whose value is read as an array of it would be, among the other entries of a
node. -/
structure ReadsAsArray (c : Context) (before : Json.Members) (key : String) (value : Json)
    (after : Json.Members) : Prop where
  /-- The key is no keyword. -/
  property : keywordOf? c key = none
  /-- The value is no map from languages. -/
  language : (c.term? key).bind (·.container) = some .language → value.members? = none
  /-- The values of the key are no list. -/
  list : (c.term? key).bind (·.container) ≠ some .list
  /-- The value expands to something, or there is something else to the node. -/
  told : (∀ iri, contribution c (key, value) ≠ .ok (some (iri, .null))) ∨
    expandEntries c [] (before ++ after) ≠ .ok []

/-- Two documents that are the same but for one entry of a node, at any depth: the first has a
value where the second has an array of that value. They stand in a context, unless making it
has failed. -/
inductive Wraps : Except Document.Error Context → Json → Json → Prop
  | here {ctx : Except Document.Error Context} {before after : Json.Members} {key : String}
      {value : Json} : key ≠ "@context" → value.items? = none →
      IsRead ctx (before ++ (key, value) :: after) →
      (∀ c, ctx >>= nodeContext (before ++ (key, value) :: after) = .ok c →
        ReadsAsArray c before key value after) →
      Wraps ctx (.object (before ++ (key, value) :: after))
        (.object (before ++ (key, .array [value]) :: after))
  | inside {ctx : Except Document.Error Context} {before after : Json.Members} {key : String}
      {value value' : Json} : key ≠ "@context" →
      IsRead ctx (before ++ (key, value) :: after) →
      (∀ c, ctx >>= nodeContext (before ++ (key, value) :: after) = .ok c →
        HoldsNodes c key value) →
      Wraps (ctx >>= nodeContext (before ++ (key, value) :: after) >>= valueContext key)
        value value' →
      Wraps ctx (.object (before ++ (key, value) :: after))
        (.object (before ++ (key, value') :: after))
  | item {ctx : Except Document.Error Context} {before after : List Json} {value value' : Json} :
      Wraps ctx value value' →
      Wraps ctx (.array (before ++ value :: after)) (.array (before ++ value' :: after))

/-- Two arrays or two objects. -/
inductive SameShape : Json → Json → Prop
  | array (xs ys : List Json) : SameShape (.array xs) (.array ys)
  | object (ms ns : Json.Members) : SameShape (.object ms) (.object ns)

theorem Wraps.sameShape {ctx : Except Document.Error Context} {x y : Json} (h : Wraps ctx x y) :
    SameShape x y := by
  cases h with
  | here => exact .object _ _
  | inside => exact .object _ _
  | item => exact .array _ _

theorem SameShape.string?_eq_none {x y : Json} (h : SameShape x y) :
    x.string? = none ∧ y.string? = none := by
  cases h <;> exact ⟨rfl, rfl⟩

/-- Types are told by strings, which stay as they are. -/
theorem Wraps.stringsOf_eq {ctx : Except Document.Error Context} {x y : Json}
    (h : Wraps ctx x y) : stringsOf x = stringsOf y := by
  cases h with
  | here => rfl
  | inside => rfl
  | item hwraps =>
    obtain ⟨hx, hy⟩ := hwraps.sameShape.string?_eq_none
    simp only [stringsOf, List.filterMap_append, List.filterMap_cons, hx, hy]

theorem stringsOf_singleton {value : Json} (h : value.items? = none) :
    stringsOf value = stringsOf (.array [value]) := by
  cases value with
  | array items => cases h
  | _ => rfl

/-! ## The context of a node -/

section Context

variable (before after : Json.Members) {key : String} (value value' : Json)

theorem find?_replace {k : String} (h : key ≠ k) :
    Dict.find? (before ++ (key, value) :: after) k =
      Dict.find? (before ++ (key, value') :: after) k := by
  induction before with
  | nil => rw [List.nil_append, List.nil_append, Dict.find?_cons_ne h, Dict.find?_cons_ne h]
  | cons m before ih =>
    obtain ⟨k', v⟩ := m
    rw [List.cons_append, List.cons_append, Dict.find?, Dict.find?, ih]

theorem objectContext_replace (h : key ≠ "@context") (c : Context) :
    objectContext c (before ++ (key, value) :: after) =
      objectContext c (before ++ (key, value') :: after) := by
  rw [objectContext, objectContext, find?_replace before after value value' h]

theorem isValueObject_replace (c : Context) :
    isValueObject c (before ++ (key, value) :: after) =
      isValueObject c (before ++ (key, value') :: after) := by
  simp only [isValueObject, List.any_append, List.any_cons]

/-- Only the strings of a value say which contexts types bring. -/
theorem typeContext_replace (h : stringsOf value = stringsOf value') (c : Context) :
    typeContext c (before ++ (key, value) :: after) =
      typeContext c (before ++ (key, value') :: after) := by
  rw [typeContext, typeContext, List.find?_append, List.find?_append]
  cases List.find? (fun m => keywordOf? c m.1 == some "@type") before with
  | some m => rfl
  | none =>
    rw [Option.none_or, Option.none_or, List.find?_cons, List.find?_cons]
    cases keywordOf? c key == some "@type" with
    | true => simp only [h]
    | false => rfl

end Context

/-- An object expands to what its entries make of it. -/
theorem agree_expandObject {ctx : Except Document.Error Context} {before after : Json.Members}
    {key : String} {value value' : Json} (hkey : key ≠ "@context")
    (hstrings : stringsOf value = stringsOf value')
    (hread : IsRead ctx (before ++ (key, value) :: after))
    (hentries : ∀ c, ctx >>= nodeContext (before ++ (key, value) :: after) = .ok c →
      Agree (fun ms ns => Alike (nodeOrNothing ms) (nodeOrNothing ns))
        (expandEntries c [] (before ++ (key, value) :: after))
        (expandEntries c [] (before ++ (key, value') :: after))) :
    Agree Alike
      (ctx >>= fun c => expandObject c (before ++ (key, value) :: after) fun c =>
        expandEntries c [] (before ++ (key, value) :: after))
      (ctx >>= fun c => expandObject c (before ++ (key, value') :: after) fun c =>
        expandEntries c [] (before ++ (key, value') :: after)) := by
  refine Agree.bind_same fun c hc => ?_
  subst hc
  rw [expandObject, expandObject, ← objectContext_replace before after value value' hkey]
  refine Agree.bind_same fun inner hinner => ?_
  have hnode := hread c inner rfl hinner
  rw [← isValueObject_replace before after value value', hnode, if_neg Bool.false_ne_true,
    if_neg Bool.false_ne_true, ← typeContext_replace before after value value' hstrings]
  refine Agree.bind_same fun active hactive => ?_
  have hcontext : Except.ok c >>= nodeContext (before ++ (key, value) :: after) = .ok active := by
    rw [ok_bind, nodeContext, hinner]
    exact hactive
  exact (hentries active hcontext).bind fun _ _ halike => .ok halike

/-! ## Entries after a difference -/

section Entries

variable {c : Context}

/-- A relation that is kept when two nodes receive the same is kept by all further entries. -/
theorem agree_expandEntries {R : Json.Members → Json.Members → Prop}
    (hR : ∀ told ms ns, R ms ns → R (receive ms told) (receive ns told)) {ms ns : Json.Members}
    (h : R ms ns) (entries : Json.Members) :
    Agree R (expandEntries c ms entries) (expandEntries c ns entries) := by
  induction entries generalizing ms ns with
  | nil =>
    rw [expandEntries, expandEntries]
    exact .ok h
  | cons m entries ih =>
    rw [expandEntries_cons, expandEntries_cons]
    refine Agree.bind_same fun told _ => ih ?_
    cases told with
    | none => exact h
    | some told => exact hR told ms ns h

/-- Two nodes of which the second may have a property without values besides. -/
def Padded (iri : String) (ms ns : Json.Members) : Prop :=
  ns = ms ∨ Dict.find? ms iri = none ∧ ns = ms.insert iri (.array [])

theorem Padded.receive {iri : String} (hiri : isKeyword iri = false) {ms ns : Json.Members}
    (told : String × Json) (h : Padded iri ms ns) :
    Padded iri (receive ms told) (receive ns told) := by
  obtain ⟨key, value⟩ := told
  rcases h with rfl | ⟨hnew, rfl⟩
  · exact Or.inl rfl
  cases hkey : isKeyword key with
  | true =>
    have hne := ne_of_isKeyword hkey hiri
    rw [receive_keyword hkey, receive_keyword hkey]
    refine Or.inr ⟨?_, Dict.insert_comm hne _ _ _⟩
    rw [Dict.find?_insert, if_neg hne, hnew]
  | false =>
    rw [receive_property hkey, receive_property hkey]
    by_cases hnull : value = .null
    · subst hnull
      exact Or.inr ⟨hnew, rfl⟩
    · rw [addProperty_of_ne_null hnull, addProperty_of_ne_null hnull, addItems_eq, addItems_eq]
      by_cases hne : key = iri
      · -- The property gets its values, and that it had none before is forgotten.
        subst hne
        rw [Dict.find?_insert, if_pos rfl, hnew, Dict.insert_insert]
        exact Or.inl rfl
      · rw [Dict.find?_insert, if_neg (Ne.symm hne), Dict.insert_comm hne]
        refine Or.inr ⟨?_, rfl⟩
        rw [Dict.find?_insert, if_neg hne, hnew]

theorem Alike.eq_null_iff {x y : Json} (h : Alike x y) : x = .null ↔ y = .null := by
  cases h with
  | refl => exact Iff.rfl
  | _ => exact ⟨nofun, nofun⟩

theorem earlierItems_alike {x y : Option Json} (h : Option.Rel Alike x y) :
    List.Forall₂ Interchangeable (earlierItems x) (earlierItems y) := by
  cases h with
  | none => exact .nil
  | some hvalue =>
    cases hvalue with
    | refl => exact List.forall₂_same.mpr fun i _ => .refl i
    | object => exact .nil
    | array hitems => exact hitems

/-- Nodes that are alike stay so when they receive what is alike. -/
theorem AlikeEntries.receive {ms ns : Json.Members} (h : AlikeEntries ms ns)
    {m n : String × Json} (htold : AlikeEntry m n) :
    AlikeEntries (JsonLd.receive ms m) (JsonLd.receive ns n) := by
  obtain ⟨key, x⟩ := m
  obtain ⟨key', y⟩ := n
  obtain rfl : key' = key := htold.key_eq
  cases hkey : isKeyword key' with
  | true =>
    rw [receive_keyword hkey, receive_keyword hkey]
    exact h.insert htold
  | false =>
    rw [receive_property hkey, receive_property hkey]
    by_cases hnull : x = .null
    · obtain rfl : y = .null := htold.value.eq_null_iff.mp hnull
      rw [hnull]
      exact h
    · have hnull' : y ≠ .null := fun hy => hnull (htold.value.eq_null_iff.mpr hy)
      rw [addProperty_of_ne_null hnull, addProperty_of_ne_null hnull', addItems_eq, addItems_eq]
      have hitems := List.rel_append (earlierItems_alike (h.find? key')) htold.value.itemsOf
      exact h.insert (.changed (not_mem_plainKeywords hkey) (.array hitems))

end Entries

/-! ## The entry that differs -/

section Contribution

variable {c : Context} {key : String} {value value' : Json}

/-- Expanding an array of one value is expanding the value. -/
theorem expandValue_singleton (r : Reading) (value : Json) :
    expandValue r (.array [value]) =
      expandValue r value >>= fun expanded => pure (.array (itemsOf expanded)) := by
  simp only [expandValue, expandValues, bind_assoc, ok_bind, pure_bind, List.append_nil]

/-- Lists of values that are alike are alike. -/
theorem alike_listed (x y : Json) (h : Alike x y) :
    Agree Alike (pure (.array [.object [("@list", x)]]))
      (pure (.array [.object [("@list", y)]])) := by
  have hentries : AlikeEntries [("@list", x)] [("@list", y)] :=
    .cons (.changed (by decide) h) .nil
  exact .ok (.array (.cons hentries.readAlike.interchangeable .nil))

section Property

variable (hkey : keywordOf? c key = none)

include hkey

/-- Where the values of a key are no list and no map from languages, an array of one value expands
to what the value expands to. -/
theorem expandProperty_singleton
    (hlanguage : (c.term? key).bind (·.container) = some .language → value.members? = none)
    (hlist : (c.term? key).bind (·.container) ≠ some .list) :
    (expandProperty c key (.array [value]) fun r => expandValue r (.array [value])) =
      (expandProperty c key value fun r => expandValue r value) >>= fun expanded =>
        pure (.array (itemsOf expanded)) := by
  rw [expandProperty_plain hkey (fun _ => rfl) (fun h => absurd h hlist),
    expandProperty_plain hkey hlanguage (fun h => absurd h hlist), bind_assoc]
  exact congrArg _ (funext fun context => expandValue_singleton _ value)

/-- Values that agree in the context of a key agree as values of the key. -/
theorem agree_expandProperty (hshape : SameShape value value')
    (hlanguage : (c.term? key).bind (·.container) = some .language → value.members? = none)
    (h : ∀ type (language : Context → Option String), Agree Alike
      (valueContext key c >>= fun c => expandValue ⟨type, language c, c⟩ value)
      (valueContext key c >>= fun c => expandValue ⟨type, language c, c⟩ value')) :
    Agree Alike (expandProperty c key value fun r => expandValue r value)
      (expandProperty c key value' fun r => expandValue r value') := by
  rw [expandProperty_eq hkey, expandProperty_eq hkey]
  have hplain := h ((c.term? key).bind (·.type)) fun context =>
    ((c.term? key).bind (·.language)).or context.language
  have hlisted := (h ((c.term? key).bind (·.type)) fun _ => none).bind alike_listed
  rw [bind_assoc, bind_assoc] at hlisted
  generalize (c.term? key).bind (·.container) = container at hlanguage
  cases container with
  | none => exact hplain
  | some container =>
    cases container with
    | set => exact hplain
    | graph => exact hplain
    | list =>
      cases hshape with
      | array => exact hlisted
      | object => exact hplain
    | language =>
      cases hshape with
      | array => exact hplain
      | object => cases hlanguage rfl

end Property

end Contribution

/-! ## Documents -/

theorem contribution_unmapped {c : Context} {key : String} (hproperty : keywordOf? c key = none)
    (hiri : propertyIri? c key = none) (value : Json) : contribution c (key, value) = .ok none := by
  simp only [contribution, if_neg (ne_context_of_keywordOf? hproperty (by decide)), hproperty, hiri]
  rfl

/-- An entry whose value holds nodes contributes what they expand to. -/
theorem agree_contribution {c : Context} {key : String} {value value' : Json}
    (hshape : SameShape value value') (hholds : HoldsNodes c key value)
    (helement : Agree Alike (valueContext key c >>= fun c => expandElement c value)
      (valueContext key c >>= fun c => expandElement c value'))
    (hvalue : ∀ type (language : Context → Option String), Agree Alike
      (valueContext key c >>= fun c => expandValue ⟨type, language c, c⟩ value)
      (valueContext key c >>= fun c => expandValue ⟨type, language c, c⟩ value')) :
    Agree (Option.Rel AlikeEntry) (contribution c (key, value)) (contribution c (key, value')) := by
  rcases hholds with hgraph | hlist | ⟨hproperty, hlanguage⟩
  · rw [valueContext_keyword hgraph, ok_bind, ok_bind] at helement
    rw [contribution_graph hgraph, contribution_graph hgraph]
    exact helement.bind fun x y hxy => .ok (.some (.changed (by decide) (.array hxy.itemsOf)))
  · have hitems := hvalue none fun _ => none
    rw [valueContext_keyword hlist, ok_bind, ok_bind] at hitems
    rw [contribution_list hlist, contribution_list hlist]
    exact hitems.bind fun x y hxy => .ok (.some (.changed (by decide) hxy))
  · cases hiri : propertyIri? c key with
    | none =>
      rw [contribution_unmapped hproperty hiri, contribution_unmapped hproperty hiri]
      exact .ok .none
    | some iri =>
      have hkeyword := (propertyIri?_eq_some_iff.mp hiri).2.1
      rw [contribution_property hproperty hiri, contribution_property hproperty hiri]
      exact (agree_expandProperty hproperty hshape hlanguage hvalue).bind fun x y hxy =>
        .ok (.some (.changed (not_mem_plainKeywords hkeyword) hxy))

/-- Entries that agree make nodes that are alike. -/
theorem alike_nodeOrNothing {ms ns : Json.Members} (h : AlikeEntries ms ns) :
    Alike (nodeOrNothing ms) (nodeOrNothing ns) := by
  cases h with
  | nil => exact .refl _
  | cons hfirst hrest => exact .object (AlikeEntries.readAlike (.cons hfirst hrest)).interchangeable

/-- A node of which one entry contributes what agrees. -/
theorem agree_expandEntries_inside {c : Context} {before after : Json.Members} {key : String}
    {value value' : Json}
    (h : Agree (Option.Rel AlikeEntry) (contribution c (key, value))
      (contribution c (key, value'))) :
    Agree (fun ms ns => Alike (nodeOrNothing ms) (nodeOrNothing ns))
      (expandEntries c [] (before ++ (key, value) :: after))
      (expandEntries c [] (before ++ (key, value') :: after)) := by
  rw [expandEntries_append, expandEntries_append]
  refine Agree.bind_same fun ms _ => ?_
  rw [expandEntries_cons, expandEntries_cons]
  refine h.bind fun told told' htold => ?_
  have hnext : AlikeEntries (told.elim ms (receive ms)) (told'.elim ms (receive ms)) := by
    cases htold with
    | none => exact .refl ms
    | some hentry => exact (AlikeEntries.refl ms).receive hentry
  refine (agree_expandEntries ?_ hnext after).mono fun _ _ _ => alike_nodeOrNothing
  exact fun told _ _ halike => halike.receive (.same told)

theorem Padded.alike {iri : String} (hiri : isKeyword iri = false) {ms ns : Json.Members}
    (h : Padded iri ms ns) (hms : ms ≠ []) : Alike (nodeOrNothing ms) (nodeOrNothing ns) := by
  rcases h with rfl | ⟨hnew, rfl⟩
  · exact .refl _
  · have hns := Dict.insert_ne_nil iri (.array []) ms
    rw [nodeOrNothing, nodeOrNothing, if_neg (mt List.isEmpty_iff.mp hms),
      if_neg (mt List.isEmpty_iff.mp hns)]
    exact .object (interchangeable_padded hiri hnew)

/-- Adding no values to a property of a node at most makes the property. -/
theorem padded_receive_nil {c : Context} {entries ms : Json.Members} {iri : String}
    (hiri : isKeyword iri = false) (h : expandEntries c [] entries = .ok ms) :
    Padded iri ms (receive ms (iri, .array [])) := by
  have hnormal := isNormal_invariant.holds_expandEntries c Dict.holds_nil entries h
  have hreceive : receive ms (iri, .array []) = addItems ms iri [] := receive_property hiri _ _
  rw [hreceive, addItems_eq, List.append_nil]
  cases hfind : Dict.find? ms iri with
  | none => exact Or.inr ⟨hfind, rfl⟩
  | some value =>
    obtain ⟨items, rfl, -⟩ :=
      (hnormal.entries _ (Dict.mem_of_find?_eq_some hfind)).property_array hiri
    exact Or.inl (hnormal.ordered.insert_of_find? hfind)

/-- A property without values makes no difference to a node of which something else is told. -/
theorem agree_expandEntries_padded {c : Context} {before after : Json.Members} {iri : String}
    (hiri : isKeyword iri = false)
    (h : (expandEntries c [] before >>= fun ms => expandEntries c ms after) ≠ .ok []) :
    Agree (fun ms ns => Alike (nodeOrNothing ms) (nodeOrNothing ns))
      (expandEntries c [] before >>= fun ms => expandEntries c ms after)
      (expandEntries c [] before >>= fun ms =>
        expandEntries c (receive ms (iri, .array [])) after) := by
  refine Agree.bind_same fun ms hms => ?_
  rw [hms, ok_bind] at h
  have hpadded : Agree (Padded iri) (expandEntries c ms after) _ :=
    agree_expandEntries (fun told _ _ => Padded.receive hiri told) (padded_receive_nil hiri hms)
      after
  refine hpadded.mono fun ms' ns' hms' halike => halike.alike hiri ?_
  rintro rfl
  exact h hms'

theorem receive_array_itemsOf {iri : String} (hiri : isKeyword iri = false) {value : Json}
    (hvalue : value ≠ .null) (ms : Json.Members) :
    receive ms (iri, .array (itemsOf value)) = receive ms (iri, value) := by
  rw [receive_property hiri, receive_property hiri, addProperty_of_ne_null hvalue]
  rfl

/-- A node of which one entry has an array in place of its value. -/
theorem agree_expandEntries_here {c : Context} {before after : Json.Members} {key : String}
    {value : Json} (h : ReadsAsArray c before key value after) :
    Agree (fun ms ns => Alike (nodeOrNothing ms) (nodeOrNothing ns))
      (expandEntries c [] (before ++ (key, value) :: after))
      (expandEntries c [] (before ++ (key, .array [value]) :: after)) := by
  rw [expandEntries_append, expandEntries_append]
  simp only [expandEntries_cons]
  cases hiri : propertyIri? c key with
  | none =>
    simp only [contribution_unmapped h.property hiri]
    exact Agree.refl (fun _ => .refl _) _
  | some iri =>
    have hkeyword := (propertyIri?_eq_some_iff.mp hiri).2.1
    have hcontribution := contribution_property h.property hiri
    have htold := h.told
    rw [hcontribution, expandEntries_append] at htold
    rw [hcontribution, hcontribution, expandProperty_singleton h.property h.language h.list]
    generalize (expandProperty c key value fun r => expandValue r value) = result at htold ⊢
    cases result with
    | error e => exact Agree.bind_same fun ms _ => .error e
    | ok expanded =>
      simp only [ok_bind, pure_bind, Option.elim_some] at htold ⊢
      by_cases hnull : expanded = .null
      · -- The value leaves no property, and the array one without values.
        subst hnull
        have hrest := htold.resolve_left fun h => h iri rfl
        have hnothing (ms : Json.Members) : receive ms (iri, .null) = ms :=
          receive_property hkeyword ms .null
        simp only [hnothing]
        exact agree_expandEntries_padded hkeyword hrest
      · simp only [receive_array_itemsOf hkeyword hnull]
        exact Agree.refl (fun _ => .refl _) _

/-! ### Values in a document -/

/-- Arrays of values agree if the one value does in which they differ. -/
theorem agree_mapM {α β : Type} {R : β → β → Prop} (hR : ∀ b, R b b)
    {f : α → Except Document.Error β} {before after : List α} {x y : α}
    (h : Agree R (f x) (f y)) :
    Agree (List.Forall₂ R) ((before ++ x :: after).mapM f) ((before ++ y :: after).mapM f) := by
  have hsame (bs : List β) : List.Forall₂ R bs bs := List.forall₂_same.mpr fun b _ => hR b
  simp only [List.mapM_append, List.mapM_cons, bind_assoc, pure_bind]
  refine Agree.bind_same fun bs _ => h.bind fun b b' hb => ?_
  refine Agree.bind_same fun bs' _ => .ok ?_
  exact List.rel_append (hsame bs) (.cons hb (hsame bs'))

/-- Values that agree add items that are interchangeable. -/
theorem agree_array {xs ys : Except Document.Error (List Json)}
    (h : Agree (List.Forall₂ Alike) xs ys) :
    Agree Alike (xs >>= fun results => pure (.array (results.flatMap itemsOf)))
      (ys >>= fun results => pure (.array (results.flatMap itemsOf))) :=
  h.bind fun _ _ hresults => .ok (.array (List.rel_flatMap hresults fun _ _ hxy => hxy.itemsOf))

/-- What two documents that differ in one place expand to, as an element and as a value. -/
theorem Wraps.agree {ctx : Except Document.Error Context} {d d' : Json} (h : Wraps ctx d d') :
    Agree Alike (ctx >>= fun c => expandElement c d) (ctx >>= fun c => expandElement c d') ∧
      ∀ type (language : Context → Option String),
        Agree Alike (ctx >>= fun c => expandValue ⟨type, language c, c⟩ d)
          (ctx >>= fun c => expandValue ⟨type, language c, c⟩ d') := by
  induction h with
  | here hkey hvalue hread hentry =>
    simp only [expandElement, expandValue]
    have hobject := agree_expandObject hkey (stringsOf_singleton hvalue) hread fun c hc =>
      agree_expandEntries_here (hentry c hc)
    exact ⟨hobject, fun _ _ => hobject⟩
  | inside hkey hread hholds hwraps ih =>
    simp only [expandElement, expandValue]
    obtain ⟨helement, hvalue⟩ := ih
    have hobject := agree_expandObject hkey hwraps.stringsOf_eq hread fun c hc => by
      rw [hc, ok_bind] at helement
      simp only [hc, ok_bind] at hvalue
      exact agree_expandEntries_inside
        (agree_contribution hwraps.sameShape (hholds c hc) helement hvalue)
    exact ⟨hobject, fun _ _ => hobject⟩
  | item hwraps ih =>
    obtain ⟨helement, hvalue⟩ := ih
    refine ⟨Agree.bind_same fun c hc => ?_, fun type language => Agree.bind_same fun c hc => ?_⟩
    · subst hc
      simp only [expandElement, expandElements_eq, bind_assoc, pure_bind]
      exact agree_array (agree_mapM Alike.refl helement)
    · subst hc
      simp only [expandValue, expandValues_eq, bind_assoc, pure_bind]
      exact agree_array (agree_mapM Alike.refl (hvalue type language))

/-- **A single value and an array of it.** Documents that differ in one such place, at any depth,
have the same quads, or fail with the same error. -/
theorem quadsOf_eq_of_wraps {base : Option String} {d d' : Json}
    (h : Wraps (.ok (.ofBase base)) d d') : quadsOf base [d] = quadsOf base [d'] := by
  have hconvert : convertDocument base d = convertDocument base d' := by
    have hagree := h.agree.1
    rw [ok_bind, ok_bind] at hagree
    rw [convertDocument, convertDocument, expand, expand]
    generalize expandElement (.ofBase base) d = result at hagree ⊢
    generalize expandElement (.ofBase base) d' = result' at hagree ⊢
    cases hagree with
    | error e => rfl
    | ok halike =>
      simp only [ok_bind, pure, Except.pure, Converter.convert, topLevels_congr halike.itemsOf]
  simp only [quadsOf, convertDocuments, hconvert]

/-- A graph with an event, whose type brings the term for its day. -/
def eventGraph (day : Json) : Json :=
  .object [
    ("@context", .object [("Event", .object [("@context", .object [("on", .object
      [("@id", .string "http://a.b/on"), ("@type", .string "http://a.b/Day")])]),
        ("@id", .string "http://a.b/Event")])]),
    ("@graph", .array [.object [("@type", .string "Event"), ("on", day)]])]

theorem quadsOf_eq_of_wraps_eventGraph :
    Wraps (.ok (.ofBase none)) (eventGraph (.string "monday"))
        (eventGraph (.array [.string "monday"])) ∧
      quadsOf none [eventGraph (.string "monday")] =
        quadsOf none [eventGraph (.array [.string "monday"])] := by
  have hwraps : Wraps (.ok (.ofBase none)) (eventGraph (.string "monday"))
      (eventGraph (.array [.string "monday"])) := by
    refine @Wraps.inside _ [_] [] _ _ _ (by decide) ?_ ?_ (@Wraps.item _ [] [] _ _
      (@Wraps.here _ [_] [] _ _ (by decide) rfl ?_ ?_))
    · rintro c inner hc hinner
      cases hc
      cases hinner
      rfl
    · intro c hc
      exact Or.inl rfl
    · rintro c inner hc hinner
      cases hc
      cases hinner
      rfl
    · intro c hc
      cases hc
      exact ⟨rfl, nofun, nofun, Or.inl fun iri => nofun⟩
  exact ⟨hwraps, quadsOf_eq_of_wraps hwraps⟩

/-- The term for steps holds lists. -/
def recipe (steps : Json) : Json :=
  .object [
    ("@context", .object [("steps", .object
      [("@container", .string "@list"), ("@id", .string "http://a.b/steps")])]),
    ("steps", steps)]

/-- A single value of a term that holds lists is no list, while an array of it is one. -/
theorem quadsOf_recipe_differ :
    quadsOf none [recipe (.string "stir")] = .ok [⟨.blank "b0", "http://a.b/steps",
      .literal (.typed "stir" Rdf.xsdString), none⟩] ∧
    quadsOf none [recipe (.array [.string "stir"])] = .ok [
      ⟨.blank "b1", Rdf.rdfFirst, .literal (.typed "stir" Rdf.xsdString), none⟩,
      ⟨.blank "b1", Rdf.rdfRest, .node (.iri Rdf.rdfNil), none⟩,
      ⟨.blank "b0", "http://a.b/steps", .node (.blank "b1"), none⟩] :=
  ⟨rfl, rfl⟩

/-- Someone with a friend of whom nothing else is told. -/
def friendOf (name : Json) : Json :=
  .object [("http://a.b/friend", .object [("http://a.b/name", name)])]

example : quadsOf none [friendOf .null] = .ok [] := rfl

example : quadsOf none [friendOf (.array [.null])] =
    .ok [⟨.blank "b0", "http://a.b/friend", .node (.blank "b1"), none⟩] := rfl

end LinkedData.JsonLd
