import LinkedData.JsonLd.Document
import LinkedData.Proofs.JsonLd.Bare

/-!
# LinkedData.Proofs.JsonLd.Idempotence -- expanding a document twice

What a document expands to is in normal form, and all its properties have the shape that a
property needs. So it is its own expansion as soon as its keys begin with a scheme: the only
names that expansion may produce and not recognise again are those without one, as a context is
free to define a term by any text.
-/

namespace LinkedData.JsonLd

/-- Every property is named by something that has the shape of a property. -/
theorem hasPropertyShape_invariant :
    ExpansionInvariant (fun item => ∀ key ∈ propertyKeys item, HasPropertyShape key)
      fun key value => (isKeyword key = false → HasPropertyShape key) ∧
        (key ∉ ["@value", "@language"] → ∀ k ∈ propertyKeys value, HasPropertyShape k) where
  value _ hentries _ _ := by
    refine forall_propertyKeys_object.mpr fun m hm => ⟨fun hkeyword => ?_, fun hdata => ?_⟩
    · exact absurd (hentries m hm).isKeyword (by simp [hkeyword])
    · obtain ⟨key, value⟩ := m
      cases hentries _ hm with
      | type => exact nofun
      | value => exact absurd (List.mem_cons_self ..) hdata
      | language => exact absurd (List.mem_cons_of_mem _ (List.mem_cons_self ..)) hdata
  node _ _ hentries := forall_propertyKeys_object.mpr hentries
  id id := ⟨fun h => absurd h (by decide), fun _ => nofun⟩
  types types := by
    refine ⟨fun h => absurd h (by decide), fun _ => forall_propertyKeys_array.mpr ?_⟩
    exact List.forall_mem_map.mpr fun _ _ => nofun
  graph hitems := ⟨fun h => absurd h (by decide), fun _ => forall_propertyKeys_array.mpr hitems⟩
  list {value} hitems := by
    refine ⟨fun h => absurd h (by decide), fun _ => ?_⟩
    cases value with
    | null => exact nofun
    | array items => exact forall_propertyKeys_array.mpr hitems
    | _ => exact hitems _ (List.mem_singleton_self _)
  property _ hshape hitems := ⟨fun _ => hshape, fun _ => forall_propertyKeys_array.mpr hitems⟩
  added {key _} hkeyword h := by
    have hdata : key ∉ ["@value", "@language"] := by
      intro hdata
      rcases List.mem_pair.mp hdata with rfl | rfl
      · exact absurd hkeyword (by decide)
      · exact absurd hkeyword (by decide)
    exact forall_propertyKeys_array.mp (h.2 hdata)

theorem hasPropertyShape_of_expand {document expanded : Json} {base : Option String}
    (h : expand document base = .ok expanded) :
    ∀ key ∈ propertyKeys expanded, HasPropertyShape key := by
  obtain ⟨items, rfl, hitems⟩ := hasPropertyShape_invariant.expand_eq_ok h
  exact forall_propertyKeys_array.mpr hitems

/-- Expansion is idempotent: if every property of what a document expands to is named by a text
that begins with a scheme, expanding again without a base changes nothing, and gives the quads of
the document. -/
theorem expand_idempotent {document expanded : Json} {base : Option String}
    (h : expand document base = .ok expanded)
    (hkeys : ∀ key ∈ propertyKeys expanded, BeginsWithScheme key) :
    expand expanded none = .ok expanded ∧
      quadsOf none [expanded] = quadsOf base [document] := by
  have hagain : expand expanded none = .ok expanded :=
    (expand_isNormal h).expand_eq fun key hkey =>
      isKey_of_scheme (hkeys key hkey) (hasPropertyShape_of_expand h key hkey)
  have hconvert : convertDocument none expanded = convertDocument base document := by
    rw [convertDocument, convertDocument, hagain, h]
  refine ⟨hagain, ?_⟩
  simp only [quadsOf, convertDocuments, hconvert]

/-- Two people who are described in a vocabulary with a prefix, an alias and a list. -/
def describedInTerms : Json :=
  .object
    [("@context", .object
        [("@vocab", .string "http://a.b/"), ("ex", .string "urn:x:"), ("id", .string "@id"),
          ("knows", .object [("@type", .string "@id")]),
          ("tags", .object [("@container", .string "@list")])]),
      ("ex:age", .number (.integer 36)), ("id", .string "ex:ada"), ("knows", .string "ex:bob"),
      ("tags", .array [.bool true, .string "x"])]

/-- The same in IRIs alone. -/
def describedInIris : Json :=
  .array [.object
    [("@id", .string "urn:x:ada"),
      ("http://a.b/knows", .array [.object [("@id", .string "urn:x:bob")]]),
      ("http://a.b/tags", .array
        [.object [("@list", .array
          [.object [("@value", .bool true)], .object [("@value", .string "x")]])]]),
      ("urn:x:age", .array [.object [("@value", .number (.integer 36))]])]]

theorem expand_describedInIris :
    expand describedInTerms (some "http://c.d/") = .ok describedInIris ∧
      (∀ key ∈ propertyKeys describedInIris, BeginsWithScheme key) ∧
        expand describedInIris none = .ok describedInIris ∧
          quadsOf none [describedInIris] = quadsOf (some "http://c.d/") [describedInTerms] := by
  have hexpand : expand describedInTerms (some "http://c.d/") = .ok describedInIris := rfl
  have hall : propertyKeys describedInIris =
      ["http://a.b/knows", "http://a.b/tags", "urn:x:age"] := rfl
  have hkeys : ∀ key ∈ propertyKeys describedInIris, BeginsWithScheme key := by
    intro key hkey
    simp only [hall, List.mem_cons, List.not_mem_nil, or_false] at hkey
    rcases hkey with rfl | rfl | rfl
    · exact ⟨"http".toList, "//a.b/knows".toList, by decide, by decide⟩
    · exact ⟨"http".toList, "//a.b/tags".toList, by decide, by decide⟩
    · exact ⟨"urn".toList, "x:age".toList, by decide, by decide⟩
  exact ⟨hexpand, hkeys, expand_idempotent hexpand hkeys⟩

/-- A key without a scheme is not recognised again. -/
example :
    expand (.object [("@context", .object [("p", .string "1://x")]), ("p", .bool true)]) none =
        .ok (.array [.object [("1://x", .array [.object [("@value", .bool true)]])]]) ∧
      expand (.array [.object [("1://x", .array [.object [("@value", .bool true)]])]]) none =
        .ok (.array []) :=
  ⟨rfl, rfl⟩

end LinkedData.JsonLd
