import LinkedData.Proofs.Dict.Ordered
import LinkedData.Proofs.JsonLd.Processing

/-!
# LinkedData.Proofs.JsonLd.Prefixes -- which compact IRIs of a context find their prefix

An object of definitions is taken in two passes, and within a pass a term is defined by what the
context knows at that moment: the terms it had before, and those of the pass with a smaller name.
A compact IRI of the second pass, in an object, therefore finds every prefix that the same object
defines by a string. A compact IRI of the first pass finds it only if the name of the prefix
stands before the name of the term. Otherwise the compact IRI is read as if the object did not
define the prefix: by an older definition of it, or else left as it is.
-/

namespace LinkedData.JsonLd

theorem toList_of_splitColon? {s : String} {space rest : List Char}
    (h : splitColon? s = some (space, rest)) : s.toList = space ++ ':' :: rest := by
  unfold splitColon? at h
  cases hdrop : s.toList.dropWhile (· != ':') with
  | nil =>
    rw [hdrop] at h
    cases h
  | cons c cs =>
    rw [hdrop] at h
    cases h
    have hcolon : c = ':' := by
      have hhead := List.head?_dropWhile_not (· != ':') s.toList
      rw [hdrop] at hhead
      simpa using hhead
    rw [hcolon] at hdrop
    rw [← hdrop, List.takeWhile_append_dropWhile]

namespace Context

/-! ## Reading a compact IRI -/

section Reading

variable {c c' : Context} {target space : String} {rest : List Char}

/-- A compact IRI is no keyword unless its prefix is one. -/
theorem isKeyword_of_splitColon? (hsplit : splitColon? target = some (space.toList, rest))
    (hspace : isKeyword space = false) : isKeyword target = false := by
  have htarget := toList_of_splitColon? hsplit
  unfold isKeyword at hspace ⊢
  rw [htarget]
  cases hcs : space.toList with
  | nil => rfl
  | cons first cs => simpa [hcs] using hspace

theorem iriOrSelf_of_isAbsoluteIri (c : Context) {iri : String} (h : isAbsoluteIri iri = true) :
    c.iriOrSelf iri = iri := by
  rw [iriOrSelf, expandIri, if_pos (by rw [h, Bool.or_true]), Option.getD_some]

/-- A compact IRI that is no term stands for what its prefix says. -/
theorem iriOrSelf_compact {d : TermDefinition}
    (hsplit : splitColon? target = some (space.toList, rest)) (hkeyword : isKeyword target = false)
    (habsolute : isAbsoluteIri target = false) (htarget : c.term? target = none)
    (hspace : c.term? space = some d) : c.iriOrSelf target = d.iri ++ String.ofList rest := by
  have hcompact : c.compact? target = some (d.iri ++ String.ofList rest) := by
    simp only [compact?, hsplit, Option.bind_eq_bind, Option.bind_some, String.ofList_toList,
      hspace, Option.pure_def]
  simp only [iriOrSelf, expandIri, hkeyword, habsolute, Bool.or_self, Bool.false_eq_true, if_false,
    htarget, hcompact, Option.getD_some]

/-- What a name stands for depends on three things of the context: the default vocabulary, the
name as a term, and its prefix. -/
theorem iriOrSelf_congr (hsplit : splitColon? target = some (space.toList, rest))
    (hvocab : c'.vocab = c.vocab) (htarget : c'.term? target = c.term? target)
    (hspace : c'.term? space = c.term? space) : c'.iriOrSelf target = c.iriOrSelf target := by
  have hcompact : c'.compact? target = c.compact? target := by
    simp only [compact?, hsplit, Option.bind_eq_bind, Option.bind_some, String.ofList_toList,
      hspace]
  simp only [iriOrSelf, expandIri, htarget, hcompact, hvocab]

/-- What a definition says that its term stands for. -/
def target? : Json → Option String
  | .string target => some target
  | .object members => (Dict.find? members "@id").bind Json.string?
  | _ => none

theorem iri_of_define {term : String} {value : Json} {d : TermDefinition}
    (h : c.define term value = .ok d) (htarget : target? value = some target) :
    d.iri = c.iriOrSelf target := by
  cases value with
  | string text =>
    cases htarget
    cases h
    rfl
  | object members =>
    cases h
    simp only [target?] at htarget
    simp only [htarget, Option.getD_some]
  | _ => cases htarget

end Reading

/-! ## Definitions one after another -/

section Definitions

variable {c c' : Context} {members : Json.Members}

theorem term?_insert (c : Context) (term t : String) (d : TermDefinition) :
    Context.term? { c with terms := c.terms.insert term d } t =
      if term = t then some d else c.term? t :=
  Dict.find?_insert c.terms term t d

/-- No term is forgotten. -/
theorem term?_eq_none_of_run (hrun : (defineTerms members).run c = .ok () c') {t : String}
    (h : c'.term? t = none) : c.term? t = none := by
  induction members generalizing c with
  | nil =>
    cases hrun
    exact h
  | cons m rest ih =>
    obtain ⟨d, _, hrest⟩ := run_defineTerms_cons_ok.mp hrun
    have hnone := ih hrest
    rw [term?_insert] at hnone
    split at hnone
    · cases hnone
    · exact hnone

/-- Other terms stay as they are. -/
theorem term?_of_run_ne (hrun : (defineTerms members).run c = .ok () c') {t : String}
    (h : ∀ m ∈ members, m.1 ≠ t) : c'.term? t = c.term? t := by
  induction members generalizing c with
  | nil =>
    cases hrun
    rfl
  | cons m rest ih =>
    obtain ⟨hne, hrest⟩ := List.forall_mem_cons.mp h
    obtain ⟨d, _, hrun⟩ := run_defineTerms_cons_ok.mp hrun
    rw [ih hrun hrest, term?_insert, if_neg hne]

/-- A context between two others, as definitions in the order of their names lead from one to the
other: it has the terms with a smaller name from the later one, and all others from the earlier. -/
structure Midway (c c' : Context) (term : String) (mid : Context) : Prop where
  vocab : mid.vocab = c.vocab
  terms (t : String) : mid.term? t = if t < term then c'.term? t else c.term? t

/-- Each term of an ordered list is defined in the context midway. -/
theorem exists_midway (hmembers : Dict.Ordered members)
    (hrun : (defineTerms members).run c = .ok () c') {term : String} {value : Json}
    (hfind : Dict.find? members term = some value) :
    ∃ mid d, Midway c c' term mid ∧ mid.define term value = .ok d ∧ c'.term? term = some d := by
  -- By induction on the definitions to come, for any context so far: those before the term move
  -- the earlier context on, and those after it have greater names.
  induction members generalizing c with
  | nil => cases hfind
  | cons m rest ih =>
    obtain ⟨key, v⟩ := m
    obtain ⟨hfirst, hrest⟩ := List.pairwise_cons.mp hmembers
    obtain ⟨d, hdefine, hrun⟩ := run_defineTerms_cons_ok.mp hrun
    have hstays {t : String} (ht : t ≤ key) :
        c'.term? t = Context.term? { c with terms := c.terms.insert key d } t :=
      term?_of_run_ne hrun fun e he => (lt_of_le_of_lt ht (hfirst e he)).ne'
    rw [Dict.find?] at hfind
    split at hfind
    · rename_i hkey
      subst hkey
      obtain rfl := Option.some.inj hfind
      refine ⟨c, d, ⟨rfl, fun t => ?_⟩, hdefine, ?_⟩
      · split
        · rename_i hlt
          rw [hstays hlt.le, term?_insert, if_neg hlt.ne']
        · rfl
      · rw [hstays le_rfl, term?_insert, if_pos rfl]
    · obtain ⟨mid, d', hmid, hdefine', hterm⟩ := ih hrest hrun hfind
      refine ⟨mid, d', ⟨hmid.vocab, fun t => ?_⟩, hdefine', hterm⟩
      rw [hmid.terms]
      split
      · rfl
      · rename_i hnlt
        have hlt : key < term := hfirst _ (Dict.mem_of_find?_eq_some hfind)
        have hne : key ≠ t := fun heq => hnlt (heq ▸ hlt)
        rw [term?_insert, if_neg hne]

end Definitions

/-! ## An object of definitions -/

/-- The terms that an object defines by values of a kind. -/
def termsWhere (members : Json.Members) (keep : Json → Bool) : Json.Members :=
  (members.filter fun m => !isKeyword m.1).filter fun m => keep m.2

section Object

variable {c c' : Context} {members : Json.Members} {term : String} {value : Json}
variable {keep : Json → Bool}

theorem ordered_termsWhere (hmembers : Dict.Ordered members) :
    Dict.Ordered (termsWhere members keep) :=
  (hmembers.filter _).filter _

theorem find?_termsWhere (hmembers : Dict.Ordered members)
    (hfind : Dict.find? members term = some value) (hterm : isKeyword term = false)
    (hvalue : keep value = true) : Dict.find? (termsWhere members keep) term = some value := by
  rw [(ordered_termsWhere hmembers).find?_eq_some_iff, termsWhere, List.mem_filter,
    List.mem_filter]
  exact ⟨⟨Dict.mem_of_find?_eq_some hfind, by simp [hterm]⟩, hvalue⟩

/-- A term that is defined by a value of another kind is not among them. -/
theorem ne_of_mem_termsWhere (hmembers : Dict.Ordered members)
    (hfind : Dict.find? members term = some value) (hvalue : keep value = false) :
    ∀ m ∈ termsWhere members keep, m.1 ≠ term := by
  rintro m hm rfl
  obtain ⟨hterm, hkeep⟩ := List.mem_filter.mp hm
  have hsame := hmembers.find?_eq_some_iff.mpr (List.mem_filter.mp hterm).1
  rw [hfind] at hsame
  rw [← Option.some.inj hsame, hvalue] at hkeep
  cases hkeep

/-- An object is taken in two passes after its settings: the terms that are defined by a string,
and then all others. -/
theorem extend_object_ok : c.extend (.object members) = .ok c' ↔
    ∃ c₁, (defineTerms (termsWhere members (·.string?.isSome))).run (c.takeSettings members) =
        .ok () c₁ ∧
      (defineTerms (termsWhere members (·.string?.isNone))).run c₁ = .ok () c' := by
  have hrun : (process (.object members)).run c =
      (defineTerms (termsWhere members (·.string?.isSome)) >>= fun _ =>
        defineTerms (termsWhere members (·.string?.isNone))).run (c.takeSettings members) := rfl
  rw [extend_ok, hrun, run_seq_ok]

/-- An entry of an object that defines a term by a compact IRI, whose prefix is another term of
the object with an absolute IRI. -/
structure DefinesCompact (members : Json.Members) (term : String) (value : Json)
    (target space : String) (rest : List Char) (iri : String) : Prop where
  entry : Dict.find? members term = some value
  isTerm : isKeyword term = false
  means : target? value = some target
  parts : splitColon? target = some (space.toList, rest)
  relative : isAbsoluteIri target = false
  other : space ≠ term
  spaceEntry : Dict.find? members space = some (.string iri)
  spaceIsTerm : isKeyword space = false
  absolute : isAbsoluteIri iri = true

section Compact

variable {target space iri : String} {rest : List Char}

theorem DefinesCompact.iriOrSelf (h : DefinesCompact members term value target space rest iri)
    {d : TermDefinition} (htarget : c.term? target = none) (hspace : c.term? space = some d) :
    c.iriOrSelf target = d.iri ++ String.ofList rest :=
  iriOrSelf_compact h.parts (isKeyword_of_splitColon? h.parts h.spaceIsTerm) h.relative htarget
    hspace

/-- The first pass defines the prefix, and the second leaves it. -/
theorem DefinesCompact.exists_space (h : DefinesCompact members term value target space rest iri)
    (hmembers : Dict.Ordered members) {c₀ c₁ : Context}
    (hstrings : (defineTerms (termsWhere members (·.string?.isSome))).run c₀ = .ok () c₁)
    (hothers : (defineTerms (termsWhere members (·.string?.isNone))).run c₁ = .ok () c') :
    ∃ d, d.iri = iri ∧ c₁.term? space = some d ∧ c'.term? space = some d := by
  obtain ⟨_, d, _, hdefine, hspace⟩ := exists_midway (ordered_termsWhere hmembers) hstrings
    (find?_termsWhere hmembers h.spaceEntry h.spaceIsTerm rfl)
  refine ⟨d, ?_, hspace, ?_⟩
  · rw [iri_of_define hdefine rfl, iriOrSelf_of_isAbsoluteIri _ h.absolute]
  · rw [term?_of_run_ne hothers (ne_of_mem_termsWhere hmembers h.spaceEntry rfl), hspace]

/-- **Compact IRIs and their prefixes.** A compact IRI that is no term itself stands for the IRI
of its prefix and its rest, if it is in an object or the name of the prefix comes first. A string
whose term comes before the prefix is read as the context reads it without the object's terms. -/
theorem iri_of_definesCompact (hmembers : Dict.Ordered members)
    (hextend : c.extend (.object members) = .ok c')
    (h : DefinesCompact members term value target space rest iri)
    (htarget : c'.term? target = none) :
    ∃ d, c'.term? term = some d ∧
      d.iri = if value.string? = none ∨ space < term then iri ++ String.ofList rest
        else (c.takeSettings members).iriOrSelf target := by
  obtain ⟨c₁, hstrings, hothers⟩ := extend_object_ok.mp hextend
  obtain ⟨spaceDefinition, rfl, hspace₁, hspace⟩ := h.exists_space hmembers hstrings hothers
  have htarget₁ : c₁.term? target = none := term?_eq_none_of_run hothers htarget
  have htarget₀ := term?_eq_none_of_run hstrings htarget₁
  cases hvalue : value.string? with
  | none =>
    obtain ⟨mid, d, hmid, hdefine, hterm⟩ := exists_midway (ordered_termsWhere hmembers) hothers
      (find?_termsWhere hmembers h.entry h.isTerm (by rw [hvalue, Option.isNone_none]))
    refine ⟨d, hterm, ?_⟩
    rw [if_pos (Or.inl rfl), iri_of_define hdefine h.means]
    exact h.iriOrSelf (by rw [hmid.terms, htarget, htarget₁, ite_self])
      (by rw [hmid.terms, hspace, hspace₁, ite_self])
  | some text =>
    obtain ⟨mid, d, hmid, hdefine, hterm⟩ := exists_midway (ordered_termsWhere hmembers) hstrings
      (find?_termsWhere hmembers h.entry h.isTerm (by rw [hvalue, Option.isSome_some]))
    have hleft : ∀ m ∈ termsWhere members (·.string?.isNone), m.1 ≠ term :=
      ne_of_mem_termsWhere hmembers h.entry (by rw [hvalue, Option.isNone_some])
    have hnone : mid.term? target = none := by rw [hmid.terms, htarget₁, htarget₀, ite_self]
    refine ⟨d, ?_, ?_⟩
    · rw [term?_of_run_ne hothers hleft, hterm]
    · rw [iri_of_define hdefine h.means]
      by_cases hlt : space < term
      · rw [if_pos (Or.inr hlt)]
        exact h.iriOrSelf hnone (by rw [hmid.terms, if_pos hlt, hspace₁])
      · rw [if_neg (not_or.mpr ⟨Option.some_ne_none _, hlt⟩)]
        exact iriOrSelf_congr h.parts hmid.vocab (hnone.trans htarget₀.symm)
          (by rw [hmid.terms, if_neg hlt])

end Compact

/-- A context that names a prefix between an object and a string that use it. -/
def addressTerms : Json.Members :=
  [("address", .object [("@id", .string "ex:address")]), ("ex", .string "http://example.org/ns#"),
    ("zip", .string "ex:zip")]

theorem iri_of_addressTerms : ∃ c', extend {} (.object addressTerms) = .ok c' ∧
    (∃ d, c'.term? "address" = some d ∧ d.iri = "http://example.org/ns#address") ∧
    ∃ d, c'.term? "zip" = some d ∧ d.iri = "http://example.org/ns#zip" := by
  have hordered : Dict.Ordered addressTerms := by
    unfold Dict.Ordered
    decide
  have haddress : DefinesCompact addressTerms "address"
      (.object [("@id", .string "ex:address")]) "ex:address" "ex" "address".toList
      "http://example.org/ns#" :=
    ⟨rfl, by decide, rfl, rfl, by decide, by decide, rfl, by decide, by decide⟩
  have hzip : DefinesCompact addressTerms "zip" (.string "ex:zip") "ex:zip" "ex" "zip".toList
      "http://example.org/ns#" :=
    ⟨rfl, by decide, rfl, rfl, by decide, by decide, rfl, by decide, by decide⟩
  refine ⟨_, rfl, ?_, ?_⟩
  · obtain ⟨d, hterm, hiri⟩ := iri_of_definesCompact (c := {}) hordered rfl haddress rfl
    exact ⟨d, hterm, hiri.trans (if_pos (Or.inl rfl))⟩
  · obtain ⟨d, hterm, hiri⟩ := iri_of_definesCompact (c := {}) hordered rfl hzip rfl
    exact ⟨d, hterm, hiri.trans (if_pos (Or.inr (by decide)))⟩

/-- A string whose term comes before the prefix keeps its compact IRI. -/
theorem iri_before_space : ∃ c',
    extend {} (.object [("a", .string "ex:foo"), ("ex", .string "http://example.org/")]) = .ok c' ∧
    DefinesCompact [("a", .string "ex:foo"), ("ex", .string "http://example.org/")] "a"
      (.string "ex:foo") "ex:foo" "ex" "foo".toList "http://example.org/" ∧
    c'.term? "ex:foo" = none ∧
    ¬ ∃ d, c'.term? "a" = some d ∧ d.iri = "http://example.org/" ++ String.ofList "foo".toList := by
  refine ⟨_, rfl, ⟨rfl, by decide, rfl, rfl, by decide, by decide, rfl, by decide, by decide⟩,
    rfl, ?_⟩
  rintro ⟨d, hterm, hiri⟩
  cases hterm
  exact absurd hiri (by decide)

end Object

end Context

end LinkedData.JsonLd
