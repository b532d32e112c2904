import LinkedData.JsonLd.Context

/-!
# LinkedData.Proofs.JsonLd.Processing -- what processing a context does to names

Names are read by the terms and the default vocabulary of a context, never by its base. So what
a context value makes of names does not depend on where the document was found, and a context
processed for a vocabulary reads names as the context of a document does. No processing defines a
keyword.
-/

namespace LinkedData.JsonLd.Context

/-- Two contexts that differ at most in the base, and define no keyword. -/
structure Alike (c c' : Context) : Prop where
  same : c' = { c with base := c'.base }
  names : ∀ {term : String} {d : TermDefinition}, c.term? term = some d → isKeyword term = false

section Alike

variable {c c' : Context}

theorem Alike.term? (h : Alike c c') (term : String) : c'.term? term = c.term? term := by
  rw [h.same]
  rfl

theorem Alike.define (h : Alike c c') (term : String) (value : Json) :
    c'.define term value = c.define term value := by
  rw [h.same]
  cases value <;> rfl

theorem alike_ofBase (base base' : Option String) : Alike (.ofBase base) (.ofBase base') :=
  ⟨rfl, nofun⟩

/-- A definition of a name is taken in alike. -/
theorem Alike.insert (h : Alike c c') {term : String} (hterm : isKeyword term = false)
    (d : TermDefinition) :
    Alike { c with terms := c.terms.insert term d }
      { c' with terms := c'.terms.insert term d } := by
  refine ⟨?_, fun {t} d' ht => ?_⟩
  · rw [h.same]
  · by_cases heq : term = t
    · exact heq ▸ hterm
    · have hfind : (c.terms.insert term d).find? t = some d' := ht
      rw [Dict.find?_insert, if_neg heq] at hfind
      exact h.names hfind

theorem Alike.takeSettings (h : Alike c c') (members : Json.Members) :
    Alike (c.takeSettings members) (c'.takeSettings members) := by
  obtain ⟨hsame, hnames⟩ := h
  rw [hsame]
  unfold Context.takeSettings
  cases Dict.find? members "@vocab" <;> cases Dict.find? members "@base" <;>
    cases Dict.find? members "@language" <;> exact ⟨rfl, hnames⟩

end Alike

/-! ## Updates -/

/-- Two updates succeed one after the other when the second does on what the first has made. -/
theorem run_seq_ok {u v : Update Unit} {c c₂ : Context} :
    (u >>= fun _ => v).run c = .ok () c₂ ↔ ∃ c₁, u.run c = .ok () c₁ ∧ v.run c₁ = .ok () c₂ := by
  rw [EStateM.run_bind]
  cases u.run c with
  | error e c₁ => simp
  | ok _ c₁ => simp

theorem run_defineTerms_cons_ok {c c' : Context} {term : String} {value : Json}
    {rest : Json.Members} :
    (defineTerms ((term, value) :: rest)).run c = .ok () c' ↔
      ∃ d, c.define term value = .ok d ∧
        (defineTerms rest).run { c with terms := c.terms.insert term d } = .ok () c' := by
  rw [defineTerms, EStateM.run_bind, EStateM.run_get]
  dsimp only
  cases c.define term value with
  | error e => exact ⟨nofun, nofun⟩
  | ok d => exact ⟨fun h => ⟨d, rfl, h⟩, fun ⟨_, hd, h⟩ => Except.ok.inj hd ▸ h⟩

theorem extend_ok {c c' : Context} {value : Json} :
    c.extend value = .ok c' ↔ (process value).run c = .ok () c' := by
  rw [extend]
  cases (process value).run c with
  | error e c₁ => simp
  | ok _ c₁ => simp

/-- An update that succeeds on a context succeeds on all that are alike, and leaves them alike. -/
structure Update.Uniform (u : Update Unit) : Prop where
  alike {c c' c₁ : Context} : Alike c c' → u.run c = .ok () c₁ →
    ∃ c₁', u.run c' = .ok () c₁' ∧ Alike c₁ c₁'

section Uniform

theorem uniform_modify {f : Context → Context}
    (hf : ∀ {c c' : Context}, Alike c c' → Alike (f c) (f c')) :
    Update.Uniform (modify f) := by
  constructor
  intro c c' c₁ h hrun
  cases hrun
  exact ⟨f c', rfl, hf h⟩

theorem uniform_throw (e : Document.Error) : Update.Uniform (throw e) := by
  constructor
  intro c c' c₁ _ hrun
  cases hrun

theorem Update.Uniform.seq {u v : Update Unit} (hu : u.Uniform) (hv : v.Uniform) :
    Update.Uniform (u >>= fun _ => v) := by
  constructor
  intro c c' c₂ h hrun
  obtain ⟨c₁, hfirst, hsecond⟩ := run_seq_ok.mp hrun
  obtain ⟨c₁', hfirst', h₁⟩ := hu.alike h hfirst
  obtain ⟨c₂', hsecond', h₂⟩ := hv.alike h₁ hsecond
  exact ⟨c₂', run_seq_ok.mpr ⟨c₁', hfirst', hsecond'⟩, h₂⟩

theorem uniform_defineTerms {members : Json.Members} (h : ∀ m ∈ members, isKeyword m.1 = false) :
    Update.Uniform (defineTerms members) := by
  induction members with
  | nil =>
    constructor
    intro c c' c₁ halike hrun
    cases hrun
    exact ⟨c', rfl, halike⟩
  | cons m rest ih =>
    obtain ⟨term, value⟩ := m
    obtain ⟨hterm, hrest⟩ := List.forall_mem_cons.mp h
    constructor
    intro c c' c₁ halike hrun
    obtain ⟨d, hdefine, hrun⟩ := run_defineTerms_cons_ok.mp hrun
    obtain ⟨c₁', hrun', h₁⟩ := (ih hrest).alike (halike.insert hterm d) hrun
    refine ⟨c₁', run_defineTerms_cons_ok.mpr ⟨d, ?_, hrun'⟩, h₁⟩
    rw [halike.define, hdefine]

theorem uniform_takeDefinitions (members : Json.Members) :
    Update.Uniform (takeDefinitions members) := by
  have hterms (keep : String × Json → Bool) :
      Update.Uniform (defineTerms ((members.filter fun m => !isKeyword m.1).filter keep)) := by
    apply uniform_defineTerms
    intro m hm
    have hkept := (List.mem_filter.mp (List.mem_filter.mp hm).1).2
    simpa using hkept
  exact (uniform_modify fun h => h.takeSettings members).seq ((hterms _).seq (hterms _))

mutual

theorem uniform_process : (value : Json) → Update.Uniform (process value)
  | .array items => by
    rw [process]
    exact uniform_processAll items
  | .string url => by
    rw [process]
    split
    · exact uniform_takeDefinitions _
    · exact uniform_throw _
  | .object members => by
    rw [process]
    exact uniform_takeDefinitions members
  | .null => by
    rw [process]
    exact uniform_modify fun _ => alike_ofBase _ _
  | .bool _ | .number _ => uniform_throw _
termination_by structural value => value

theorem uniform_processAll : (values : List Json) → Update.Uniform (processAll values)
  | [] => by
    rw [processAll]
    exact ⟨fun h hrun => ⟨_, rfl, by cases hrun; exact h⟩⟩
  | value :: rest => by
    rw [processAll]
    exact (uniform_process value).seq (uniform_processAll rest)
termination_by structural values => values

end

end Uniform

/-- A context value that can be processed makes the same of names wherever the document was found,
and defines no keyword. -/
theorem extend_ofBase {value : Json} {c : Context} (h : extend {} value = .ok c)
    (base : Option String) : ∃ c', extend (.ofBase base) value = .ok c' ∧ Alike c c' := by
  obtain ⟨c', hrun, halike⟩ :=
    (uniform_process value).alike (alike_ofBase none base) (extend_ok.mp h)
  exact ⟨c', extend_ok.mpr hrun, halike⟩

end LinkedData.JsonLd.Context
