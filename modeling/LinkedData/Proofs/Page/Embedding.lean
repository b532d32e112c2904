import LinkedData.Page.Block
import LinkedData.Proofs.Page.Tag
import Mathlib.Data.List.Forall2

/-!
# LinkedData.Proofs.Page.Embedding -- the documents that are embedded in a page

A page is made of script tags that declare JSON-LD, each with a body and its end tag, and of
other text between them. Other text may hold anything but the first signs of a script tag, and
a body anything but the first signs of an end tag, so that a body may well hold another opening
tag. All bodies are read, each once and in order, and the first one that is no JSON is named by
its index.
-/

namespace LinkedData.Page

open LinkedData.Text

/-! ## The type of a script -/

/-- A text begins with the attribute that gives JSON-LD as the type; the value may stand in
quotes of either kind or in none. -/
def GivesType (cs : List Char) : Prop :=
  ∃ word gap gap' quote kind rest : List Char,
    cs = word ++ (gap ++ '=' :: (gap' ++ (quote ++ (kind ++ rest)))) ∧ Spells "type" word ∧
      (∀ c ∈ gap, isBlank c = true) ∧ (∀ c ∈ gap', isBlank c = true) ∧
      (quote = [] ∨ ∃ q, isQuote q = true ∧ quote = [q]) ∧ Spells "application/ld+json" kind

/-- The attributes of a tag include, after white space, the one that gives JSON-LD as the type. -/
def IncludesType (attributes : List Char) : Prop :=
  ∃ before blank rest, attributes = before ++ blank :: rest ∧ isBlank blank = true ∧ GivesType rest

theorem GivesType.isTypeAttribute_eq {cs : List Char} (h : GivesType cs) :
    isTypeAttribute cs = true := by
  obtain ⟨word, gap, gap', quote, kind, rest, rfl, hword, hgap, hgap', hquote, hkind⟩ := h
  obtain ⟨c, tail, rfl⟩ : ∃ c tail, kind = c :: tail := by
    apply List.exists_cons_of_ne_nil
    rintro rfl
    cases hkind
  have hc : fold c = 'a' := (List.cons.inj hkind).1
  have hblank : isBlank c = false := apart_of_fold fold_blank hc (by decide)
  have hplain : isQuote c = false := apart_of_fold fold_quote hc (by decide)
  have hvalue : StopsAt isBlank (quote ++ (c :: tail ++ rest)) := by
    rcases hquote with rfl | ⟨q, hq, rfl⟩
    · exact stopsAt_cons.mpr hblank
    · exact stopsAt_cons.mpr (isBlank_of_isQuote hq)
  have hread := attribute?_eq_some_iff.mpr ⟨word, gap, gap', rfl, hword, hgap, hgap', hvalue⟩
  have hdrop := hkind.dropWord?_append rest
  simp only [isTypeAttribute, hread]
  rcases hquote with rfl | ⟨q, hq, rfl⟩
  · simp only [List.nil_append, List.cons_append, hplain, Bool.false_eq_true, if_false] at hdrop ⊢
    rw [hdrop]
    rfl
  · simp only [List.cons_append, List.nil_append, hq, if_true] at hdrop ⊢
    rw [hdrop]
    rfl

theorem IncludesType.declaresJsonLd_eq {attributes : List Char} (h : IncludesType attributes) :
    declaresJsonLd attributes = true := by
  obtain ⟨before, blank, rest, rfl, hblank, hrest⟩ := h
  induction before with
  | nil => simp [declaresJsonLd, hblank, hrest.isTypeAttribute_eq]
  | cons c before ih => simp [declaresJsonLd, ih]

/-! ## Finding the blocks -/

/-- A script that declares JSON-LD, from its tag to its end tag. -/
structure Embedding where
  name : List Char
  attributes : List Char
  body : List Char
  endName : List Char
  endGap : List Char
  spells : Spells "script" name
  /-- The name of the tag ends before the attributes. -/
  apart : ∀ c ∈ attributes.head?, isWord c = false
  unclosed : '>' ∉ attributes
  includesType : IncludesType attributes
  lacksEnd : Lacks "</script" body
  endSpells : Spells "script" endName
  endBlank : ∀ c ∈ endGap, isBlank c = true

namespace Embedding

/-- The end tag. -/
def endTag (e : Embedding) : List Char :=
  '<' :: '/' :: (e.endName ++ (e.endGap ++ ['>']))

/-- The script as it stands in a page. -/
def text (e : Embedding) : List Char :=
  '<' :: (e.name ++ (e.attributes ++ '>' :: (e.body ++ e.endTag)))

theorem closing?_endTag (e : Embedding) (rest : List Char) :
    closing? (e.endTag ++ rest) = some rest := by
  have hend : Spells "</script" ('<' :: '/' :: e.endName) :=
    congrArg (fun cs => '<' :: '/' :: cs) e.endSpells
  have hdrop := hend.dropWord?_append (e.endGap ++ '>' :: rest)
  have htext : e.endTag ++ rest = '<' :: '/' :: e.endName ++ (e.endGap ++ '>' :: rest) := by
    simp [endTag]
  rw [closing?, htext, hdrop]
  simp only [dropWhile_run e.endBlank (stopsAt_cons.mpr (by decide : isBlank '>' = false))]

end Embedding

theorem exists_spells_of_closing? {cs after : List Char} (h : closing? cs = some after) :
    ∃ front rest, cs = front ++ rest ∧ Spells "</script" front := by
  unfold closing? at h
  split at h
  · cases h
  · rename_i rest hdrop
    obtain ⟨front, hcs, hfront⟩ := dropWord?_eq_some_iff.mp hdrop
    exact ⟨front, rest, hcs, hfront⟩

/-- A body goes on to the first end tag. -/
theorem body?_eq_of_lacks {body ending rest : List Char} (hlacks : Lacks "</script" body)
    (hending : closing? ending = some rest) (hfirst : ∀ c ∈ ending.head?, c = '<') :
    body? (body ++ ending) = some (body, rest) := by
  induction body with
  | nil =>
    cases ending with
    | nil => cases hending
    | cons c ending => rw [List.nil_append, body?, hending]
  | cons c body ih =>
    have hnone : closing? (c :: (body ++ ending)) = none := by
      rw [Option.eq_none_iff_forall_ne_some]
      intro after hafter
      obtain ⟨front, tail, htext, hfront⟩ := exists_spells_of_closing? hafter
      have hfold : ∀ d ∈ ending.head?, fold d = '<' := by
        intro d hd
        rw [hfirst d hd]
        rfl
      exact hlacks.not_spells (show _ = '<' :: "/script".toList from rfl) (by decide)
        (List.cons_ne_nil c body) hfold htext hfront
    rw [List.cons_append, body?, hnone, ih hlacks.tail]
    rfl

theorem Embedding.block?_text (e : Embedding) (rest : List Char) :
    block? (e.text ++ rest) = some (e.body, rest) := by
  have hopening : opening? "script".toList (e.text ++ rest) =
      some (e.attributes ++ '>' :: (e.body ++ (e.endTag ++ rest))) := by
    refine opening?_eq_some_iff.mpr ⟨e.name, by simp [text], e.spells, ?_⟩
    intro c hc
    cases hattributes : e.attributes with
    | nil =>
      rw [hattributes] at hc
      cases hc
      decide
    | cons d attributes =>
      rw [hattributes] at hc
      cases hc
      exact e.apart c (by simp [hattributes])
  have hbody := body?_eq_of_lacks e.lacksEnd (e.closing?_endTag rest) (by rintro c ⟨⟩; rfl)
  simp only [block?, hopening, inside_tag e.unclosed, beyond_tag e.unclosed,
    e.includesType.declaresJsonLd_eq, if_true, hbody]

theorem blocks_eq_cons {cs body rest : List Char} (h : block? cs = some (body, rest)) :
    blocks cs = body :: blocks rest := by
  rw [blocks]
  split
  · rename_i body' rest' h'
    rw [h] at h'
    cases h'
    rfl
  · rename_i h'
    rw [h] at h'
    cases h'

theorem blocks_skip {c : Char} {cs : List Char} (h : block? (c :: cs) = none) :
    blocks (c :: cs) = blocks cs := by
  rw [blocks]
  split
  · rename_i body rest h'
    rw [h] at h'
    cases h'
  · rfl

/-- A search passes over text that lacks script tags, up to the next tag. -/
theorem blocks_filler {filler rest : List Char} (hlacks : Lacks "<script" filler)
    (hrest : ∀ c ∈ rest.head?, c = '<') : blocks (filler ++ rest) = blocks rest := by
  induction filler with
  | nil => rfl
  | cons c filler ih =>
    have hopening : opening? "script".toList (c :: filler ++ rest) = none :=
      opening?_eq_none (show "<script".toList = _ from rfl) (by decide) hlacks
        (List.cons_ne_nil c filler) hrest
    have hblock : block? (c :: (filler ++ rest)) = none := by
      rw [List.cons_append] at hopening
      simp only [block?, hopening]
    rw [List.cons_append, blocks_skip hblock, ih hlacks.tail]

/-- Scripts, each followed by other text. -/
def sectionsText (sections : List (Embedding × List Char)) : List Char :=
  sections.flatMap fun s => s.1.text ++ s.2

theorem head?_sectionsText (sections : List (Embedding × List Char)) :
    ∀ c ∈ (sectionsText sections).head?, c = '<' := by
  cases sections with
  | nil => simp [sectionsText]
  | cons s sections =>
    rintro c ⟨⟩
    rfl

/-- The blocks of a page are the bodies of its scripts. -/
theorem blocks_sectionsText {sections : List (Embedding × List Char)}
    (h : ∀ s ∈ sections, Lacks "<script" s.2) :
    blocks (sectionsText sections) = sections.map fun s => s.1.body := by
  induction sections with
  | nil =>
    show blocks [] = []
    rw [blocks]
    rfl
  | cons s sections ih =>
    obtain ⟨hfiller, hsections⟩ := List.forall_mem_cons.mp h
    have htext : sectionsText (s :: sections) = s.1.text ++ (s.2 ++ sectionsText sections) := by
      simp [sectionsText]
    rw [htext, blocks_eq_cons (s.1.block?_text _),
      blocks_filler hfiller (head?_sectionsText sections), ih hsections]
    rfl

/-! ## Reading the blocks -/

/-- A text and what it marks as character data: what stands between a front and a tail of the
marks, each with or without comment signs, or the whole text when it lacks one of them. Comment
signs in front of the tail belong to it. -/
inductive Unwraps : List Char → List Char → Prop
  | wrapped {front tail : String} {content : List Char} :
      front = "//<![CDATA[" ∨ front = "<![CDATA[" →
      tail = "//]]>" ∨ (tail = "]]>" ∧ ¬ "//".toList <:+ content) →
      Unwraps (front.toList ++ (content ++ tail.toList)) (trim content)
  | bare {cs : List Char} :
      (∀ content, cs ≠ "//<![CDATA[".toList ++ (content ++ "]]>".toList)) →
      (∀ content, cs ≠ "<![CDATA[".toList ++ (content ++ "]]>".toList)) → Unwraps cs cs

theorem take_before (content : List Char) (tail : String) :
    (content ++ tail.toList).take ((content ++ tail.toList).length - tail.length) = content := by
  rw [List.length_append, String.length_toList, Nat.add_sub_cancel, List.take_left]

/-- The tail of the longer kind is taken before the one that is its end. -/
theorem dropTail?_append {tail : String} {content : List Char}
    (h : tail = "//]]>" ∨ (tail = "]]>" ∧ ¬ "//".toList <:+ content)) :
    dropTail? ["//]]>", "]]>"] (content ++ tail.toList) = some content := by
  have hsuffix : tail.toList <:+ content ++ tail.toList := List.suffix_append _ _
  rcases h with rfl | ⟨rfl, hsigns⟩
  · simp only [dropTail?, List.findSome?_cons, List.isSuffixOf_iff_suffix.mpr hsuffix, if_true,
      take_before]
  · have hlonger : ("//]]>".toList.isSuffixOf (content ++ "]]>".toList)) = false := by
      rw [Bool.eq_false_iff, ne_eq, List.isSuffixOf_iff_suffix]
      rintro ⟨front, hfront⟩
      apply hsigns
      have hcontent : (front ++ "//".toList) ++ "]]>".toList = content ++ "]]>".toList := by
        rw [← hfront]
        simp
      exact ⟨front, List.append_cancel_right hcontent⟩
    simp only [dropTail?, List.findSome?_cons, hlonger, Bool.false_eq_true, if_false,
      List.isSuffixOf_iff_suffix.mpr hsuffix, if_true, take_before]

theorem dropTail?_eq_none {cs : List Char} (h : ¬ "]]>".toList <:+ cs) :
    dropTail? ["//]]>", "]]>"] cs = none := by
  have hlonger : ¬ "//]]>".toList <:+ cs :=
    fun hsuffix => h (List.IsSuffix.trans ⟨"//".toList, rfl⟩ hsuffix)
  simp only [dropTail?, List.findSome?_cons, List.findSome?_nil,
    Bool.eq_false_iff.mpr (mt List.isSuffixOf_iff_suffix.mp h),
    Bool.eq_false_iff.mpr (mt List.isSuffixOf_iff_suffix.mp hlonger), Bool.false_eq_true, if_false]

theorem dropFront?_append {front : String} (h : front = "//<![CDATA[" ∨ front = "<![CDATA[")
    (rest : List Char) :
    dropFront? ["//<![CDATA[", "<![CDATA["] (front.toList ++ rest) = some rest := by
  rcases h with rfl | rfl
  · rfl
  · rfl

theorem dropFront?_eq_none {cs : List Char} (h : ¬ "//<![CDATA[".toList <+: cs)
    (h' : ¬ "<![CDATA[".toList <+: cs) :
    dropFront? ["//<![CDATA[", "<![CDATA["] cs = none := by
  simp only [dropFront?, List.findSome?_cons, List.findSome?_nil,
    Bool.eq_false_iff.mpr (mt List.isPrefixOf_iff_prefix.mp h),
    Bool.eq_false_iff.mpr (mt List.isPrefixOf_iff_prefix.mp h'), Bool.false_eq_true, if_false]

/-- Behind a front of either kind, character data ends with a tail of either kind, or there is
no tail and the text is bare. -/
theorem unwraps_behind {front : String} (h : front = "//<![CDATA[" ∨ front = "<![CDATA[")
    (rest : List Char) :
    Unwraps (front.toList ++ rest) (unwrapped (front.toList ++ rest)) := by
  have hunwrapped : unwrapped (front.toList ++ rest) =
      (dropTail? ["//]]>", "]]>"] rest).elim (front.toList ++ rest) trim := by
    simp only [unwrapped, dropFront?_append h]
    cases dropTail? ["//]]>", "]]>"] rest with
    | none => rfl
    | some content => rfl
  rw [hunwrapped]
  by_cases htail : "]]>".toList <:+ rest
  · obtain ⟨before, rfl⟩ := htail
    by_cases hsigns : "//".toList <:+ before
    · obtain ⟨content, rfl⟩ := hsigns
      have htail : "//]]>" = "//]]>" ∨ ("//]]>" = "]]>" ∧ ¬ "//".toList <:+ content) := Or.inl rfl
      have hread := dropTail?_append htail
      have hlonger : content ++ "//".toList ++ "]]>".toList = content ++ "//]]>".toList := by simp
      rw [hlonger, hread]
      exact .wrapped h htail
    · have htail : "]]>" = "//]]>" ∨ ("]]>" = "]]>" ∧ ¬ "//".toList <:+ before) :=
        Or.inr ⟨rfl, hsigns⟩
      rw [dropTail?_append htail]
      exact .wrapped h htail
  · rw [dropTail?_eq_none htail]
    have hends : ∀ (front' : String) (content : List Char),
        front' = "//<![CDATA[" ∨ front' = "<![CDATA[" →
          front.toList ++ rest ≠ front'.toList ++ (content ++ "]]>".toList) := by
      intro front' content h' heq
      have hread := dropFront?_append h rest
      rw [heq, dropFront?_append h'] at hread
      exact htail ⟨content, Option.some.inj hread⟩
    exact .bare (fun content => hends _ content (Or.inl rfl))
      (fun content => hends _ content (Or.inr rfl))

/-- Every text marks something as character data, perhaps itself. -/
theorem unwraps_unwrapped (cs : List Char) : Unwraps cs (unwrapped cs) := by
  by_cases hsigns : "//<![CDATA[".toList <+: cs
  · obtain ⟨rest, rfl⟩ := hsigns
    exact unwraps_behind (Or.inl rfl) rest
  · by_cases hplain : "<![CDATA[".toList <+: cs
    · obtain ⟨rest, rfl⟩ := hplain
      exact unwraps_behind (Or.inr rfl) rest
    · have hunwrapped : unwrapped cs = cs := by
        rw [unwrapped, dropFront?_eq_none hsigns hplain]
      rw [hunwrapped]
      refine .bare ?_ ?_
      · rintro content rfl
        exact hsigns ⟨_, rfl⟩
      · rintro content rfl
        exact hplain ⟨_, rfl⟩

/-- It marks nothing else. -/
theorem Unwraps.eq_unwrapped {cs content : List Char} (h : Unwraps cs content) :
    content = unwrapped cs := by
  cases h with
  | wrapped hfront htail => simp only [unwrapped, dropFront?_append hfront, dropTail?_append htail]
  | bare hsigns hplain =>
    have hunwraps := unwraps_unwrapped cs
    generalize unwrapped cs = marked at hunwraps
    cases hunwraps with
    | bare => rfl
    | @wrapped front tail content hfront htail =>
      have hending : ∃ before, content ++ tail.toList = before ++ "]]>".toList := by
        rcases htail with rfl | ⟨rfl, -⟩
        · exact ⟨content ++ "//".toList, by simp⟩
        · exact ⟨content, rfl⟩
      obtain ⟨before, hbefore⟩ := hending
      rw [hbefore] at hsigns hplain
      rcases hfront with rfl | rfl
      · exact absurd rfl (hsigns before)
      · exact absurd rfl (hplain before)

theorem readBlocks_eq_ok {index : Nat} {bodies : List (List Char)} {documents : List Json}
    (h : List.Forall₂ (fun body document =>
      Json.parse? (String.ofList (unwrapped (trim body))) = some document) bodies documents) :
    readBlocks index bodies = .ok documents := by
  induction h generalizing index with
  | nil => rfl
  | cons hdocument _ ih => rw [readBlocks, hdocument]; simp only [ih]

theorem readBlocks_eq_error {index : Nat} {before after : List (List Char)} {bad : List Char}
    (hbefore : ∀ body ∈ before,
      (Json.parse? (String.ofList (unwrapped (trim body)))).isSome = true)
    (hbad : Json.parse? (String.ofList (unwrapped (trim bad))) = none) :
    readBlocks index (before ++ bad :: after) =
      .error { stage := .page
               detail := "JSON-LD script block " ++ toString (index + before.length) ++
                 " is not valid JSON" } := by
  induction before generalizing index with
  | nil =>
    rw [List.nil_append, readBlocks, hbad]
    rfl
  | cons body before ih =>
    obtain ⟨hbody, hrest⟩ := List.forall_mem_cons.mp hbefore
    obtain ⟨document, hdocument⟩ := Option.isSome_iff_exists.mp hbody
    rw [List.cons_append, readBlocks, hdocument]
    simp only [ih hrest]
    rw [List.length_cons, Nat.add_assoc, Nat.add_comm 1]

/-! ## The documents of a page -/

theorem documents_eq {first : List Char} {sections : List (Embedding × List Char)}
    (hfirst : Lacks "<script" first) (hsections : ∀ s ∈ sections, Lacks "<script" s.2) :
    documents (String.ofList (first ++ sectionsText sections)) =
      readBlocks 0 (sections.map fun s => s.1.body) := by
  rw [documents, String.toList_ofList, blocks_filler hfirst (head?_sectionsText sections),
    blocks_sectionsText hsections]

/-- The documents of a page are read from the bodies of its scripts, each body once and in
order, less white space at the ends and the marks of character data. If one of them is no JSON,
the error names the index of the first of these. -/
theorem documents_of_embedded {first : List Char} {sections : List (Embedding × List Char)}
    (hfirst : Lacks "<script" first) (hsections : ∀ s ∈ sections, Lacks "<script" s.2) :
    ∃ contents : List (List Char),
      List.Forall₂ (fun s content => ∀ marked, Unwraps (trim s.1.body) marked ↔ marked = content)
        sections contents ∧
      (∀ results : List Json,
        List.Forall₂ (fun content document => Json.parse? (String.ofList content) = some document)
          contents results →
        documents (String.ofList (first ++ sectionsText sections)) = .ok results) ∧
      ∀ (before after : List (List Char)) (bad : List Char), contents = before ++ bad :: after →
        (∀ content ∈ before, (Json.parse? (String.ofList content)).isSome = true) →
        Json.parse? (String.ofList bad) = none →
        documents (String.ofList (first ++ sectionsText sections)) =
          .error { stage := .page
                   detail := "JSON-LD script block " ++ toString before.length ++
                     " is not valid JSON" } := by
  refine ⟨sections.map fun s => unwrapped (trim s.1.body), ?_, ?_, ?_⟩
  · rw [List.forall₂_map_right_iff, List.forall₂_same]
    intro s _ marked
    constructor
    · exact Unwraps.eq_unwrapped
    · rintro rfl
      exact unwraps_unwrapped _
  · intro results hresults
    rw [documents_eq hfirst hsections]
    apply readBlocks_eq_ok
    rw [List.forall₂_map_left_iff] at hresults ⊢
    exact hresults
  · intro before after bad hcontents hbefore hbad
    rw [documents_eq hfirst hsections]
    obtain ⟨good, rest, rfl, hgood, hrest⟩ := List.map_eq_append_iff.mp hcontents
    obtain ⟨s, others, rfl, hs, -⟩ := List.map_eq_cons_iff.mp hrest
    rw [List.map_append, List.map_cons, readBlocks_eq_error]
    · rw [Nat.zero_add, List.length_map, ← hgood, List.length_map]
    · intro body hbody
      obtain ⟨t, ht, rfl⟩ := List.mem_map.mp hbody
      exact hbefore _ (hgood ▸ List.mem_map_of_mem ht)
    · rw [hs]
      exact hbad

/-- A script with an attribute that mentions scripts, no quotes around its type, and another
opening tag in its body, which is marked as character data. -/
def mentioningScript : Embedding where
  name := "script".toList
  attributes := " src='<script' type=application/ld+json async".toList
  body := "\n      //<![CDATA[ [\"<script>\"] //]]> ".toList
  endName := "script".toList
  endGap := [' ']
  spells := by decide
  apart := by
    rintro c ⟨⟩
    decide
  unclosed := by decide
  includesType := ⟨" src='<script'".toList, ' ', "type=application/ld+json async".toList,
    by decide, by decide, "type".toList, [], [], [], "application/ld+json".toList,
    " async".toList, by decide, by decide, nofun, nofun, Or.inl rfl, by decide⟩
  lacksEnd := by decide +kernel
  endSpells := by decide
  endBlank := isBlank_space

/-- A script in capital letters, which is no JSON. -/
def loudScript : Embedding where
  name := "SCRIPT".toList
  attributes := " TYPE = \"Application/LD+JSON\"".toList
  body := ['[']
  endName := "Script".toList
  endGap := []
  spells := by decide
  apart := by
    rintro c ⟨⟩
    decide
  unclosed := by decide
  includesType := ⟨[], ' ', "TYPE = \"Application/LD+JSON\"".toList, by decide, by decide,
    "TYPE".toList, [' '], [' '], ['"'], "Application/LD+JSON".toList, ['"'], by decide, by decide,
    isBlank_space, isBlank_space, Or.inr ⟨'"', rfl, rfl⟩, by decide⟩
  lacksEnd := by decide
  endSpells := by decide
  endBlank := nofun

/-- The two scripts with other text around them. -/
theorem documents_of_embedded_twoScripts :
    let sections : List (Embedding × List Char) :=
      [(mentioningScript, " -\n      ".toList), (loudScript, "</p>".toList)]
    let page := "<p>></script><script src='<script' type=application/ld+json async>
      //<![CDATA[ [\"<script>\"] //]]> </script > -
      <SCRIPT TYPE = \"Application/LD+JSON\">[</Script></p>"
    Lacks "<script" "<p>></script>".toList ∧ (∀ s ∈ sections, Lacks "<script" s.2) ∧
      documents page =
        .error { stage := .page, detail := "JSON-LD script block 1 is not valid JSON" } := by
  intro sections page
  have hfirst : Lacks "<script" "<p>></script>".toList := by decide +kernel
  have hsections : ∀ s ∈ sections, Lacks "<script" s.2 := by decide +kernel
  have hpage : page.toList = "<p>></script>".toList ++ sectionsText sections := by
    decide +kernel
  refine ⟨hfirst, hsections, ?_⟩
  obtain ⟨contents, hcontents, -, herror⟩ := documents_of_embedded hfirst hsections
  obtain ⟨good, rest, hgood, hrest, rfl⟩ := List.forall₂_cons_left_iff.mp hcontents
  obtain ⟨bad, others, hbad, -, rfl⟩ := List.forall₂_cons_left_iff.mp hrest
  have hvalid : ∀ content ∈ [good], (Json.parse? (String.ofList content)).isSome = true := by
    rw [List.forall_mem_singleton, ← (hgood _).mp (unwraps_unwrapped _)]
    decide +kernel
  have hinvalid : Json.parse? (String.ofList bad) = none := by
    rw [← (hbad _).mp (unwraps_unwrapped _)]
    decide +kernel
  have hdetail : "JSON-LD script block " ++ toString 1 ++ " is not valid JSON" =
      "JSON-LD script block 1 is not valid JSON" := by decide
  rw [← hpage, String.ofList_toList] at herror
  rw [← hdetail]
  exact herror [good] others bad rfl hvalid hinvalid

end LinkedData.Page
