import LinkedData.Document.Error
import LinkedData.Json.Reader
import LinkedData.Page.Tag

/-!
# LinkedData.Page.Block -- the JSON-LD blocks of a page

A block is the text between a `script` tag with the type `application/ld+json` and the first
end tag after it. Blocks are found from left to right, each search going on where the last
block ended. A block's text may be wrapped as character data.
-/

namespace LinkedData.Page

open LinkedData.Text

/-! ## Finding blocks -/

/-- Whether a text begins with a type attribute for JSON-LD, quoted or not. -/
def isTypeAttribute (cs : List Char) : Bool :=
  match attribute? "type".toList cs with
  | none => false
  | some value =>
    let bare := match value with
      | q :: rest => if isQuote q then rest else value
      | [] => []
    (dropWord? "application/ld+json".toList bare).isSome

/-- Whether the inside of a tag holds, after white space, a type attribute for JSON-LD. -/
def declaresJsonLd : List Char → Bool
  | [] => false
  | c :: cs => (isBlank c && isTypeAttribute cs) || declaresJsonLd cs

/-- What follows the end tag of a script. -/
def closing? (cs : List Char) : Option (List Char) :=
  match dropWord? "</script".toList cs with
  | none => none
  | some rest =>
    match rest.dropWhile isBlank with
    | '>' :: after => some after
    | _ => none

/-- The text before the first end tag, and what follows the end tag. -/
def body? : List Char → Option (List Char × List Char)
  | [] => none
  | c :: cs =>
    match closing? (c :: cs) with
    | some after => some ([], after)
    | none => (body? cs).map fun (body, after) => (c :: body, after)

/-- The block whose tag stands at the front of a text, and what follows the block. -/
def block? (cs : List Char) : Option (List Char × List Char) :=
  match opening? "script".toList cs with
  | none => none
  | some tag => if declaresJsonLd (inside tag) then body? (beyond tag) else none

theorem closing?_length {cs after : List Char} (h : closing? cs = some after) :
    after.length < cs.length := by
  unfold closing? at h
  split at h
  · cases h
  · rename_i rest hrest
    split at h
    · rename_i tail htail
      cases h
      have h₁ := dropWord?_length hrest
      have h₂ := (List.dropWhile_suffix (l := rest) isBlank).length_le
      rw [htail] at h₂
      simp only [List.length_cons] at h₂
      omega
    · cases h

theorem body?_length {cs body after : List Char} (h : body? cs = some (body, after)) :
    after.length < cs.length := by
  induction cs generalizing body with
  | nil => cases h
  | cons c cs ih =>
    unfold body? at h
    split at h
    · rename_i tail htail
      cases h
      exact closing?_length htail
    · cases hbody : body? cs with
      | none => simp [hbody] at h
      | some found =>
        obtain ⟨b, a⟩ := found
        simp only [hbody, Option.map_some, Option.some.injEq, Prod.mk.injEq] at h
        obtain ⟨_, rfl⟩ := h
        exact Nat.lt_succ_of_lt (ih hbody)

theorem block?_length {cs body after : List Char} (h : block? cs = some (body, after)) :
    after.length < cs.length := by
  unfold block? at h
  split at h
  · cases h
  · rename_i tag htag
    split at h
    · have h₁ := opening?_length htag
      have h₂ := beyond_length tag
      have h₃ := body?_length h
      omega
    · cases h

/-- The texts of all blocks, in order. -/
def blocks (cs : List Char) : List (List Char) :=
  match _h : block? cs with
  | some (body, after) => body :: blocks after
  | none =>
    match cs with
    | [] => []
    | _ :: rest => blocks rest
termination_by cs.length
decreasing_by
  · exact block?_length _h
  · simp

/-! ## Reading blocks -/

/-- The first of some fronts that a text has, taken off. -/
def dropFront? (fronts : List String) (cs : List Char) : Option (List Char) :=
  fronts.findSome? fun front =>
    if front.toList.isPrefixOf cs then some (cs.drop front.length) else none

/-- The first of some tails that a text has, taken off. -/
def dropTail? (tails : List String) (cs : List Char) : Option (List Char) :=
  tails.findSome? fun tail =>
    if tail.toList.isSuffixOf cs then some (cs.take (cs.length - tail.length)) else none

/-- A text freed of the wrapper that marks it as character data, which may itself hide behind
comment signs; a text that lacks one of the two ends stays as it is. -/
def unwrapped (cs : List Char) : List Char :=
  match dropFront? ["//<![CDATA[", "<![CDATA["] cs with
  | none => cs
  | some rest =>
    match dropTail? ["//]]>", "]]>"] rest with
    | none => cs
    | some content => trim content

/-- Reads the blocks that follow `index` others; the first that holds no JSON is an error. -/
def readBlocks (index : Nat) : List (List Char) → Except Document.Error (List Json)
  | [] => .ok []
  | block :: rest =>
    match Json.parse? (String.ofList (unwrapped (trim block))) with
    | none =>
      .error { stage := .page
               detail := "JSON-LD script block " ++ toString index ++ " is not valid JSON" }
    | some document =>
      match readBlocks (index + 1) rest with
      | .ok documents => .ok (document :: documents)
      | .error e => .error e

/-- The JSON-LD documents of a page, in order. -/
def documents (page : String) : Except Document.Error (List Json) :=
  readBlocks 0 (blocks page.toList)

end LinkedData.Page
