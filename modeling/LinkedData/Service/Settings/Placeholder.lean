import LinkedData.Dict

/-!
# LinkedData.Service.Settings.Placeholder -- lines with places for values from outside

A placeholder is written `$\x7bNAME:default\x7d`. It stands for the value of the name in the
environment, or else for its default, which is all up to the first closing brace. A value is
taken as it is: placeholders in it are not replaced. What does not have this form stands for
itself.
-/

namespace LinkedData.Service.Settings

/-- A place in a line. -/
structure Placeholder where
  name : List Char
  default : List Char
deriving DecidableEq, Repr

namespace Placeholder

/-- The characters that names begin with. -/
def isNameStart (c : Char) : Bool :=
  ('A' ≤ c && c ≤ 'Z') || c == '_'

/-- The characters that names are made of. -/
def isNameChar (c : Char) : Bool :=
  isNameStart c || ('0' ≤ c && c ≤ '9')

/-- The written form of a placeholder. -/
def chars (p : Placeholder) : List Char :=
  '$' :: '{' :: p.name ++ ':' :: p.default ++ ['}']

/-- The value that a placeholder stands for. -/
def value (environment : Dict String) (p : Placeholder) : List Char :=
  match environment.find? (String.ofList p.name) with
  | some value => value.toList
  | none => p.default

/-- The placeholder whose inside begins here, and what follows it. -/
def inside? (cs : List Char) : Option (Placeholder × List Char) :=
  let name := cs.takeWhile isNameChar
  match cs.drop name.length with
  | ':' :: rest =>
    let default := rest.takeWhile fun c => c != '}' && c != '\n'
    match rest.drop default.length with
    | '}' :: after =>
      if name.head?.any isNameStart then some ({ name, default }, after) else none
    | _ => none
  | _ => none

theorem inside?_length {cs after : List Char} {p : Placeholder}
    (h : inside? cs = some (p, after)) : after.length < cs.length := by
  unfold inside? at h
  simp only at h
  split at h
  · rename_i rest hrest
    split at h
    · rename_i tail htail
      split at h
      · simp only [Option.some.injEq, Prod.mk.injEq] at h
        obtain ⟨_, rfl⟩ := h
        have h₁ := congrArg List.length hrest
        have h₂ := congrArg List.length htail
        simp only [List.length_drop, List.length_cons] at h₁ h₂
        omega
      · cases h
    · cases h
  · cases h

/-- A line with its placeholders replaced. -/
def expand (environment : Dict String) (cs : List Char) : List Char :=
  match cs with
  | [] => []
  | '$' :: '{' :: rest =>
    match _h : inside? rest with
    | some (p, after) => p.value environment ++ expand environment after
    | none => '$' :: expand environment ('{' :: rest)
  | c :: rest => c :: expand environment rest
termination_by cs.length
decreasing_by
  · have := inside?_length _h
    simp only [List.length_cons]
    omega
  · simp
  · simp

end Placeholder

end LinkedData.Service.Settings
