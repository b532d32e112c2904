import LinkedData.Proofs.NQuads.Lines
import LinkedData.Source.Fixed
import LinkedData.Text.Split
import Mathlib.Logic.Function.Iterate

/-!
# LinkedData.Proofs.NQuads.LineByLine -- a document against its lines read one by one

A document can be read without a reader: cut the text at its line feeds, number the lines from
one, trim them, leave out those that are empty or start with `#`, read each of the others on its
own, and forget everything after the first fault. What `Lines.next` hands out call by call, what
`parse` makes of the whole text and what is fetched from a fixed source are all that list.
-/

namespace LinkedData

/-! ## Arrivals up to the first fault -/

namespace Arrivals

variable {ε δ α : Type}

/-- The arrivals up to the first fault, which is the last of them. -/
def upToFault : Arrivals ε α → Arrivals ε α
  | [] => []
  | .ok x :: rest => .ok x :: upToFault rest
  | .error e :: _ => [.error e]

@[simp] theorem collect_upToFault (a : Arrivals ε α) : collect (upToFault a) = collect a := by
  induction a with
  | nil => rfl
  | cons item rest ih =>
    cases item with
    | error e => rfl
    | ok x => simp only [upToFault, collect, ih]

theorem upToFault_isPrefix (a : Arrivals ε α) : upToFault a <+: a := by
  induction a with
  | nil => exact List.prefix_rfl
  | cons item rest ih =>
    cases item with
    | error e => exact List.prefix_append [.error e] rest
    | ok x => exact List.cons_prefix_cons.mpr ⟨rfl, ih⟩

/-- A collection fails with the only fault there is. -/
theorem collect_eq_error_iff {a : Arrivals ε α} {e : ε} :
    collect a = .error e ↔ .error e ∈ upToFault a := by
  induction a with
  | nil => simp [collect, upToFault]
  | cons item rest ih =>
    cases item with
    | error e' => simp [collect, upToFault, eq_comm]
    | ok x =>
      simp only [upToFault, List.mem_cons, reduceCtorEq, false_or, ← ih, collect]
      cases collect rest <;> simp

/-- Nothing counts that arrives after a fault. -/
theorem upToFault_append_of_error {a : Arrivals ε α} {e : ε} (h : collect a = .error e)
    (b : Arrivals ε α) : upToFault (a ++ b) = upToFault a := by
  induction a with
  | nil => cases h
  | cons item rest ih =>
    cases item with
    | error e' => rfl
    | ok x =>
      have hrest : collect rest = .error e := by
        cases hrest : collect rest <;> simp_all [collect]
      rw [List.cons_append, upToFault, upToFault, ih hrest]

/-- Arrivals without a fault all count, and so does what arrives later. -/
theorem upToFault_append_of_ok {a : Arrivals ε α} {xs : List α} (h : collect a = .ok xs)
    (b : Arrivals ε α) : upToFault (a ++ b) = upToFault a ++ upToFault b := by
  rw [collect_eq_ok_iff] at h
  subst h
  induction xs with
  | nil => rfl
  | cons x xs ih => rw [List.map_cons, List.cons_append, upToFault, ih, upToFault, List.cons_append]

theorem upToFault_map_mapError (f : ε → δ) (a : Arrivals ε α) :
    upToFault (a.map (Except.mapError f)) = (upToFault a).map (Except.mapError f) := by
  induction a with
  | nil => rfl
  | cons item rest ih =>
    cases item with
    | error e => rfl
    | ok x => simp only [List.map_cons, Except.mapError, upToFault, ih]

theorem collect_map_mapError (f : ε → δ) (a : Arrivals ε α) :
    collect (a.map (Except.mapError f)) = (collect a).mapError f := by
  induction a with
  | nil => rfl
  | cons item rest ih =>
    cases item with
    | error e => rfl
    | ok x =>
      simp only [List.map_cons, Except.mapError, collect, ih]
      cases collect rest <;> rfl

end Arrivals

/-! ## The parts of a text -/

namespace Text

/-- The parts of two texts with a separator between them. -/
theorem splitAt_append (separator : Char) (front rest : List Char) :
    splitAt separator (front ++ separator :: rest) =
      splitAt separator front ++ splitAt separator rest := by
  unfold splitAt
  induction front with
  | nil => simp [splitWhere]
  | cons c front ih =>
    simp only [List.cons_append, splitWhere, ih]
    split
    · rfl
    · cases hparts : splitWhere (· == separator) front with
      | nil => exact absurd hparts (splitWhere_ne_nil _ _)
      | cons part parts => rfl

theorem splitAt_of_not_mem {separator : Char} {cs : List Char} (h : separator ∉ cs) :
    splitAt separator cs = [cs] := by
  unfold splitAt
  induction cs with
  | nil => rfl
  | cons c cs ih =>
    rw [List.mem_cons, not_or] at h
    simp [splitWhere, Ne.symm h.1, ih h.2]

end Text

namespace NQuads

open LinkedData.Rdf LinkedData.Text

open Lines (splitLine splitLine_line splitLine_of_not_mem)

/-! ## The lines of a text read one by one -/

/-- The trimmed lines of a text that are neither empty nor comments, each with its number; `count`
lines stand before the text. -/
def statementLines (count : Nat) (cs : List Char) : List (List Char × Nat) :=
  (((splitAt '\n' cs).map trim).zipIdx (count + 1)).filter fun line =>
    line.1 ≠ [] ∧ line.1.head? ≠ some '#'

/-- What a numbered line holds on its own. -/
def readLine (line : List Char × Nat) : Except LineFault Quad :=
  (statement line.1).mapError fun fault => { line := line.2, fault }

/-- What the lines of a text hold, up to and including the first fault. -/
def readLines (count : Nat) (cs : List Char) : Arrivals LineFault Quad :=
  Arrivals.upToFault ((statementLines count cs).map readLine)

/-- The same fault, `n` lines later. -/
def LineFault.later (n : Nat) (e : LineFault) : LineFault :=
  { e with line := e.line + n }

/-- The lines of a text without a line feed: itself, or none. -/
theorem statementLines_of_not_mem {line : List Char} (h : '\n' ∉ line) (count : Nat) :
    statementLines count line =
      if isSkipped (trim line) then [] else [(trim line, count + 1)] := by
  have hskipped : isSkipped (trim line) = true ↔
      ¬(trim line ≠ [] ∧ (trim line).head? ≠ some '#') := by
    simp [isSkipped, imp_iff_not_or]
  rw [statementLines, splitAt_of_not_mem h]
  simp only [List.map_cons, List.map_nil, List.zipIdx_cons, List.zipIdx_nil, List.filter_cons,
    List.filter_nil, decide_eq_true_eq, hskipped, ite_not]

/-- The lines of two texts with a line feed between them. -/
theorem statementLines_append (count : Nat) (front rest : List Char) :
    statementLines count (front ++ '\n' :: rest) =
      statementLines count front ++ statementLines (count + (front.count '\n' + 1)) rest := by
  have hlength : (splitAt '\n' front).length = front.count '\n' + 1 :=
    length_splitWhere _ front
  unfold statementLines
  rw [splitAt_append, List.map_append, List.zipIdx_append, List.filter_append, List.length_map,
    hlength, Nat.add_right_comm count 1]

/-- The lines of a text are its first line, unless that is passed over, and those after it. -/
theorem statementLines_splitLine (count : Nat) (cs : List Char) :
    statementLines count cs =
      (if isSkipped (trim (splitLine cs).1) then [] else [(trim (splitLine cs).1, count + 1)]) ++
        statementLines (count + 1) (splitLine cs).2 := by
  by_cases hfeed : '\n' ∈ cs
  · obtain ⟨line, rest, rfl, hline⟩ := List.eq_append_cons_of_mem hfeed
    rw [splitLine_line hline, statementLines_append, statementLines_of_not_mem hline,
      List.count_eq_zero.mpr hline]
  · rw [splitLine_of_not_mem hfeed, statementLines_of_not_mem hfeed]
    exact (List.append_nil _).symm

/-- The lines of a text that stands `n` lines later have numbers greater by `n`. -/
theorem statementLines_add (n count : Nat) (cs : List Char) :
    statementLines (count + n) cs = (statementLines count cs).map (Prod.map id (· + n)) := by
  unfold statementLines
  rw [Nat.add_right_comm, Nat.add_comm, ← List.map_snd_add_zipIdx_eq_zipIdx, List.filter_map]
  rfl

theorem readLine_later (n : Nat) (line : List Char × Nat) :
    readLine (Prod.map id (· + n) line) = (readLine line).mapError (LineFault.later n) := by
  unfold readLine
  cases hread : statement line.1 <;> simp [hread, Except.mapError, LineFault.later]

/-- A text that stands `n` lines later holds the same, and its fault is `n` lines later. -/
theorem readLines_add (n count : Nat) (cs : List Char) :
    readLines (count + n) cs = (readLines count cs).map (Except.mapError (LineFault.later n)) := by
  unfold readLines
  rw [statementLines_add, ← Arrivals.upToFault_map_mapError, List.map_map, List.map_map]
  congr 2
  funext line
  exact readLine_later n line

/-- A text whose lines are at fault hides every line after it. -/
theorem readLines_append_of_error {count : Nat} {front : List Char} {e : LineFault}
    (h : (readLines count front).collect = .error e) (rest : List Char) :
    readLines count (front ++ '\n' :: rest) = readLines count front := by
  unfold readLines at h ⊢
  rw [Arrivals.collect_upToFault] at h
  rw [statementLines_append, List.map_append, Arrivals.upToFault_append_of_error h]

/-- After a text without a fault the lines that follow are read, with numbers that go on. -/
theorem readLines_append_of_ok {count : Nat} {front : List Char} {g : Graph}
    (h : (readLines count front).collect = .ok g) (rest : List Char) :
    readLines count (front ++ '\n' :: rest) =
      readLines count front ++ readLines (count + (front.count '\n' + 1)) rest := by
  unfold readLines at h ⊢
  rw [Arrivals.collect_upToFault] at h
  rw [statementLines_append, List.map_append, Arrivals.upToFault_append_of_ok h]

/-! ## A document call by call -/

namespace Lines

theorem next_nil {count : Nat} : next { rest := [], count } = none := by
  show advance count [] = none
  rw [advance, dif_pos rfl]

/-- A document hands out what its lines hold. -/
theorem toList_eq_readLines (count : Nat) (cs : List Char) :
    toList { rest := cs, count } = readLines count cs := by
  induction hlength : cs.length using Nat.strong_induction_on generalizing count cs with
  | _ length ih =>
    subst hlength
    by_cases hne : cs = []
    · subst hne
      exact toList_eq_nil next_nil
    have hrest := ih _ (splitLine_length hne) (count + 1) (splitLine cs).2 rfl
    unfold readLines at hrest ⊢
    rw [statementLines_splitLine]
    cases hline : isSkipped (trim (splitLine cs).1) with
    | true => rw [toList_of_skipped count hne hline, hrest, if_pos rfl, List.nil_append]
    | false =>
      rw [toList_of_line count hne hline, if_neg Bool.false_ne_true, List.singleton_append,
        List.map_cons, hrest]
      unfold readLine
      cases statement (trim (splitLine cs).1) <;> rfl

/-- What one call hands out, if anything. -/
def item (d : Lines) : Option (Except LineFault Quad) :=
  d.next.map Prod.fst

/-- The document after one call. -/
def afterCall (d : Lines) : Lines :=
  (d.next.map Prod.snd).getD d

/-- Call by call a document hands out its list, and nothing from its end on. -/
theorem item_iterate_afterCall (d : Lines) (n : Nat) : (afterCall^[n] d).item = d.toList[n]? := by
  induction n generalizing d with
  | zero =>
    cases hnext : d.next with
    | none => simp [item, hnext, toList_eq_nil hnext]
    | some call => simp [item, hnext, toList_eq_cons hnext]
  | succ n ih =>
    rw [Function.iterate_succ_apply, ih]
    cases hnext : d.next with
    | none => simp [afterCall, hnext, toList_eq_nil hnext]
    | some call => simp [afterCall, hnext, toList_eq_cons hnext]

end Lines

end NQuads

namespace Source

open NQuads

/-- A fixed document of N-Quads is fetched as it is parsed; its fault is reported for its URL. -/
theorem run_fetchGraph_nquads {w : World} {url text : String}
    (hsource : w.current.find? url = some (.document .nquads text)) :
    ((fetchGraph Dereferencer.fixed url).run).run w =
      ((parse text).mapError fun fault => .dereference url (Document.ofLineFault fault).message,
        { w with calls := w.calls + 1 }) := by
  have hopened : w.opened url = .ok
      { url, format := .nquads
        quads := ((Lines.ofText text).toList.map (Except.mapError Document.ofLineFault)).map
          (Except.mapError fun e => .dereference url e.message) } := by
    rw [World.opened, hsource]
    rfl
  have hcall : ((Dereferencer.fixed.dereference url).run).run w =
      (w.opened url, { w with calls := w.calls + 1 }) := rfl
  simp only [fetchGraph, ExceptT.run_bind, StateT.run_bind]
  rw [hcall, hopened]
  simp only [bind, Arrivals.collect_map_mapError]
  unfold parse
  cases (Lines.ofText text).toList.collect <;> rfl

/-- A document is its lines read one by one. Its calls hand out what the lines hold, up to and
including the first fault, and nothing from there on. It parses to all its quads when no line is at
fault, and to the first fault otherwise. A fixed source fetches the graph that it parses to, or
fails for its URL with the report of the same fault. What follows it after a line feed is read only
if none of its lines is at fault, and then as it is read alone, with line numbers that go on. -/
theorem nquads_line_by_line (text later : String) :
    (Lines.ofText text).toList = readLines 0 text.toList ∧
    (∀ n, (Lines.afterCall^[n] (Lines.ofText text)).item = (readLines 0 text.toList)[n]?) ∧
    (∀ g, parse text = .ok g ↔ readLines 0 text.toList = g.map .ok) ∧
    (∀ fault, parse text = .error fault ↔ .error fault ∈ readLines 0 text.toList) ∧
    (∀ (w : World) (url : String), w.current.find? url = some (.document .nquads text) →
      ((fetchGraph Dereferencer.fixed url).run).run w =
        ((parse text).mapError fun fault =>
            .dereference url (Document.ofLineFault fault).message,
          { w with calls := w.calls + 1 })) ∧
    (Lines.ofText (text ++ "\n" ++ later)).toList =
      match parse text with
      | .error _ => (Lines.ofText text).toList
      | .ok _ =>
        (Lines.ofText text).toList ++
          (Lines.ofText later).toList.map
            (Except.mapError (LineFault.later (text.toList.count '\n' + 1))) := by
  have hitems (t : String) : (Lines.ofText t).toList = readLines 0 t.toList :=
    Lines.toList_eq_readLines 0 t.toList
  have hparse : parse text = (readLines 0 text.toList).collect := by rw [parse, hitems]
  have hjoined : (text ++ "\n" ++ later).toList = text.toList ++ '\n' :: later.toList := by simp
  refine ⟨hitems text, fun n => ?_, fun g => ?_, fun fault => ?_, fun w url => ?_, ?_⟩
  · rw [Lines.item_iterate_afterCall, hitems]
  · rw [hparse, Arrivals.collect_eq_ok_iff]
  · rw [hparse, readLines, Arrivals.collect_upToFault, Arrivals.collect_eq_error_iff]
  · exact run_fetchGraph_nquads
  · simp only [hitems, hjoined]
    cases hfront : parse text with
    | error fault => exact readLines_append_of_error (hparse ▸ hfront) later.toList
    | ok g =>
      rw [readLines_append_of_ok (hparse ▸ hfront), readLines_add]

/-- A text with a comment, a blank line and a line that is no statement. -/
theorem nquads_line_by_line_faulty :
    let w : World := { phases := [[("urn:d", .document .nquads "# note\r\n \nb")]] }
    w.current.find? "urn:d" = some (.document .nquads "# note\r\n \nb") ∧
    ((fetchGraph Dereferencer.fixed "urn:d").run).run w =
      (.error (.dereference "urn:d" "N-Quads parse error: line 3: unexpected character 'b'"),
        { w with calls := 1 }) := by
  refine ⟨rfl, ?_⟩
  obtain ⟨-, -, -, hfault, hfetch, -⟩ := nquads_line_by_line "# note\r\n \nb" ""
  have hlines : readLines 0 "# note\r\n \nb".toList =
      [.error { line := 3, fault := .unexpected 'b' }] := rfl
  have hparse := (hfault _).mpr (hlines ▸ List.mem_singleton_self _)
  rw [hfetch _ "urn:d" rfl, hparse]
  rfl

end Source

end LinkedData
