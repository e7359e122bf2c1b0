import LispData.Proofs.Layout.Collapse
import LispData.Proofs.Layout.Indentation
import LispData.Proofs.Value.DebugReading
/-!
# The debug form over lines — the form on one line, laid out

The diagnostic of every value is a part (`Value.isPart_pieces`): words, numerals and
quoted texts stay inside their lines, and so does the ending of an improper list,
which is one text whatever brackets it shows (`Atom.inline_ending`). So the form
over lines collapses to the form on one line, its brackets and separators break its
lines, these are indented for the brackets open before them, and each ending of an
improper list has a line to itself (`Value.pretty_layout`).
-/

namespace LispData

/-! ## Atoms -/

namespace Atom

/-- **The diagnostic of an atom is a part.** -/
theorem isPart_pieces (a : Atom) : IsPart a.pieces := by
  cases a with
  | symbol s =>
    have hname : Inline ("name: " ++ quoted s.name) :=
      (inline_of_isPlainText (by decide)).append (newline_not_mem_quoted _) (balanced_quoted _)
    exact isPart_tagged (inline_of_isPlainText (by decide))
      (isPart_record (inline_of_isPlainText (by decide)) hname)
  | number n =>
    have hdecimal : Inline n.decimal := inline_of_isWord n.isWord_decimal
    exact isPart_tagged (inline_of_isPlainText (by decide))
      (isPart_tagged (inline_of_isPlainText (by decide)) (isPart_text hdecimal))
  | text t =>
    exact isPart_tagged (inline_of_isPlainText (by decide))
      (isPart_tagged (inline_of_isPlainText (by decide)) (isPart_text (inline_quoted t.content)))
  | boolean b =>
    have hword : Inline (if b then "true" else "false") := by
      cases b <;> exact inline_of_isPlainText (by decide)
    exact isPart_tagged (inline_of_isPlainText (by decide)) (isPart_text hword)
  | empty => exact isPart_text (inline_of_isPlainText (by decide))
  | void => exact isPart_text (inline_of_isPlainText (by decide))

/-- The diagnostic of an atom closes the brackets it opens. -/
theorem foldl_nest_pieces (a : Atom) (depth : Nat) : a.pieces.foldl Piece.nest depth = depth := by
  cases a <;> rfl

/-- **The ending of an improper list stays inside its line.** -/
theorem inline_ending (a : Atom) : Inline (". " ++ (Value.atom a).debug) := by
  have hpieces : (Value.atom a).debug.toList = compactChars a.pieces := by
    rw [Value.debug, toList_onOneLine, Value.pieces_eq_flatten]
    rfl
  have hlaid : WellLaid a.pieces := a.isPart_pieces.wellLaid
  refine (inline_of_isPlainText (by decide)).append ?_ fun depth => ?_
  · rw [hpieces]
    exact newline_not_mem_compactChars hlaid
  · rw [hpieces, foldl_step_compactChars hlaid, foldl_nest_pieces]

end Atom

/-! ## Values -/

namespace Value

/-- The diagnostic of every value starts like a part. -/
theorem startsPart_flatten_append (v : Value) (ps : List Piece) :
    StartsPart (flatten diagnostic v ++ ps) := by
  cases v with
  | atom a => exact a.isPart_pieces.starts ps
  | pair a d => exact trivial

theorem flatten_diagnostic_pair (a d : Value) :
    flatten diagnostic (.pair a d) = Kind.pair.opening ++
      (flatten diagnostic a ++ (flattenRest diagnostic d ++ Kind.pair.closing)) := by
  rw [flatten, List.append_assoc, List.append_assoc]
  rfl

theorem flattenRest_diagnostic_pair (a d : Value) :
    flattenRest diagnostic (.pair a d) =
      .separator :: (flatten diagnostic a ++ flattenRest diagnostic d) := by
  rw [flattenRest, List.append_assoc]
  rfl

mutual

/-- **The diagnostic of a value is well laid out**, in front of what is. -/
theorem wellLaid_flatten_append (v : Value) {ps : List Piece} (h : WellLaid ps) :
    WellLaid (flatten diagnostic v ++ ps) := by
  cases v with
  | atom a => exact a.isPart_pieces.wellLaid_append h
  | pair a d =>
    have hrest : WellLaid (flattenRest diagnostic d ++ .closing .square :: .closing .round :: ps) :=
      wellLaid_flattenRest_append d (.closing (.closing h))
    have hword : Inline "Pair" := inline_of_isPlainText (by decide)
    rw [flatten_diagnostic_pair, List.append_assoc, List.append_assoc, List.append_assoc]
    exact .text hword (.opening trivial
      (.opening (startsPart_flatten_append a _) (wellLaid_flatten_append a hrest)))

/-- So is what follows an element of a list. -/
theorem wellLaid_flattenRest_append (d : Value) {ps : List Piece} (h : WellLaid ps) :
    WellLaid (flattenRest diagnostic d ++ ps) := by
  cases d with
  | atom a =>
    by_cases ha : a = .empty
    · rw [ha, flattenRest]
      exact h
    · rw [flattenRest_diagnostic ha]
      exact .separator trivial (.text a.inline_ending h)
  | pair a d =>
    rw [flattenRest_diagnostic_pair, List.cons_append, List.append_assoc]
    exact .separator (startsPart_flatten_append a _)
      (wellLaid_flatten_append a (wellLaid_flattenRest_append d h))

end

/-- **The diagnostic of a value is a part.** -/
theorem isPart_pieces (v : Value) : IsPart v.pieces := by
  rw [pieces_eq_flatten]
  exact ⟨startsPart_flatten_append v, wellLaid_flatten_append v⟩

/-! ## Endings of improper lists -/

/-- What is left of a value when all but the endings of improper lists is passed
over. -/
def improperShape : Shape Atom where
  atom _ := []
  enter := []
  next := []
  proper := []
  dotted a := [a]
  leave := []

/-- **The endings of the improper lists** in a value, at every depth. -/
def improperEndings (v : Value) : List Atom :=
  flatten improperShape v

mutual

/-- **Each of them is a text of its own**, the last part of its list. -/
theorem ending_infix_flatten (v : Value) {a : Atom} (ha : a ∈ flatten improperShape v) :
    [.separator, .text (". " ++ (Value.atom a).debug), .closing .square] <:+:
      flatten diagnostic v := by
  cases v with
  | atom b => cases ha
  | pair e d =>
    simp only [flatten, improperShape, List.nil_append, List.append_nil, List.mem_append] at ha
    rw [flatten_diagnostic_pair]
    rcases ha with he | hd
    · refine (ending_infix_flatten e he).trans ?_
      exact List.infix_append' _ _ _
    · refine (ending_infix_flattenRest d hd).trans ?_
      refine ⟨Kind.pair.opening ++ flatten diagnostic e, [.closing .round], ?_⟩
      simp only [List.append_assoc]
      rfl

/-- What follows an element of a list holds those of the elements behind it, and that
of the list. -/
theorem ending_infix_flattenRest (d : Value) {a : Atom} (ha : a ∈ flattenRest improperShape d) :
    [.separator, .text (". " ++ (Value.atom a).debug), .closing .square] <:+:
      flattenRest diagnostic d ++ [.closing .square] := by
  cases d with
  | atom b =>
    by_cases hb : b = .empty
    · rw [hb, flattenRest] at ha
      cases ha
    · rw [flattenRest] at ha
      · obtain rfl : a = b := List.mem_singleton.1 ha
        rw [flattenRest_diagnostic hb]
        exact List.infix_rfl
      · exact hb
  | pair e d =>
    simp only [flattenRest, improperShape, List.nil_append, List.mem_append] at ha
    rw [flattenRest_diagnostic_pair]
    rcases ha with he | hd
    · refine (ending_infix_flatten e he).trans ?_
      rw [List.cons_append, List.append_assoc]
      exact List.infix_append' [Piece.separator] _ _
    · refine (ending_infix_flattenRest d hd).trans (List.IsSuffix.isInfix ?_)
      refine ⟨.separator :: flatten diagnostic e, ?_⟩
      simp only [List.append_assoc, List.cons_append]

end

/-- **The form over lines is the form on one line, laid out.** It collapses to it,
and a line is broken by each bracket and each separator; every line is indented for
the brackets open before it; and the ending of an improper list has a line to
itself. -/
theorem pretty_layout (v : Value) :
    collapse v.pretty.toList = v.debug.toList ∧
      v.pretty.toList.count '\n' = v.pieces.countP Piece.breaksLine ∧
      (∀ before after, v.pretty.toList = before ++ after →
        (before = [] ∨ before.getLast? = some '\n') →
          LineIndented (openBrackets before) after) ∧
      ∀ a ∈ v.improperEndings, ∃ depth, lineBreak depth ++
        ((". " ++ (Value.atom a).debug).toList ++ [',', '\n']) <:+: v.pretty.toList := by
  have hpart := v.isPart_pieces
  refine ⟨?_, ?_, fun before after hsplit hbreak => ?_, fun a ha => ?_⟩
  · rw [pretty, toList_overLines, collapse_linesFrom hpart.wellLaid, debug, toList_onOneLine]
  · rw [pretty, toList_overLines, count_linesFrom hpart.wellLaid]
  · exact lineIndented_overLines hpart.wellLaid hpart.startsPart hsplit hbreak
  · have hpiece := ending_infix_flatten v ha
    rw [← pieces_eq_flatten] at hpiece
    rw [pretty, toList_overLines]
    exact exists_infix_linesFrom hpiece 0

/-- The bracket in a text does not count: behind it two brackets are open, and for
these the line of the ending is indented. -/
theorem pretty_layout_improper :
    ∃ before after,
      before = ("Pair(\n    [\n        Str(\n            Str(\n                \"[\",\n" ++
        "            ),\n        ),\n").toList ∧
      after = "        . Number(Number(1)),\n    ],\n)".toList ∧
      (pair (text "[") (number 1)).pretty.toList = before ++ after ∧
      openBrackets before = 2 ∧ LineIndented (openBrackets before) after := by
  refine ⟨_, _, rfl, rfl, by decide +kernel, by decide +kernel, ?_⟩
  obtain ⟨-, -, hlines, -⟩ := pretty_layout (pair (text "[") (number 1))
  exact hlines _ _ (by decide +kernel) (.inr (by decide +kernel))

end Value

end LispData
