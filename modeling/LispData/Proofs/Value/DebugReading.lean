import LispData.Proofs.Layout.Lines
import LispData.Proofs.Text.Quoted
import LispData.Proofs.Text.Word
import LispData.Proofs.Value.Equality
import LispData.Value.Debug
/-!
# Debug forms — no two values share one

The debug form names the kind of every datum before its content, and each form
closes itself, so a value is told by it whatever names and texts it holds, and
whatever follows (`debugChars_append_inj`). The words for the kinds differ in
their first two letters (`Kind.opening_append_inj`); names and texts are quoted
and numerals end at a bracket (`Atom.content_append_inj`); behind an element of
a list stands a bracket, a dot or the word of another element
(`debugRest_append_inj`).
-/

namespace LispData

/-! ## The word of a kind -/

namespace Kind

/-- The pieces that the debug form of a value of a kind begins with. -/
def opening : Kind → List Piece
  | .symbol => [.text "Symbol", .opening .round, .text "Symbol ", .opening .curly]
  | .number => [.text "Number", .opening .round, .text "Number", .opening .round]
  | .string => [.text "Str", .opening .round, .text "Str", .opening .round]
  | .boolean => [.text "Boolean", .opening .round]
  | .null => [.text "Empty"]
  | .pair => [.text "Pair", .opening .round, .opening .square]
  | .void => [.text "Void"]

/-- The pieces that it ends with. -/
def closing : Kind → List Piece
  | .symbol => [.closing .curly, .closing .round]
  | .number => [.closing .round, .closing .round]
  | .string => [.closing .round, .closing .round]
  | .boolean => [.closing .round]
  | .null => []
  | .pair => [.closing .square, .closing .round]
  | .void => []

/-- What follows does not reach the first two letters. -/
theorem take_opening_append (k : Kind) (u : List Char) :
    (compactChars k.opening ++ u).take 2 = (compactChars k.opening).take 2 := by
  have hlength : 2 ≤ (compactChars k.opening).length := by cases k <;> decide
  exact List.take_append_of_le_length hlength

/-- **The first two letters tell the kind.** -/
theorem opening_append_inj {k l : Kind} {u z : List Char}
    (h : compactChars k.opening ++ u = compactChars l.opening ++ z) : k = l ∧ u = z := by
  have hletters : ∀ k l : Kind,
      (compactChars k.opening).take 2 = (compactChars l.opening).take 2 → k = l := by
    intro k l
    cases k <;> cases l <;> decide
  have htake : (compactChars k.opening).take 2 = (compactChars l.opening).take 2 := by
    rw [← take_opening_append k u, h, take_opening_append]
  obtain rfl := hletters k l htake
  exact ⟨rfl, List.append_cancel_left h⟩

/-- No debug form starts with a dot, so an element is no ending. -/
theorem opening_append_ne_dot (k : Kind) (u z : List Char) :
    compactChars k.opening ++ u ≠ '.' :: z := by
  intro h
  have hletter : ((compactChars k.opening).take 2).head? = some '.' := by
    rw [← take_opening_append k u, h]
    rfl
  revert hletter
  cases k <;> decide

end Kind

/-! ## Atoms -/

namespace Atom

/-- The pieces between the word of the kind and what closes it. -/
def content : Atom → List Piece
  | .symbol s => [.text ("name: " ++ quoted s.name)]
  | .number n => [.text n.decimal]
  | .text t => [.text (quoted t.content)]
  | .boolean b => [.text (if b then "true" else "false")]
  | .empty => []
  | .void => []

/-- An atom is shown by its content between the word of its kind and what closes
that. -/
theorem pieces_eq (a : Atom) : a.pieces = a.kind.opening ++ (a.content ++ a.kind.closing) := by
  cases a <;> rfl

/-- **The content of an atom is cut off in one way only**, if the kind is known. -/
theorem content_append_inj {a b : Atom} {u z : List Char} (hkind : a.kind = b.kind)
    (h : compactChars (a.content ++ a.kind.closing) ++ u =
      compactChars (b.content ++ b.kind.closing) ++ z) : a = b ∧ u = z := by
  rw [hkind, compactChars_append, compactChars_append, List.append_assoc, List.append_assoc] at h
  cases sameKind_of_kind_eq hkind with
  | symbol s t =>
    simp only [content, compactChars_text, String.toList_append, List.append_assoc] at h
    obtain ⟨hname, hrest⟩ := quoted_append_inj (List.append_cancel_left h)
    exact ⟨congrArg Atom.symbol (Symbol.ext hname), List.append_cancel_left hrest⟩
  | number m n =>
    simp only [content, compactChars_text] at h
    -- the bracket that closes a numeral stands in no word
    have hends (k : List Char) : EndsWord (compactChars (Atom.number n).kind.closing ++ k) :=
      endsWord_cons (by decide)
    obtain ⟨hdecimal, hrest⟩ := run_append_inj m.isWord_decimal.chars n.isWord_decimal.chars
      (hends u) (hends z) h
    have hnumber : m = n := Number.decimal_injective (String.toList_injective hdecimal)
    exact ⟨congrArg Atom.number hnumber, List.append_cancel_left hrest⟩
  | text s t =>
    simp only [content, compactChars_text] at h
    obtain ⟨hcontent, hrest⟩ := quoted_append_inj h
    exact ⟨congrArg Atom.text (Text.ext hcontent), List.append_cancel_left hrest⟩
  | boolean p q =>
    -- the two words differ in their first letter
    cases p <;> cases q
    · exact ⟨rfl, List.append_cancel_left (List.append_cancel_left h)⟩
    · exact absurd (congrArg List.head? h) (by simp [content])
    · exact absurd (congrArg List.head? h) (by simp [content])
    · exact ⟨rfl, List.append_cancel_left (List.append_cancel_left h)⟩
  | empty => exact ⟨rfl, h⟩
  | void => exact ⟨rfl, h⟩

end Atom

/-! ## Values -/

namespace Value

/-- The characters of the debug form on one line. -/
def debugChars (v : Value) : List Char :=
  compactChars (flatten diagnostic v)

/-- The characters behind an element of a list, up to what closes it. -/
def debugRest (v : Value) : List Char :=
  compactChars (flattenRest diagnostic v ++ Kind.pair.closing)

/-- The debug form is these characters. -/
theorem toList_debug (v : Value) : v.debug.toList = v.debugChars := by
  rw [debug, toList_onOneLine, pieces_eq_flatten, debugChars]

theorem debugChars_atom (a : Atom) :
    (Value.atom a).debugChars =
      compactChars a.kind.opening ++ compactChars (a.content ++ a.kind.closing) := by
  rw [debugChars, flatten, ← compactChars_append, ← Atom.pieces_eq]
  rfl

theorem debugChars_pair (a d : Value) :
    (Value.pair a d).debugChars =
      compactChars Kind.pair.opening ++ (a.debugChars ++ d.debugRest) := by
  rw [debugChars, flatten, List.append_assoc, List.append_assoc, compactChars_append,
    compactChars_append]
  rfl

theorem debugRest_empty : Value.empty.debugRest = compactChars Kind.pair.closing := by
  rw [debugRest, flattenRest]
  rfl

/-- The ending of an improper list is the text of one piece: its debug form on one
line, behind a dot. -/
theorem flattenRest_diagnostic {a : Atom} (ha : a ≠ .empty) :
    flattenRest diagnostic (.atom a) = [.separator, .text (". " ++ (Value.atom a).debug)] := by
  rw [flattenRest, debug, pieces_eq_flatten]
  · rfl
  · exact ha

theorem debugRest_atom {a : Atom} (ha : a ≠ .empty) :
    (Value.atom a).debugRest =
      ',' :: ' ' :: '.' :: ' ' ::
        ((Value.atom a).debugChars ++ compactChars Kind.pair.closing) := by
  have hline : (". " ++ (Value.atom a).debug).toList =
      '.' :: ' ' :: (Value.atom a).debugChars := by
    rw [String.toList_append, toList_debug]
    rfl
  rw [debugRest, flattenRest_diagnostic ha, compactChars_append, compactChars_cons,
    compactChars_text, hline]
  rfl

theorem debugRest_pair (a d : Value) :
    (Value.pair a d).debugRest = ',' :: ' ' :: (a.debugChars ++ d.debugRest) := by
  rw [debugRest, flattenRest, List.append_assoc, List.append_assoc, compactChars_append,
    compactChars_append]
  rfl

/-- Every debug form begins with the word of the kind. -/
theorem exists_debugChars_eq (v : Value) :
    ∃ rest, v.debugChars = compactChars v.kind.opening ++ rest := by
  cases v with
  | atom a => exact ⟨_, debugChars_atom a⟩
  | pair a d => exact ⟨_, debugChars_pair a d⟩

/-- **The debug form names the kind.** -/
theorem kind_eq_of_debugChars_append {v w : Value} {u z : List Char}
    (h : v.debugChars ++ u = w.debugChars ++ z) : v.kind = w.kind := by
  obtain ⟨x, hv⟩ := exists_debugChars_eq v
  obtain ⟨y, hw⟩ := exists_debugChars_eq w
  rw [hv, hw, List.append_assoc, List.append_assoc] at h
  exact (Kind.opening_append_inj h).1

/-- An element does not start like the dot in front of an ending. -/
theorem debugChars_append_ne_dot (v : Value) (u z : List Char) : v.debugChars ++ u ≠ '.' :: z := by
  obtain ⟨x, hv⟩ := exists_debugChars_eq v
  rw [hv, List.append_assoc]
  exact v.kind.opening_append_ne_dot _ z

/-- **The debug form of an atom is cut off in one way only.** -/
theorem debugChars_atom_append_inj {a b : Atom} {u z : List Char}
    (h : (Value.atom a).debugChars ++ u = (Value.atom b).debugChars ++ z) : a = b ∧ u = z := by
  rw [debugChars_atom, debugChars_atom, List.append_assoc, List.append_assoc] at h
  obtain ⟨hkind, hcontent⟩ := Kind.opening_append_inj h
  exact Atom.content_append_inj hkind hcontent

/-- The ending of a list is cut off in one way only. -/
theorem debugRest_atom_append_inj {a b : Atom} {u z : List Char}
    (h : (Value.atom a).debugRest ++ u = (Value.atom b).debugRest ++ z) : a = b ∧ u = z := by
  by_cases ha : a = .empty <;> by_cases hb : b = .empty
  · subst ha
    subst hb
    exact ⟨rfl, List.append_cancel_left h⟩
  · -- a bracket against the comma in front of a dot
    rw [ha, debugRest_empty, debugRest_atom hb] at h
    exact absurd (List.cons.inj h).1 (by decide)
  · rw [hb, debugRest_empty, debugRest_atom ha] at h
    exact absurd (List.cons.inj h).1 (by decide)
  · rw [debugRest_atom ha, debugRest_atom hb] at h
    simp only [List.cons_append, List.append_assoc, List.cons.injEq, true_and] at h
    obtain ⟨hatom, hrest⟩ := debugChars_atom_append_inj h
    exact ⟨hatom, List.append_cancel_left hrest⟩

/-- The ending of a list is no further element. -/
theorem debugRest_atom_append_ne {a : Atom} {b e : Value} {u z : List Char} :
    (Value.atom a).debugRest ++ u ≠ (Value.pair b e).debugRest ++ z := by
  intro h
  by_cases ha : a = .empty
  · rw [ha, debugRest_empty, debugRest_pair] at h
    exact absurd (List.cons.inj h).1 (by decide)
  · -- the word of an element would start with the dot
    rw [debugRest_atom ha, debugRest_pair] at h
    simp only [List.cons_append, List.append_assoc, List.cons.injEq, true_and] at h
    exact debugChars_append_ne_dot b _ _ h.symm

mutual

/-- **A debug form is cut off in one way only**, and tells the value. -/
theorem debugChars_append_inj (v w : Value) {u z : List Char}
    (h : v.debugChars ++ u = w.debugChars ++ z) : v = w ∧ u = z := by
  have hkind := kind_eq_of_debugChars_append h
  cases v with
  | atom a =>
    cases w with
    | atom b =>
      obtain ⟨rfl, hrest⟩ := debugChars_atom_append_inj h
      exact ⟨rfl, hrest⟩
    | pair b e => cases a <;> cases hkind
  | pair a d =>
    cases w with
    | atom b => cases b <;> cases hkind
    | pair b e =>
      rw [debugChars_pair, debugChars_pair, List.append_assoc, List.append_assoc,
        List.append_assoc, List.append_assoc] at h
      obtain ⟨hcar, hcdr⟩ := debugChars_append_inj a b (List.append_cancel_left h)
      obtain ⟨hrest, hu⟩ := debugRest_append_inj d e hcdr
      rw [hcar, hrest]
      exact ⟨rfl, hu⟩

/-- **What follows an element is cut off in one way only**: it closes the list. -/
theorem debugRest_append_inj (d e : Value) {u z : List Char}
    (h : d.debugRest ++ u = e.debugRest ++ z) : d = e ∧ u = z := by
  cases d with
  | atom a =>
    cases e with
    | atom b =>
      obtain ⟨rfl, hrest⟩ := debugRest_atom_append_inj h
      exact ⟨rfl, hrest⟩
    | pair b e => exact absurd h debugRest_atom_append_ne
  | pair a d =>
    cases e with
    | atom b => exact absurd h.symm debugRest_atom_append_ne
    | pair b e =>
      rw [debugRest_pair, debugRest_pair] at h
      simp only [List.cons_append, List.append_assoc, List.cons.injEq, true_and] at h
      obtain ⟨hcar, hcdr⟩ := debugChars_append_inj a b h
      obtain ⟨hrest, hu⟩ := debugRest_append_inj d e hcdr
      rw [hcar, hrest]
      exact ⟨rfl, hu⟩

end

/-- **The debug form tells values apart**: two values have one form exactly when
they are structurally equal, whatever their names and texts. -/
theorem debug_eq_debug_iff (v w : Value) : v.debug = w.debug ↔ v.equals w = true := by
  rw [equals_iff]
  constructor
  · intro h
    have hchars : v.debugChars ++ [] = w.debugChars ++ [] := by
      rw [← toList_debug, ← toList_debug, h]
    exact (debugChars_append_inj v w hchars).1
  · rintro rfl
    rfl

example : (pair (number 1) (text "\"])")).debug =
    "Pair([Number(Number(1)), . Str(Str(\"\\\"])\"))])" := by
  decide

end Value

end LispData
