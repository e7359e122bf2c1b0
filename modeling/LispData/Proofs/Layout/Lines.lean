import LispData.Layout
/-!
# Layout — the characters of pieces, on one line and over lines

A line is its pieces one after the other (`toList_onOneLine`). A layout over
lines is too, each piece being laid out for the number of brackets around it
(`toList_overLines`), so both are read from the left. The last part of a bracket,
if it is a text, has a line to itself (`exists_infix_linesFrom`).
-/

namespace LispData

/-! ## One line -/

/-- The characters of pieces on one line. -/
def compactChars (pieces : List Piece) : List Char :=
  pieces.flatMap fun p => p.compact.toList

@[simp] theorem compactChars_append (ps qs : List Piece) :
    compactChars (ps ++ qs) = compactChars ps ++ compactChars qs :=
  List.flatMap_append

@[simp] theorem compactChars_text (s : String) : compactChars [.text s] = s.toList :=
  List.flatMap_singleton ..

theorem compactChars_cons (p : Piece) (ps : List Piece) :
    compactChars (p :: ps) = p.compact.toList ++ compactChars ps :=
  List.flatMap_cons

/-- A line is its pieces one after the other. -/
theorem toList_onOneLine (pieces : List Piece) :
    (onOneLine pieces).toList = compactChars pieces := by
  have hline (out : String) : (pieces.foldl (fun out p => out ++ p.compact) out).toList =
      out.toList ++ compactChars pieces := by
    induction pieces generalizing out with
    | nil => simp [compactChars]
    | cons p ps ih =>
      rw [List.foldl_cons, ih, String.toList_append, List.append_assoc]
      rfl
  exact (hline "").trans (List.nil_append _)

/-! ## Over lines -/

namespace Bracket

/-- The sign that opens a bracket. -/
def openSign : Bracket → Char
  | .round => '('
  | .square => '['
  | .curly => '\x7b'

/-- The sign that closes a bracket. -/
def closeSign : Bracket → Char
  | .round => ')'
  | .square => ']'
  | .curly => '\x7d'

theorem toList_openText (b : Bracket) : b.openText.toList = [b.openSign] := by
  cases b <;> rfl

theorem toList_closeText (b : Bracket) : b.closeText.toList = [b.closeSign] := by
  cases b <;> rfl

end Bracket

/-- A line break and the indentation for so many open brackets. -/
def lineBreak (depth : Nat) : List Char :=
  '\n' :: List.replicate (4 * depth) ' '

theorem toList_newline (depth : Nat) : (Lines.newline depth).toList = lineBreak depth := by
  have hblanks (n : Nat) : ("".pushn ' ' n).toList = List.replicate n ' ' := by
    induction n with
    | zero => rfl
    | succ n ih =>
      have hpush : "".pushn ' ' (n + 1) = ("".pushn ' ' n).push ' ' := rfl
      rw [hpush, String.toList_push, ih, List.replicate_succ']
  rw [Lines.newline, String.toList_append, hblanks]
  rfl

theorem count_lineBreak (depth : Nat) : (lineBreak depth).count '\n' = 1 := by
  rw [lineBreak, List.count_cons_self, List.count_replicate]
  rfl

namespace Piece

/-- How many brackets are open behind a piece. -/
def nest (depth : Nat) : Piece → Nat
  | .opening _ => depth + 1
  | .closing _ => depth - 1
  | _ => depth

/-- Whether a piece breaks the line it stands on: all but texts do. -/
def breaksLine : Piece → Bool
  | .text _ => false
  | _ => true

/-- The characters of a piece over lines, where so many brackets are open. -/
def laid (depth : Nat) : Piece → List Char
  | .text s => s.toList
  | .opening b => b.openSign :: lineBreak (depth + 1)
  | .separator => ',' :: lineBreak depth
  | .closing b => ',' :: (lineBreak (depth - 1) ++ [b.closeSign])

end Piece

/-- The characters of pieces over lines, where so many brackets are open. -/
def linesFrom (depth : Nat) : List Piece → List Char
  | [] => []
  | p :: ps => p.laid depth ++ linesFrom (p.nest depth) ps

theorem linesFrom_text (depth : Nat) (s : String) (ps : List Piece) :
    linesFrom depth (.text s :: ps) = s.toList ++ linesFrom depth ps := rfl

theorem linesFrom_opening (depth : Nat) (b : Bracket) (ps : List Piece) :
    linesFrom depth (.opening b :: ps) =
      b.openSign :: (lineBreak (depth + 1) ++ linesFrom (depth + 1) ps) := rfl

theorem linesFrom_separator (depth : Nat) (ps : List Piece) :
    linesFrom depth (.separator :: ps) = ',' :: (lineBreak depth ++ linesFrom depth ps) := rfl

theorem linesFrom_closing (depth : Nat) (b : Bracket) (ps : List Piece) :
    linesFrom depth (.closing b :: ps) =
      ',' :: (lineBreak (depth - 1) ++ b.closeSign :: linesFrom (depth - 1) ps) := by
  rw [linesFrom, Piece.laid, List.cons_append, List.append_assoc]
  rfl

theorem linesFrom_append (depth : Nat) (ps qs : List Piece) :
    linesFrom depth (ps ++ qs) =
      linesFrom depth ps ++ linesFrom (ps.foldl Piece.nest depth) qs := by
  induction ps generalizing depth with
  | nil => rfl
  | cons p ps ih => rw [List.cons_append, linesFrom, linesFrom, ih, List.append_assoc]; rfl

/-- **The last part of a bracket keeps to its line** if it is a text. -/
theorem exists_infix_linesFrom {s : String} {b : Bracket} {ps : List Piece}
    (h : [.separator, .text s, .closing b] <:+: ps) (depth : Nat) :
    ∃ margin, lineBreak margin ++ (s.toList ++ [',', '\n']) <:+: linesFrom depth ps := by
  obtain ⟨front, back, rfl⟩ := h
  refine ⟨front.foldl Piece.nest depth, linesFrom depth front ++ [','], ?_⟩
  rw [List.append_assoc front, linesFrom_append]
  simp only [List.cons_append, List.nil_append, linesFrom_separator, linesFrom_text,
    linesFrom_closing, lineBreak, List.append_assoc]
  exact ⟨_, rfl⟩

/-- Putting a piece counts its bracket and adds its characters. -/
theorem depth_put (l : Lines) (p : Piece) : (l.put p).depth = p.nest l.depth := by
  cases p <;> rfl

theorem toList_out_put (l : Lines) (p : Piece) :
    (l.put p).out.toList = l.out.toList ++ p.laid l.depth := by
  cases p with
  | text s => exact String.toList_append
  | opening b =>
    simp [Lines.put, Piece.laid, toList_newline, Bracket.toList_openText]
  | separator =>
    simp [Lines.put, Piece.laid, toList_newline]
  | closing b =>
    simp [Lines.put, Piece.laid, toList_newline, Bracket.toList_closeText]

/-- **Lines are their pieces one after the other**, each laid out for the brackets
around it. -/
theorem toList_overLines (pieces : List Piece) :
    (overLines pieces).toList = linesFrom 0 pieces := by
  have hlines (l : Lines) :
      (pieces.foldl Lines.put l).out.toList = l.out.toList ++ linesFrom l.depth pieces := by
    induction pieces generalizing l with
    | nil => rw [linesFrom, List.append_nil]; rfl
    | cons p ps ih =>
      rw [List.foldl_cons, ih, toList_out_put, depth_put, List.append_assoc]
      rfl
  exact (hlines ⟨0, ""⟩).trans (List.nil_append _)

end LispData
