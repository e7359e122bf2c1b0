import LispData.Proofs.Layout.WellLaid
/-!
# Indentation — how far in a line starts

A line of a layout starts behind four spaces for each bracket that is open there;
a closing bracket that the line starts with is not open any more (`LineIndented`).
That all lines behind a place are indented is carried along the text with the
brackets open at it (`LinesIndented`), piece by piece for pieces that are well
laid out (`linesIndented_linesFrom`).
-/

namespace LispData

/-- **A line is indented** for so many open brackets, one less if it starts by
closing one. -/
def LineIndented (depth : Nat) (text : List Char) : Prop :=
  ∃ c line, text = List.replicate (4 * (if closes c then depth - 1 else depth)) ' ' ++ c :: line ∧
    c ≠ ' ' ∧ c ≠ '\n'

/-- All lines that start behind the signs of a text are indented, where the
brackets of `n` are open before it. -/
def LinesIndented (n : Nesting) : List Char → Prop
  | [] => True
  | c :: rest => (c = '\n' → LineIndented (n.step c).depth rest) ∧ LinesIndented (n.step c) rest

variable {n : Nesting} {c : Char} {depth : Nat} {rest : List Char} {ps : List Piece}

/-- **Every line break of an indented text is followed by an indented line.** -/
theorem LinesIndented.lineIndented {before after : List Char}
    (h : LinesIndented n (before ++ after)) (hbreak : before.getLast? = some '\n') :
    LineIndented (before.foldl Nesting.step n).depth after := by
  induction before generalizing n with
  | nil => cases hbreak
  | cons c before ih =>
    cases before with
    | nil =>
      obtain rfl : c = '\n' := Option.some.inj hbreak
      exact h.1 rfl
    | cons d before => exact ih h.2 (List.getLast?_cons_cons ▸ hbreak)

/-! ## Within a line -/

/-- A sign that breaks no line. -/
theorem linesIndented_cons (hc : c ≠ '\n') (h : LinesIndented (n.step c) rest) :
    LinesIndented n (c :: rest) :=
  ⟨fun hbreak => absurd hbreak hc, h⟩

/-- A text that breaks no line. -/
theorem linesIndented_append {cs : List Char} (hcs : '\n' ∉ cs)
    (h : LinesIndented (cs.foldl Nesting.step n) rest) : LinesIndented n (cs ++ rest) := by
  induction cs generalizing n with
  | nil => exact h
  | cons c cs ih =>
    rw [List.mem_cons, not_or] at hcs
    exact linesIndented_cons (Ne.symm hcs.1) (ih hcs.2 h)

/-! ## Line breaks -/

/-- A line break in front of a line that is indented for the brackets open there. -/
theorem linesIndented_lineBreak {margin : Nat}
    (hline : LineIndented depth (List.replicate (4 * margin) ' ' ++ rest))
    (hrest : LinesIndented ⟨depth, .outside⟩ rest) :
    LinesIndented ⟨depth, .outside⟩ (lineBreak margin ++ rest) := by
  have hblank (c : Char) (hc : c ∈ List.replicate (4 * margin) ' ') : c = ' ' :=
    List.eq_of_mem_replicate hc
  have hbalanced : Balanced (List.replicate (4 * margin) ' ') := by
    refine balanced_of_plain fun c hc => ?_
    rw [hblank c hc]
    rfl
  refine ⟨fun _ => hline, linesIndented_append ?_ ?_⟩
  · exact fun hc => absurd (hblank _ hc) (by decide)
  · have hbreak : Nesting.step ⟨depth, .outside⟩ '\n' = ⟨depth, .outside⟩ := rfl
    rw [hbreak, hbalanced depth]
    exact hrest

/-- What a part starts with closes no bracket. -/
theorem lineIndented_of_not_mem (hc : c ∉ noStarts) (line : List Char) :
    LineIndented depth (List.replicate (4 * depth) ' ' ++ c :: line) := by
  simp only [noStarts, List.mem_cons, List.not_mem_nil, or_false, not_or] at hc
  obtain ⟨hblank, hnewline, hround, hsquare, hcurly⟩ := hc
  have hcloses : closes c = false := by simp [closes, hround, hsquare, hcurly]
  exact ⟨c, line, by rw [hcloses]; rfl, hblank, hnewline⟩

/-- A closing bracket starts its line one bracket further out. -/
theorem lineIndented_closeSign (b : Bracket) (depth : Nat) (line : List Char) :
    LineIndented depth (List.replicate (4 * (depth - 1)) ' ' ++ b.closeSign :: line) := by
  refine ⟨b.closeSign, line, ?_, ?_⟩
  · cases b <;> rfl
  · cases b <;> decide

/-! ## Pieces -/

/-- The first line of pieces is indented. -/
theorem lineIndented_linesFrom (hlaid : WellLaid ps) (hstarts : StartsPart ps) (depth : Nat) :
    LineIndented depth (List.replicate (4 * depth) ' ' ++ linesFrom depth ps) := by
  obtain ⟨c, line, hline, hc⟩ := exists_linesFrom_eq hlaid hstarts depth
  rw [hline]
  exact lineIndented_of_not_mem hc line

/-- **The lines of pieces are indented**, however many brackets are open before
them. -/
theorem linesIndented_linesFrom (h : WellLaid ps) (depth : Nat) :
    LinesIndented ⟨depth, .outside⟩ (linesFrom depth ps) := by
  -- behind each piece those brackets are open that it leaves open
  induction h generalizing depth with
  | nil => exact trivial
  | text hinline _ ih =>
    rw [linesFrom_text]
    refine linesIndented_append hinline.no_newline ?_
    rw [hinline.balanced depth]
    exact ih depth
  | @opening b _ hstarts hrest ih =>
    rw [linesFrom_opening]
    refine linesIndented_cons (by cases b <;> decide) ?_
    rw [step_openSign]
    exact linesIndented_lineBreak (lineIndented_linesFrom hrest hstarts _) (ih _)
  | separator hstarts hrest ih =>
    rw [linesFrom_separator]
    refine linesIndented_cons (by decide) ?_
    exact linesIndented_lineBreak (lineIndented_linesFrom hrest hstarts _) (ih _)
  | @closing b _ _ ih =>
    rw [linesFrom_closing]
    refine linesIndented_cons (by decide) ?_
    refine linesIndented_lineBreak (lineIndented_closeSign b depth _) ?_
    refine linesIndented_cons (by cases b <;> decide) ?_
    rw [step_closeSign]
    exact ih _

/-- **Every line is indented for the brackets open before it.** -/
theorem lineIndented_overLines (hlaid : WellLaid ps) (hstarts : StartsPart ps)
    {before after : List Char} (hsplit : (overLines ps).toList = before ++ after)
    (hbreak : before = [] ∨ before.getLast? = some '\n') :
    LineIndented (openBrackets before) after := by
  rw [toList_overLines] at hsplit
  rcases hbreak with rfl | hbreak
  · rw [List.nil_append] at hsplit
    rw [← hsplit]
    exact lineIndented_linesFrom hlaid hstarts 0
  · have hlines := linesIndented_linesFrom hlaid 0
    rw [hsplit] at hlines
    exact hlines.lineIndented hbreak

end LispData
