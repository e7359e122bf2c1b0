import LispData.Proofs.Layout.WellLaid
/-!
# Collapsing lines — back from a layout over lines to one line

Collapsing takes the line breaks out of a text (`collapse`). A line break and
the indentation behind it stand behind an opening bracket or a comma, and with
that sign they turn into what stands there on one line (`joint`). Text inside a
line passes unchanged (`collapse_append`), so the lines of pieces that are well
laid out collapse to the line of these pieces (`collapse_linesFrom`).
-/

namespace LispData

/-- A line without its indentation. -/
def unindented (line : List Char) : List Char :=
  line.dropWhile (· == ' ')

/-- **What a line break turns into**, together with the last sign before it, in
front of the first sign of the next line: an opening bracket stays, with one space
if it is curly; a comma goes before a closing bracket, leaves one space if that is
curly, and is followed by one space before anything else. -/
def joint (last : Char) (next : Option Char) : Option (List Char) :=
  match last, next with
  | '(', _ => some ['(']
  | '[', _ => some ['[']
  | '\x7b', _ => some ['\x7b', ' ']
  | ',', some ')' => some []
  | ',', some ']' => some []
  | ',', some '\x7d' => some [' ']
  | ',', _ => some [',', ' ']
  | _, _ => none

/-- **A text with its lines collapsed.** A line break behind any other sign stays
as it is. -/
def collapse : List Char → List Char
  | [] => []
  | c :: '\n' :: line =>
    match joint c (unindented line).head? with
    | some signs => signs ++ collapse (unindented line)
    | none => c :: collapse ('\n' :: line)
  | c :: rest => c :: collapse rest
termination_by cs => cs.length
decreasing_by
  · have := (List.dropWhile_sublist (· == ' ') (l := line)).length_le
    simp only [unindented, List.length_cons]
    omega
  · simp
  · simp

variable {c : Char} {rest signs : List Char}

/-- A sign that is not the last of its line stays. -/
theorem collapse_cons (h : rest.head? ≠ some '\n') : collapse (c :: rest) = c :: collapse rest := by
  rw [collapse]
  rintro line rfl
  exact h rfl

/-- **Text inside a line stays.** -/
theorem collapse_append {cs : List Char} (hcs : '\n' ∉ cs) (hrest : rest.head? ≠ some '\n') :
    collapse (cs ++ rest) = cs ++ collapse rest := by
  induction cs with
  | nil => rfl
  | cons c cs ih =>
    rw [List.mem_cons, not_or] at hcs
    have hnext : (cs ++ rest).head? ≠ some '\n' := by
      cases cs with
      | nil => exact hrest
      | cons d cs =>
        rintro ⟨⟩
        exact hcs.2 List.mem_cons_self
    rw [List.cons_append, collapse_cons hnext, ih hcs.2]
    rfl

theorem unindented_append (n : Nat) (h : rest.head? ≠ some ' ') :
    unindented (List.replicate n ' ' ++ rest) = rest := by
  have hblanks : ∀ c ∈ List.replicate n ' ', (c == ' ') = true := by
    intro c hc
    rw [List.eq_of_mem_replicate hc]
    rfl
  rw [unindented, List.dropWhile_append_of_pos hblanks]
  cases rest with
  | nil => rfl
  | cons c rest =>
    have hc : (c == ' ') = false := by
      rw [beq_eq_false_iff_ne]
      rintro rfl
      exact h rfl
    rw [List.dropWhile_cons, hc]
    rfl

/-- **A line break turns into what joins the lines.** -/
theorem collapse_lineBreak (depth : Nat) (hrest : rest.head? ≠ some ' ')
    (hjoint : joint c rest.head? = some signs) :
    collapse (c :: (lineBreak depth ++ rest)) = signs ++ collapse rest := by
  rw [lineBreak, List.cons_append, collapse, unindented_append _ hrest, hjoint]

/-- An opening bracket at the end of a line is what it is on one line. -/
theorem joint_openSign (b : Bracket) (next : Option Char) :
    joint b.openSign next = some (Piece.opening b).compact.toList := by
  cases b <;> rfl

/-- So is a comma in front of a closing bracket. -/
theorem joint_closeSign (b : Bracket) :
    joint ',' (some b.closeSign) = some b.padding.toList := by
  cases b <;> rfl

/-- And a comma in front of a part. -/
theorem joint_comma (h : c ∉ noStarts) :
    joint ',' (some c) = some Piece.separator.compact.toList := by
  rw [joint]
  · rfl
  · rintro ⟨⟩
    exact h (by decide)
  · rintro ⟨⟩
    exact h (by decide)
  · rintro ⟨⟩
    exact h (by decide)

/-- **The lines of pieces collapse to their line**, however deep they are. -/
theorem collapse_linesFrom {ps : List Piece} (h : WellLaid ps) (depth : Nat) :
    collapse (linesFrom depth ps) = compactChars ps := by
  have hblank {c : Char} (hc : c ∉ noStarts) (cs : List Char) : (c :: cs).head? ≠ some ' ' := by
    rintro ⟨⟩
    exact hc (by decide)
  -- each piece brings at most one line break
  induction h generalizing depth with
  | nil => rw [linesFrom, collapse]; rfl
  | text hinline hrest ih =>
    rw [linesFrom_text, collapse_append hinline.no_newline (head?_linesFrom_ne hrest _), ih]
    rfl
  | @opening b _ hstarts hrest ih =>
    obtain ⟨c, cs, hline, hc⟩ := exists_linesFrom_eq hrest hstarts (depth + 1)
    have hjoined := collapse_lineBreak (depth + 1) (hblank hc cs) (joint_openSign b _)
    rw [linesFrom_opening, compactChars_cons, ← ih (depth + 1), hline, hjoined]
  | separator hstarts hrest ih =>
    obtain ⟨c, cs, hline, hc⟩ := exists_linesFrom_eq hrest hstarts depth
    have hjoined := collapse_lineBreak depth (hblank hc cs) (joint_comma hc)
    rw [linesFrom_separator, compactChars_cons, ← ih depth, hline, hjoined]
  | @closing b ps hrest ih =>
    have hclose : (b.closeSign :: linesFrom (depth - 1) ps).head? ≠ some ' ' := by
      cases b <;> exact fun h => absurd (Option.some.inj h) (by decide)
    rw [linesFrom_closing, compactChars_cons, collapse_lineBreak _ hclose (joint_closeSign b),
      collapse_cons (head?_linesFrom_ne hrest _), ih, Piece.compact, String.toList_append,
      Bracket.toList_closeText, List.append_assoc]
    rfl

end LispData
