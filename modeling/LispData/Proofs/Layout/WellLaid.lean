import LispData.Proofs.Layout.Nesting
/-!
# Well laid out — pieces whose layout can be told from its line

A text stays inside its line when it starts like a part, breaks no line and is
balanced (`Inline`); words, numerals and quoted texts do. Pieces are well laid out
when a part starts behind each opening bracket and each separator, and all texts
stay inside their lines (`WellLaid`). A part is well laid out whatever comes behind
it (`IsPart`), so parts of parts are. Over lines, such pieces begin with the sign of
a part (`exists_linesFrom_eq`) and break as many lines as they have brackets and
separators (`count_linesFrom`); on one line they break none and leave open the
brackets they should (`newline_not_mem_compactChars`, `foldl_step_compactChars`).
-/

namespace LispData

/-- The signs that no part of a bracket starts with: blanks, line breaks and
closing brackets. -/
def noStarts : List Char :=
  [' ', '\n', ')', ']', '\x7d']

/-- **A text inside a line**: it starts like a part, holds no line break and closes
the brackets and literals that it opens. -/
structure Inline (s : String) : Prop where
  starts : ∃ c cs, s.toList = c :: cs ∧ c ∉ noStarts
  no_newline : '\n' ∉ s.toList
  balanced : Balanced s.toList

/-- A part starts here: with a text or with a bracket of its own. -/
def StartsPart : List Piece → Prop
  | .text _ :: _ => True
  | .opening _ :: _ => True
  | _ => False

/-- **Pieces are well laid out** when a part starts behind each opening bracket
and behind each separator, and all texts stay inside their lines. -/
inductive WellLaid : List Piece → Prop
  | nil : WellLaid []
  | text {s : String} {ps : List Piece} (hinline : Inline s) (hrest : WellLaid ps) :
    WellLaid (.text s :: ps)
  | opening {b : Bracket} {ps : List Piece} (hstarts : StartsPart ps) (hrest : WellLaid ps) :
    WellLaid (.opening b :: ps)
  | separator {ps : List Piece} (hstarts : StartsPart ps) (hrest : WellLaid ps) :
    WellLaid (.separator :: ps)
  | closing {b : Bracket} {ps : List Piece} (hrest : WellLaid ps) : WellLaid (.closing b :: ps)

/-- **A part of its own**: it starts like one and is well laid out in front of
whatever is. -/
structure IsPart (ps : List Piece) : Prop where
  starts : ∀ qs, StartsPart (ps ++ qs)
  wellLaid_append : ∀ {qs}, WellLaid qs → WellLaid (ps ++ qs)

namespace IsPart

variable {ps : List Piece}

/-- A part is well laid out. -/
theorem wellLaid (h : IsPart ps) : WellLaid ps := by
  rw [← List.append_nil ps]
  exact h.wellLaid_append .nil

theorem startsPart (h : IsPart ps) : StartsPart ps := by
  rw [← List.append_nil ps]
  exact h.starts []

end IsPart

/-! ## Texts inside a line -/

/-- Whether a text stays inside its line because it holds plain signs only. -/
def isPlainText (s : String) : Bool :=
  s.toList.head?.any (fun c => !noStarts.contains c) &&
    s.toList.all fun c => isPlain c && c != '\n'

section Inline

variable {s t : String}

/-- A text of plain signs. -/
theorem inline_of_isPlainText (h : isPlainText s = true) : Inline s := by
  rw [isPlainText, Bool.and_eq_true, Option.any_eq_true, List.all_eq_true] at h
  obtain ⟨⟨c, hfirst, hc⟩, hplain⟩ := h
  have hsigns : ∀ d ∈ s.toList, isPlain d = true ∧ d ≠ '\n' := by
    simpa only [Bool.and_eq_true, bne_iff_ne] using hplain
  refine ⟨?_, fun hmem => (hsigns _ hmem).2 rfl, balanced_of_plain fun d hd => (hsigns d hd).1⟩
  obtain ⟨cs, hs⟩ := List.head?_eq_some_iff.1 hfirst
  exact ⟨c, cs, hs, by simpa using hc⟩

/-- A word. -/
theorem inline_of_isWord (h : IsWord s.toList) : Inline s := by
  obtain ⟨c, cs, hs⟩ := List.exists_cons_of_ne_nil h.ne_nil
  have hends : noStarts.all (fun d => !isWordChar d) = true := by decide
  have hc : c ∉ noStarts := by
    intro hmem
    have hword : isWordChar c = true := h.chars c (by rw [hs]; exact List.mem_cons_self)
    have hend := List.all_eq_true.1 hends c hmem
    rw [hword] at hend
    cases hend
  exact ⟨⟨c, cs, hs, hc⟩, h.not_mem (by decide),
    balanced_of_plain fun d hd => isPlain_of_isWordChar (h.chars d hd)⟩

/-- A quoted text. -/
theorem inline_quoted (s : String) : Inline (quoted s) where
  starts := ⟨'"', _, toList_delimited Quoted.code s, by decide⟩
  no_newline := newline_not_mem_quoted s
  balanced := balanced_quoted s

/-- A text that goes on inside its line. -/
theorem Inline.append (hs : Inline s) (hnewline : '\n' ∉ t.toList) (hbalanced : Balanced t.toList) :
    Inline (s ++ t) where
  starts := by
    obtain ⟨c, cs, hstart, hc⟩ := hs.starts
    exact ⟨c, cs ++ t.toList, by rw [String.toList_append, hstart, List.cons_append], hc⟩
  no_newline := by
    rw [String.toList_append, List.mem_append, not_or]
    exact ⟨hs.no_newline, hnewline⟩
  balanced := by
    rw [String.toList_append]
    exact hs.balanced.append hbalanced

end Inline

/-! ## Parts -/

/-- A text is a part. -/
theorem isPart_text {s : String} (hs : Inline s) : IsPart [.text s] :=
  ⟨fun _ => trivial, fun h => .text hs h⟩

/-- So is a named part in round brackets. -/
theorem isPart_tagged {name : String} {inside : List Piece} (hname : Inline name)
    (hinside : IsPart inside) : IsPart (Piece.tagged name inside) := by
  refine ⟨fun _ => trivial, fun {qs} h => ?_⟩
  rw [Piece.tagged, List.cons_append, List.cons_append, List.append_assoc]
  exact .text hname (.opening (hinside.starts _) (hinside.wellLaid_append (.closing h)))

/-- And a named group of a field. -/
theorem isPart_record {name field shown : String} (hname : Inline (name ++ " "))
    (hfield : Inline (field ++ ": " ++ shown)) : IsPart (Piece.record name [(field, shown)]) :=
  ⟨fun _ => trivial, fun h => .text hname (.opening trivial (.text hfield (.closing h)))⟩

/-! ## Lines of such pieces -/

variable {ps : List Piece}

/-- What starts a part starts with such a sign. -/
theorem exists_linesFrom_eq (hlaid : WellLaid ps) (hstarts : StartsPart ps) (depth : Nat) :
    ∃ c cs, linesFrom depth ps = c :: cs ∧ c ∉ noStarts := by
  cases hlaid with
  | nil => exact absurd hstarts not_false
  | text hinline hrest =>
    obtain ⟨c, cs, hs, hc⟩ := hinline.starts
    rw [linesFrom_text, hs]
    exact ⟨c, _, rfl, hc⟩
  | @opening b ps _ _ =>
    rw [linesFrom_opening]
    exact ⟨b.openSign, _, rfl, by cases b <;> decide⟩
  | separator => exact absurd hstarts not_false
  | closing => exact absurd hstarts not_false

/-- No line break stands in front of a piece. -/
theorem head?_linesFrom_ne (hlaid : WellLaid ps) (depth : Nat) :
    (linesFrom depth ps).head? ≠ some '\n' := by
  have hpart (hstarts : StartsPart ps) : (linesFrom depth ps).head? ≠ some '\n' := by
    obtain ⟨c, cs, hline, hc⟩ := exists_linesFrom_eq hlaid hstarts depth
    rw [hline]
    rintro ⟨⟩
    exact hc (by decide)
  cases hlaid with
  | nil => exact nofun
  | text => exact hpart trivial
  | opening => exact hpart trivial
  | separator => exact fun h => absurd (Option.some.inj h) (by decide)
  | closing => exact fun h => absurd (Option.some.inj h) (by decide)

/-- **Over lines each bracket and each separator breaks one**, and texts break none. -/
theorem count_linesFrom (h : WellLaid ps) (depth : Nat) :
    (linesFrom depth ps).count '\n' = ps.countP Piece.breaksLine := by
  induction h generalizing depth with
  | nil => rfl
  | @text s ps hinline _ ih =>
    have htext : s.toList.count '\n' = 0 := List.count_eq_zero_of_not_mem hinline.no_newline
    rw [linesFrom_text, List.count_append, htext, ih, List.countP_cons_of_neg Bool.false_ne_true,
      Nat.zero_add]
  | @opening b _ _ _ ih =>
    have hsign : b.openSign ≠ '\n' := by cases b <;> decide
    rw [linesFrom_opening, List.count_cons_of_ne hsign, List.count_append, count_lineBreak, ih,
      List.countP_cons_of_pos rfl, Nat.add_comm]
  | separator _ _ ih =>
    rw [linesFrom_separator, List.count_cons_of_ne (by decide), List.count_append,
      count_lineBreak, ih, List.countP_cons_of_pos rfl, Nat.add_comm]
  | @closing b _ _ ih =>
    have hsign : b.closeSign ≠ '\n' := by cases b <;> decide
    rw [linesFrom_closing, List.count_cons_of_ne (by decide), List.count_append, count_lineBreak,
      List.count_cons_of_ne hsign, ih, List.countP_cons_of_pos rfl, Nat.add_comm]

/-- **On one line they break none.** -/
theorem newline_not_mem_compactChars (h : WellLaid ps) : '\n' ∉ compactChars ps := by
  have hcons {p : Piece} {ps : List Piece} (hp : '\n' ∉ p.compact.toList)
      (hps : '\n' ∉ compactChars ps) : '\n' ∉ compactChars (p :: ps) := by
    rw [compactChars_cons, List.mem_append, not_or]
    exact ⟨hp, hps⟩
  induction h with
  | nil => exact List.not_mem_nil
  | text hinline _ ih => exact hcons hinline.no_newline ih
  | @opening b _ _ _ ih => exact hcons (by cases b <;> decide) ih
  | separator _ _ ih => exact hcons (by decide) ih
  | @closing b _ _ ih => exact hcons (by cases b <;> decide) ih

/-- **And they leave those brackets open** that the pieces do. -/
theorem foldl_step_compactChars (h : WellLaid ps) (depth : Nat) :
    (compactChars ps).foldl Nesting.step ⟨depth, .outside⟩ =
      ⟨ps.foldl Piece.nest depth, .outside⟩ := by
  induction h generalizing depth with
  | nil => rfl
  | text hinline _ ih =>
    rw [compactChars_cons, List.foldl_append, Piece.compact, hinline.balanced, ih]
    rfl
  | @opening b _ _ _ ih =>
    have hopened : (Piece.opening b).compact.toList.foldl Nesting.step ⟨depth, .outside⟩ =
        ⟨depth + 1, .outside⟩ := by
      cases b <;> rfl
    rw [compactChars_cons, List.foldl_append, hopened, ih]
    rfl
  | separator _ _ ih => exact ih depth
  | @closing b _ _ ih =>
    have hclosed : (Piece.closing b).compact.toList.foldl Nesting.step ⟨depth, .outside⟩ =
        ⟨depth - 1, .outside⟩ := by
      cases b <;> rfl
    rw [compactChars_cons, List.foldl_append, hclosed, ih]
    rfl

end LispData
