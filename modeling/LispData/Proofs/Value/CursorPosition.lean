import LispData.Proofs.Value.Traversal
/-!
# Positions — what a cursor answers where it stands

The position of a cursor is the number of elements it has given since it was
last at the start; counting and asking for the last element give all the others.
A cursor at a position has the elements behind it left and ends as the list does
(`Cursor.At`). One step answers by the position and moves on to the next
(`At.answer_eq`, `At.step`), so after any questions the cursor stands where they
have brought it (`At.after`), and so does the same walk in two parts
(`Cursor.answers_by_position`).
-/

namespace LispData

namespace Cursor

namespace Step

/-- The position a step leads to from position `k`, of `n` elements. -/
def position (n k : Nat) : Step → Nat
  | .next => if k < n then k + 1 else k
  | .tail => k
  | .count => n
  | .last => n
  | .restart => 0

/-- **What a step answers at position `k`** of the list that starts with `p`. -/
def answerAt (p : Pair) (k : Nat) : Step → Answer
  | .next => .element (if k < p.elements.length then p.elements[k]? else none)
  | .tail =>
    .tail (if k = p.elements.length ∧ p.cdr.ending ≠ .empty then some (.atom p.cdr.ending)
      else none)
  | .count => .count (p.elements.length - k)
  | .last => .element (if k < p.elements.length then p.elements.getLast? else none)
  | .restart => .restarted

end Step

/-- The position that questions lead to from the start, of `n` elements. -/
def positionAfter (n : Nat) (done : List Step) : Nat :=
  done.foldl (fun k s => s.position n k) 0

/-- **A cursor stands at position `k`** of the list that starts with `p`. -/
structure At (c : Cursor) (p : Pair) (k : Nat) : Prop where
  source_eq : c.source = p
  given_le : k ≤ p.elements.length
  elements_eq : c.rest.elements = p.elements.drop k
  ending_eq : c.rest.ending = p.cdr.ending

theorem start_at (p : Pair) : (start p).At p 0 :=
  ⟨rfl, Nat.zero_le _, List.drop_zero.symm, rfl⟩

/-- The ending is shown when no element is left and the list is improper. -/
theorem tail?_eq (c : Cursor) :
    c.tail? = if c.rest.elements = [] ∧ c.rest.ending ≠ .empty then some (.atom c.rest.ending)
      else none := by
  obtain ⟨source, rest⟩ := c
  cases rest with
  | pair a d =>
    have hsome : ¬ ((Value.pair a d).elements = [] ∧ (Value.pair a d).ending ≠ .empty) := by
      rw [Value.elements_pair]
      exact fun h => List.cons_ne_nil _ _ h.1
    rw [if_neg hsome]
    rfl
  | atom a =>
    by_cases ha : a = .empty
    · subst ha
      rfl
    · have hshown : (Value.atom a).elements = [] ∧ (Value.atom a).ending ≠ .empty := ⟨rfl, ha⟩
      rw [if_pos hshown]
      cases a with
      | empty => exact absurd rfl ha
      | _ => rfl

section At

variable {c : Cursor} {p : Pair} {k : Nat}

/-- No element is left exactly at the last position. -/
theorem At.elements_eq_nil_iff (h : c.At p k) :
    c.rest.elements = [] ↔ k = p.elements.length := by
  have hle := h.given_le
  rw [h.elements_eq, List.drop_eq_nil_iff]
  omega

/-- **A step answers by the position.** -/
theorem At.answer_eq (h : c.At p k) (s : Step) : (c.step s).1 = s.answerAt p k := by
  cases s with
  | next =>
    have helement : c.next.1 = if k < p.elements.length then p.elements[k]? else none := by
      rw [next_fst, h.elements_eq, List.head?_drop]
      split
      · rfl
      · next hge => rw [List.getElem?_eq_none (by omega)]
    exact congrArg Answer.element helement
  | tail =>
    have htail := c.tail?_eq
    simp only [h.elements_eq_nil_iff, h.ending_eq] at htail
    exact congrArg Answer.tail htail
  | count =>
    have hcount : c.count.1 = p.elements.length - k := by
      rw [count, h.elements_eq, List.length_drop]
    exact congrArg Answer.count hcount
  | last =>
    have hlast : c.last.1 = if k < p.elements.length then p.elements.getLast? else none := by
      rw [last, h.elements_eq, List.getLast?_drop]
      split
      · next hge => rw [if_neg (by omega)]
      · next hlt => rw [if_pos (by omega)]
    exact congrArg Answer.element hlast
  | restart => rfl

/-- Giving an element moves on by one, and by none at the end. -/
theorem At.next (h : c.At p k) : c.next.2.At p (Step.next.position p.elements.length k) := by
  have hle := h.given_le
  have hsource : c.next.2.source = c.source := by
    unfold Cursor.next
    split <;> rfl
  refine ⟨hsource.trans h.source_eq, ?_, ?_, c.ending_next.trans h.ending_eq⟩
  · rw [Step.position]
    split <;> omega
  · rw [elements_next, h.elements_eq, List.tail_drop, Step.position]
    split
    · rfl
    · rw [List.drop_of_length_le (by omega), List.drop_of_length_le (by omega)]

/-- Using up what is left leads to the last position. -/
theorem At.finish (h : c.At p k) : c.finish.At p p.elements.length :=
  ⟨h.source_eq, Nat.le_refl _, List.drop_length.symm, h.ending_eq⟩

/-- **A step moves on to the position it leads to.** -/
theorem At.step (h : c.At p k) (s : Step) :
    (c.step s).2.At p (s.position p.elements.length k) := by
  cases s with
  | next => exact h.next
  | tail => exact h
  | count => exact h.finish
  | last => exact h.finish
  | restart =>
    have hstart : (c.step .restart).2 = start p := congrArg start h.source_eq
    rw [hstart]
    exact start_at p

/-- **Questions lead where their steps do.** -/
theorem At.after (h : c.At p k) (done : List Step) :
    (c.after done).At p (done.foldl (fun k s => s.position p.elements.length k) k) := by
  -- by induction on the questions, from any position
  induction done generalizing c k with
  | nil => exact h
  | cons s done ih => exact ih (h.step s)

/-- At the last position no element is given and nothing changes. -/
theorem At.next_eq_self (h : c.At p k) (hend : k = p.elements.length) : c.next = (none, c) := by
  have hnone := h.elements_eq_nil_iff.2 hend
  obtain ⟨source, rest⟩ := c
  cases rest with
  | pair a d =>
    rw [Value.elements_pair] at hnone
    cases hnone
  | atom a => rfl

end At

/-- The answer to a question is that of the cursor after the questions before
it. -/
theorem getElem?_run (c : Cursor) (done : List Step) (s : Step) (rest : List Step) :
    (c.run (done ++ s :: rest))[done.length]? = some ((c.after done).step s).1 := by
  induction done generalizing c with
  | nil => rfl
  | cons d done ih => exact ih (c.step d).2

/-- **A cursor answers by its position.** After any questions it stands at a
position of the list and answers the next question as that position tells; at
the last position it gives no element and stays as it is. So does the same walk
in two parts. -/
theorem answers_by_position (p : Pair) (done : List Step) :
    positionAfter p.elements.length done ≤ p.elements.length ∧
      (∀ (s : Step) (rest : List Step),
        ((start p).run (done ++ s :: rest))[done.length]? =
            some (s.answerAt p (positionAfter p.elements.length done)) ∧
          ((Traversal.start p).run (done ++ s :: rest))[done.length]? =
            some (s.answerAt p (positionAfter p.elements.length done))) ∧
      (positionAfter p.elements.length done = p.elements.length →
        ((start p).after done).next = (none, (start p).after done) ∧
          ((Traversal.start p).after done).next = (none, (Traversal.start p).after done)) := by
  have hat : ((start p).after done).At p (positionAfter p.elements.length done) :=
    (start_at p).after done
  refine ⟨hat.given_le, fun s rest => ?_, fun hend => ?_⟩
  · have hanswer : ((start p).run (done ++ s :: rest))[done.length]? =
        some (s.answerAt p (positionAfter p.elements.length done)) := by
      rw [getElem?_run, hat.answer_eq]
    refine ⟨hanswer, ?_⟩
    rwa [← parts_start, parts_run]
  · have hself := hat.next_eq_self hend
    refine ⟨hself, ?_⟩
    rw [← parts_start, parts_after, parts_next, hself]

/-- The list `(1 . 2)` shows its ending as soon as its one element has been
given, and gives no more. -/
theorem answers_by_position_improper :
    positionAfter (Pair.mk (.number 1) (.number 2)).elements.length [.next] =
        (Pair.mk (.number 1) (.number 2)).elements.length ∧
      ((start ⟨.number 1, .number 2⟩).run [.next, .tail])[1]? =
        some (.tail (some (.number 2))) ∧
      ((start ⟨.number 1, .number 2⟩).after [.next]).next =
        (none, (start ⟨.number 1, .number 2⟩).after [.next]) := by
  have hend : positionAfter (Pair.mk (.number 1) (.number 2)).elements.length [.next] =
      (Pair.mk (.number 1) (.number 2)).elements.length := by decide
  obtain ⟨-, hanswers, hlast⟩ := answers_by_position ⟨.number 1, .number 2⟩ [.next]
  exact ⟨hend, (hanswers .tail []).1, (hlast hend).1⟩

end Cursor

end LispData
