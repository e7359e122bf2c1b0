import LispData.Value.Basic
/-!
# Cursors — walking a list one element at a time

A cursor stands somewhere in a chain of pairs. It gives the elements in order;
once the last one has been given, the ending of an improper list is there to be
seen, and it stays. A cursor can be sent back to the start.
-/

namespace LispData

/-- A cursor over the list that starts with `source`; `rest` is what has not
been given yet. -/
structure Cursor where
  source : Pair
  rest : Value

namespace Cursor

/-- A cursor before the first element. -/
def start (p : Pair) : Cursor :=
  ⟨p, p.toValue⟩

/-- The next element, if one is left, and the cursor behind it. -/
def next (c : Cursor) : Option Value × Cursor :=
  match c.rest with
  | .pair a d => (some a, { c with rest := d })
  | .atom _ => (none, c)

/-- The atom that the list ends in, once no element is left; absent when the
list is proper. -/
def tail? (c : Cursor) : Option Value :=
  match c.rest with
  | .pair _ _ => none
  | .empty => none
  | .atom a => some (.atom a)

/-- The cursor behind the last element. -/
def finish (c : Cursor) : Cursor :=
  { c with rest := .atom c.rest.ending }

/-- How many elements are left; they are used up. -/
def count (c : Cursor) : Nat × Cursor :=
  (c.rest.elements.length, c.finish)

/-- The last of the elements that are left; all are used up. -/
def last (c : Cursor) : Option Value × Cursor :=
  (c.rest.elements.getLast?, c.finish)

/-- The cursor back before the first element. -/
def restart (c : Cursor) : Cursor :=
  start c.source

/-- A cursor gives the first of the elements that are left. -/
@[simp] theorem next_fst (c : Cursor) : c.next.1 = c.rest.elements.head? := by
  unfold next
  split <;> simp_all

/-- **Behind the next element the others are left**, in their order. -/
@[simp] theorem elements_next (c : Cursor) : c.next.2.rest.elements = c.rest.elements.tail := by
  unfold next
  split <;> simp_all

/-- Giving an element does not change how the list ends. -/
@[simp] theorem ending_next (c : Cursor) : c.next.2.rest.ending = c.rest.ending := by
  unfold next
  split <;> simp_all

/-- What can be asked of a cursor. -/
inductive Step where
  | next
  | tail
  | count
  | last
  | restart
  deriving DecidableEq

/-- What a cursor answers. -/
inductive Answer where
  | element (v : Option Value)
  | tail (v : Option Value)
  | count (n : Nat)
  | restarted

/-- Answers one question and moves on. -/
def step (c : Cursor) : Step → Answer × Cursor
  | .next => let (v, c) := c.next; (.element v, c)
  | .tail => (.tail c.tail?, c)
  | .count => let (n, c) := c.count; (.count n, c)
  | .last => let (v, c) := c.last; (.element v, c)
  | .restart => (.restarted, c.restart)

/-- Answers the questions in order. -/
def run (c : Cursor) : List Step → List Answer
  | [] => []
  | s :: rest => let (answer, c) := c.step s; answer :: run c rest

end Cursor

end LispData
