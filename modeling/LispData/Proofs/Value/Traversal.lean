import LispData.Value.Cursor
import LispData.Value.Kind
/-!
# Traversals — a cursor in two parts

What a cursor keeps as one value, a traversal keeps in two parts: the pair whose
element comes next, and the ending once it has been met. Both are settled when
an element is given, by one look at what follows it (`Traversal.next`); counting
and finding the last element go on from there in a loop (`Traversal.fold`). The
parts are told by what a cursor has left (`Cursor.parts`), a step keeps them so
and answers alike (`Cursor.parts_step`), and so does a whole run
(`Cursor.parts_run`).
-/

namespace LispData

/-- A walk along the list that starts with `source`, in two parts. -/
structure Traversal where
  source : Pair
  /-- The pair whose element comes next; absent once the last has been given. -/
  coming : Option Pair
  /-- The ending of an improper list, once it has been met. -/
  met : Option Value

namespace Traversal

/-- A traversal before the first element. -/
def start (p : Pair) : Traversal :=
  ⟨p, some p, none⟩

/-- Gives the next element and looks at what follows it: a pair comes next, the
empty list ends the walk, and any other atom is the ending that was met. -/
def next (t : Traversal) : Option Value × Traversal :=
  match t.coming with
  | none => (none, t)
  | some p =>
    (some p.car,
      match p.cdr with
      | .pair a d => { t with coming := some ⟨a, d⟩ }
      | .empty => { t with coming := none }
      | .atom a => { t with coming := none, met := some (.atom a) })

/-- How many elements are left. -/
def left (t : Traversal) : Nat :=
  match t.coming with
  | none => 0
  | some p => p.elements.length

/-- Giving an element leaves fewer. -/
theorem left_lt_of_next {t t' : Traversal} {x : Value} (h : t.next = (some x, t')) :
    t'.left < t.left := by
  obtain ⟨source, coming, met⟩ := t
  cases coming with
  | none => cases h
  | some p =>
    obtain ⟨car, cdr⟩ := p
    have hleft : left ⟨source, some ⟨car, cdr⟩, met⟩ = cdr.elements.length + 1 := by
      show (Pair.mk car cdr).elements.length = _
      rw [Pair.elements, Pair.toValue, Value.elements_pair, List.length_cons]
    rw [hleft]
    cases cdr with
    | pair a d =>
      cases h
      exact Nat.lt_succ_self _
    | atom a => cases a <;> cases h <;> exact Nat.succ_pos _

/-- **Goes on to the end**, taking up each element with `f`. -/
def fold {σ : Type} (f : σ → Value → σ) (s : σ) (t : Traversal) : σ × Traversal :=
  match _h : t.next with
  | (none, t') => (s, t')
  | (some x, t') => t'.fold f (f s x)
termination_by t.left
decreasing_by exact left_lt_of_next _h

/-- Answers one question and moves on. -/
def step (t : Traversal) : Cursor.Step → Cursor.Answer × Traversal
  | .next => let (v, t) := t.next; (.element v, t)
  | .tail => (.tail t.met, t)
  | .count => let (n, t) := t.fold (fun n _ => n + 1) 0; (.count n, t)
  | .last => let (v, t) := t.fold (fun _ x => some x) none; (.element v, t)
  | .restart => (.restarted, start t.source)

/-- Answers the questions in order. -/
def run (t : Traversal) : List Cursor.Step → List Cursor.Answer
  | [] => []
  | s :: rest => let (answer, t) := t.step s; answer :: run t rest

/-- The traversal after the questions. -/
def after (t : Traversal) (steps : List Cursor.Step) : Traversal :=
  steps.foldl (fun t s => (t.step s).2) t

end Traversal

namespace Cursor

/-- The cursor after the questions. -/
def after (c : Cursor) (steps : List Step) : Cursor :=
  steps.foldl (fun c s => (c.step s).2) c

/-- **The two parts of a cursor**: the pair it stands at, if any, and the ending
it shows. -/
def parts (c : Cursor) : Traversal :=
  ⟨c.source, c.rest.asPair?, c.tail?⟩

theorem parts_start (p : Pair) : (start p).parts = Traversal.start p := rfl

/-- **Giving an element keeps the parts together**: what follows it is what the
cursor has left. -/
theorem parts_next (c : Cursor) : c.parts.next = (c.next.1, c.next.2.parts) := by
  obtain ⟨source, rest⟩ := c
  cases rest with
  | atom a => rfl
  | pair a d =>
    cases d with
    | pair b e => rfl
    | atom b => cases b <;> rfl

/-- Going on to the end takes up the elements that are left, in order, and comes
to the cursor behind the last. -/
theorem parts_fold {σ : Type} (f : σ → Value → σ) (s : σ) (c : Cursor) :
    c.parts.fold f s = (c.rest.elements.foldl f s, c.finish.parts) := by
  obtain ⟨source, rest⟩ := c
  -- by induction on what is left, for anything taken up before
  induction rest generalizing s with
  | atom a =>
    rw [Traversal.fold]
    rfl
  | pair a d _ ih =>
    have hnext : (Cursor.mk source (.pair a d)).parts.next =
        (some a, (Cursor.mk source d).parts) := parts_next _
    rw [Traversal.fold]
    split
    · next h =>
      rw [hnext] at h
      cases h
    · next x t h =>
      rw [hnext] at h
      cases h
      rw [ih, Value.elements_pair, List.foldl_cons]
      rfl

/-- Counting elements finds how many there are. -/
theorem foldl_count (xs : List Value) (n : Nat) : xs.foldl (fun n _ => n + 1) n = n + xs.length := by
  induction xs generalizing n with
  | nil => rfl
  | cons x xs ih =>
    rw [List.foldl_cons, ih, List.length_cons]
    omega

/-- Keeping each element in turn keeps the last. -/
theorem foldl_some (xs : List Value) (last : Option Value) :
    xs.foldl (fun _ x => some x) last = xs.getLast?.or last := by
  induction xs generalizing last with
  | nil => rfl
  | cons x xs ih =>
    rw [List.foldl_cons, ih, List.getLast?_cons]
    cases xs.getLast? <;> rfl

/-- **A step on the parts answers as the cursor does**, and keeps them
together. -/
theorem parts_step (c : Cursor) (s : Step) :
    c.parts.step s = ((c.step s).1, (c.step s).2.parts) := by
  cases s with
  | next =>
    rw [Traversal.step, parts_next]
    rfl
  | tail => rfl
  | count =>
    rw [Traversal.step, parts_fold, foldl_count, Nat.zero_add]
    rfl
  | last =>
    rw [Traversal.step, parts_fold, foldl_some, Option.or_none]
    rfl
  | restart => rfl

/-- **Any questions are answered alike.** -/
theorem parts_run (c : Cursor) (steps : List Step) : c.parts.run steps = c.run steps := by
  induction steps generalizing c with
  | nil => rfl
  | cons s steps ih =>
    have hstep := parts_step c s
    rw [Traversal.run, run, hstep]
    exact congrArg (_ :: ·) (ih _)

/-- The parts stay together after any questions. -/
theorem parts_after (c : Cursor) (steps : List Step) :
    c.parts.after steps = (c.after steps).parts := by
  induction steps generalizing c with
  | nil => rfl
  | cons s steps ih =>
    have hstep : (c.parts.step s).2 = (c.step s).2.parts := by rw [parts_step]
    rw [Traversal.after, List.foldl_cons, hstep]
    exact ih _

end Cursor

end LispData
