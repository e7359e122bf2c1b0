import LispData.Value.Basic
/-!
# Walks — a value laid out in one pass

Texts, diagnostics and hash streams all go through a value in the same order: a
list opens, its elements follow each other, it ends well or in an atom, and it
closes. A `Shape` says what is emitted at each of these points; `flatten` is the
sequence a whole value gives; `walk` hands the same sequence to a consumer
without building it, going along a chain of any length in a loop. The one law
is `walk_eq_foldl`.
-/

namespace LispData

/-- **What is emitted at each point of a walk** through a value. -/
structure Shape (β : Type) where
  /-- For an atom that is the value itself or an element. -/
  atom : Atom → List β
  /-- Before the first element of a chain. -/
  enter : List β
  /-- Before each further element. -/
  next : List β
  /-- After the last element of a proper list. -/
  proper : List β
  /-- After the last element of an improper list, for the atom it ends in. -/
  dotted : Atom → List β
  /-- At the end of a chain. -/
  leave : List β

namespace Value

variable {β σ : Type}

mutual

/-- What a value emits, in order. -/
def flatten (sh : Shape β) : Value → List β
  | .atom a => sh.atom a
  | .pair a d => sh.enter ++ flatten sh a ++ flattenRest sh d ++ sh.leave

/-- What a chain emits after one of its elements, up to its ending. -/
def flattenRest (sh : Shape β) : Value → List β
  | .atom .empty => sh.proper
  | .atom a => sh.dotted a
  | .pair a d => sh.next ++ flatten sh a ++ flattenRest sh d

end

mutual

/-- Hands what a value emits to `put`, starting from `s`. -/
def walk (sh : Shape β) (put : σ → β → σ) (s : σ) : Value → σ
  | .atom a => (sh.atom a).foldl put s
  | .pair a d => sh.leave.foldl put (walkRest sh put (walk sh put (sh.enter.foldl put s) a) d)

/-- Hands what a chain emits after one of its elements to `put`. -/
def walkRest (sh : Shape β) (put : σ → β → σ) (s : σ) : Value → σ
  | .atom .empty => sh.proper.foldl put s
  | .atom a => (sh.dotted a).foldl put s
  | .pair a d => walkRest sh put (walk sh put (sh.next.foldl put s) a) d

end

mutual

/-- **A walk consumes the flattened value**, one item after the other. -/
theorem walk_eq_foldl (sh : Shape β) (put : σ → β → σ) (s : σ) (v : Value) :
    walk sh put s v = (flatten sh v).foldl put s := by
  cases v with
  | atom a => simp [walk, flatten]
  | pair a d =>
    simp [walk, flatten, walk_eq_foldl sh put _ a, walkRest_eq_foldl sh put _ d]

/-- The rest of a chain is consumed in the same way. -/
theorem walkRest_eq_foldl (sh : Shape β) (put : σ → β → σ) (s : σ) (v : Value) :
    walkRest sh put s v = (flattenRest sh v).foldl put s := by
  cases v with
  | atom a => cases a <;> simp [walkRest, flattenRest]
  | pair a d =>
    simp [walkRest, flattenRest, walk_eq_foldl sh put _ a, walkRest_eq_foldl sh put _ d]

end

/-- A walk into an array appends the flattened value to it. -/
theorem toList_walk_push (sh : Shape β) (found : Array β) (v : Value) :
    (walk sh Array.push found v).toList = found.toList ++ flatten sh v := by
  rw [walk_eq_foldl, List.foldl_push_eq_append]
  simp

end Value

/-- Hands to `put` what the elements and the ending of a pair emit, without what
opens and closes a list. -/
def Pair.walkInside {β σ : Type} (sh : Shape β) (put : σ → β → σ) (s : σ) (p : Pair) : σ :=
  p.cdr.walkRest sh put (p.car.walk sh put s)

end LispData
