import LispData.Proofs.Value.Equality
import LispData.Value.Hash
/-!
# Identity — what a comparison of values has to find

A comparison identifies values when it holds of the same tree and of nothing
else (`Value.Identifies`). Then it is an equivalence, what it identifies is
hashed alike, and it may go along two lists in lockstep (`Value.lockstep`):
element against element and, where one list ends, what is left of the one
against what is left of the other. Lists of different lengths part there
(`Value.lockstep_iff`). Going on like this leaves no choice: what is right about
atoms and compares pairs in lockstep identifies values
(`Value.goesInLockstep_iff`). Structural equality and `==` both do
(`Value.comparisons_identify`).
-/

namespace LispData

/-- **Two chains in lockstep**: the elements at each place are compared by
`same`, and where not both chains go on, what is left of the one with what is
left of the other. -/
def Value.lockstep (same : Value → Value → Bool) : Value → Value → Bool
  | .pair a d, .pair b e => same a b && d.lockstep same e
  | v, w => same v w

/-- Two lists in lockstep, from their first elements on. -/
def Pair.lockstep (same : Value → Value → Bool) (p q : Pair) : Bool :=
  p.toValue.lockstep same q.toValue

namespace Value

/-- **A comparison that identifies values.** -/
structure Identifies (same : Value → Value → Bool) : Prop where
  /-- It holds of the same tree and of nothing else. -/
  iff_eq : ∀ v w, same v w = true ↔ v = w
  /-- It is an equivalence. -/
  equivalence : Equivalence fun v w => same v w = true
  /-- It asks for the same elements, as many on both sides, and the same ending. -/
  iff_elements : ∀ v w, same v w = true ↔ v.elements = w.elements ∧ v.ending = w.ending
  /-- It compares pairs in lockstep. -/
  pair_eq_lockstep : ∀ p q : Pair, same p.toValue q.toValue = p.lockstep same q
  /-- What it identifies is hashed alike, whatever was hashed before. -/
  hashInto_eq : ∀ v w, same v w = true → ∀ buffer, v.hashInto buffer = w.hashInto buffer

/-- **A comparison that goes in lockstep**: it is right where an atom stands on
either side, and goes along two pairs element by element. -/
structure GoesInLockstep (same : Value → Value → Bool) : Prop where
  atom_left : ∀ a w, same (.atom a) w = true ↔ .atom a = w
  atom_right : ∀ v b, same v (.atom b) = true ↔ v = .atom b
  pair_eq : ∀ p q : Pair, same p.toValue q.toValue = p.lockstep same q

/-- A value is told by its elements and its ending. -/
theorem eq_iff_elements {v w : Value} : v = w ↔ v.elements = w.elements ∧ v.ending = w.ending := by
  constructor
  · rintro rfl
    exact ⟨rfl, rfl⟩
  · rintro ⟨helements, hending⟩
    rw [← listOnto_elements v, helements, hending, listOnto_elements]

variable {same : Value → Value → Bool}

/-- **The walk finds what its comparison finds**, if that is the same tree. -/
theorem lockstep_iff (hsame : ∀ v w, same v w = true ↔ v = w) (v w : Value) :
    v.lockstep same w = true ↔ v = w := by
  -- by induction on one chain, for every other
  induction v generalizing w with
  | atom a => exact hsame (.atom a) w
  | pair a d _ ih =>
    cases w with
    | atom b => exact hsame (.pair a d) (.atom b)
    | pair b e => rw [lockstep, Bool.and_eq_true, hsame, ih, pair.injEq]

/-- All that is asked follows from finding the same tree. -/
theorem Identifies.of_iff_eq (hsame : ∀ v w, same v w = true ↔ v = w) : Identifies same where
  iff_eq := hsame
  equivalence :=
    { refl := fun v => (hsame v v).2 rfl
      symm := fun {v w} h => (hsame w v).2 ((hsame v w).1 h).symm
      trans := fun {u v w} huv hvw => (hsame u w).2 (((hsame u v).1 huv).trans ((hsame v w).1 hvw)) }
  iff_elements v w := by rw [hsame, eq_iff_elements]
  pair_eq_lockstep p q := by
    rw [Bool.eq_iff_iff, hsame, Pair.lockstep, lockstep_iff hsame]
  hashInto_eq v w h buffer := by rw [(hsame v w).1 h]

/-- What goes in lockstep is its own walk, where an atom stands too. -/
theorem GoesInLockstep.eq_lockstep (h : GoesInLockstep same) (v w : Value) :
    same v w = v.lockstep same w := by
  cases v with
  | atom a => rfl
  | pair a d =>
    cases w with
    | atom b => rfl
    | pair b e => exact h.pair_eq ⟨a, d⟩ ⟨b, e⟩

/-- What goes in lockstep finds the same tree. -/
theorem GoesInLockstep.iff_eq (h : GoesInLockstep same) (v w : Value) :
    same v w = true ↔ v = w := by
  induction v generalizing w with
  | atom a => exact h.atom_left a w
  | pair a d iha ihd =>
    cases w with
    | atom b => exact h.atom_right (.pair a d) b
    | pair b e =>
      -- one round of the walk; what is left of both is compared like any two values
      rw [h.eq_lockstep, lockstep, ← h.eq_lockstep, Bool.and_eq_true, iha, ihd, pair.injEq]

/-- **What goes in lockstep identifies values**, and nothing else does. -/
theorem goesInLockstep_iff : GoesInLockstep same ↔ Identifies same := by
  constructor
  · exact fun h => .of_iff_eq h.iff_eq
  · intro h
    exact ⟨fun a w => h.iff_eq (.atom a) w, fun v b => h.iff_eq v (.atom b), h.pair_eq_lockstep⟩

/-- **Structural equality and `==` both identify values**, so they agree; a pair
on its own compares itself as the value does. To be right about atoms and to go
along pairs in lockstep is to identify values. -/
theorem comparisons_identify :
    Identifies equals ∧ (Identifies fun v w => v == w) ∧
      (∀ (p : Pair) (v : Value), p.equals v = p.toValue.equals v) ∧
      ∀ same, GoesInLockstep same ↔ Identifies same := by
  refine ⟨.of_iff_eq equals_iff, .of_iff_eq beq_iff, fun p v => ?_, fun _ => goesInLockstep_iff⟩
  cases v with
  | atom b => rfl
  | pair b e => rfl

example : (symbol "a").equals (text "a") = false ∧ (list [empty]).equals empty = false := by
  decide

end Value

end LispData
