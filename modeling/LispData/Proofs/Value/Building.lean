import LispData.Proofs.Value.Equality
import LispData.Proofs.Value.Traversal
/-!
# Building — lists put together and taken apart

A walk to the end of a list takes it apart into the elements it gives and the
ending it meets (`Pair.takenApart`). Consing the elements onto that ending puts
the list together again, and what was put together of elements and a tail is
taken apart into them; a tail that is a pair goes on with elements and an ending
of its own (`Pair.build_takenApart`).
-/

namespace LispData

namespace Pair

/-- **A list taken apart** by a walk to its end: the elements given, in order,
and the ending met. -/
def takenApart (p : Pair) : List Value × Option Value :=
  let (given, t) := (Traversal.start p).fold Array.push #[]
  (given.toList, t.met)

/-- An improper list has its ending as its tail. -/
theorem tail?_eq (p : Pair) :
    p.tail? = if p.cdr.ending = .empty then none else some (.atom p.cdr.ending) := by
  rw [tail?]
  split
  · next hempty => rw [if_pos hempty]
  · next hnone => rw [if_neg fun hempty => hnone hempty]

/-- The tail of a list is that of what follows its first element, if that is a
pair. -/
theorem tail?_mk_pair (x a d : Value) : (Pair.mk x (.pair a d)).tail? = (Pair.mk a d).tail? := rfl

/-- A list built onto a tail has the tail that the tail alone would give. -/
theorem tail?_mk_listOnto (x : Value) (xs : List Value) (t : Value) :
    (Pair.mk x (Value.listOnto xs t)).tail? = (Pair.mk x t).tail? := by
  simp only [tail?_eq, Value.ending_listOnto]

/-- **The walk finds the elements and the tail** of the list. -/
theorem takenApart_eq (p : Pair) : p.takenApart = (p.elements, p.tail?) := by
  have hfold : (Traversal.start p).fold Array.push #[] =
      (p.elements.foldl Array.push #[], (Cursor.start p).finish.parts) :=
    Cursor.parts_fold Array.push #[] (Cursor.start p)
  have hgiven : (p.elements.foldl Array.push #[]).toList = p.elements := by
    rw [List.foldl_push_eq_append]
    simp
  have hmet : (Cursor.start p).finish.parts.met = p.tail? := by
    have hending : (Cursor.start p).rest.ending = p.cdr.ending := rfl
    rw [Cursor.parts, Cursor.finish, hending, tail?]
    cases p.cdr.ending <;> rfl
  rw [takenApart, hfold]
  exact Prod.ext hgiven hmet

/-- What the tail of a list stands for is its ending: the empty list, where there
is none. -/
theorem getD_tail? (p : Pair) : p.tail?.getD .empty = .atom p.cdr.ending := by
  rw [tail?_eq]
  split
  · next hempty => rw [hempty, Option.getD_none]
  · rw [Option.getD_some]

/-- **A list is proper exactly when no tail is present.** -/
theorem isList_iff (p : Pair) : p.isList = true ↔ p.tail? = none := by
  rw [isList, beq_iff_eq, tail?_eq]
  split
  · next hempty => exact ⟨fun _ => rfl, fun _ => hempty⟩
  · next hne => exact ⟨fun hempty => absurd hempty hne, fun h => by cases h⟩

/-- **A list is put together again** from its elements and its tail. -/
theorem listOnto_takenApart (p : Pair) :
    Value.listOnto p.takenApart.1 (p.takenApart.2.getD .empty) = p.toValue := by
  have hending : p.cdr.ending = p.toValue.ending := rfl
  rw [takenApart_eq, getD_tail?, hending]
  exact Value.listOnto_elements p.toValue

/-- **What is built is taken apart into what it was built from.** -/
theorem takenApart_listOnto (x : Value) (xs : List Value) (t : Value) :
    (Pair.mk x (Value.listOnto xs t)).takenApart =
      (x :: (xs ++ t.elements), (Pair.mk x t).tail?) := by
  rw [takenApart_eq, tail?_mk_listOnto, elements, toValue, Value.elements_pair,
    Value.elements_listOnto]

/-- **Building and walking are inverse.** A list that was walked is put together
again from the elements given and the ending met, and is proper exactly when no
ending was met. What is consed onto a tail, the last item first, is a pair that
is walked as the items, followed by what the tail is walked as if it is a pair,
and ended by the tail if it is another atom than the empty list. -/
theorem build_takenApart (p : Pair) (x : Value) (xs : List Value) (t : Value) :
    (p.takenApart = (p.elements, p.tail?) ∧
        (Value.listOnto p.takenApart.1 (p.takenApart.2.getD .empty)).equals p.toValue = true ∧
        (p.isList = true ↔ p.takenApart.2 = none)) ∧
      (Value.listOnto (x :: xs) t = (x :: xs).reverse.foldl (fun tail item => .pair item tail) t ∧
        Value.list (x :: xs) = Value.listOnto (x :: xs) .empty) ∧
      ∃ q : Pair, Value.listOnto (x :: xs) t = q.toValue ∧
        q.takenApart =
          match t with
          | .pair a d => (x :: xs ++ (Pair.mk a d).takenApart.1, (Pair.mk a d).takenApart.2)
          | .empty => (x :: xs, none)
          | .atom a => (x :: xs, some (.atom a)) := by
  refine ⟨⟨takenApart_eq p, ?_, ?_⟩, ⟨?_, rfl⟩, ⟨x, Value.listOnto xs t⟩, rfl, ?_⟩
  · rw [Value.equals_iff, listOnto_takenApart]
  · rw [takenApart_eq, isList_iff]
  · rw [List.foldl_reverse]
    rfl
  · rw [takenApart_listOnto]
    cases t with
    | pair a d =>
      show _ = (x :: xs ++ (Pair.mk a d).takenApart.1, (Pair.mk a d).takenApart.2)
      rw [takenApart_eq, tail?_mk_pair]
      rfl
    | atom a =>
      rw [Value.elements_atom, List.append_nil]
      cases a <;> rfl

end Pair

end LispData
