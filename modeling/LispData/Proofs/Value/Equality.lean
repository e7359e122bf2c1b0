import LispData.Value.Equality
/-!
# Structural equality — it is being the same tree

Each kind of datum compares itself with a value, and pairs go down both trees.
The relation that comes of it holds between a value and itself and between no
two others (`equals_iff`). It is the relation `==`, which walks both trees at
once (`beq_iff`).
-/

namespace LispData

/-- A value narrows to the symbol that it is. -/
theorem Value.asSymbol?_eq_some_iff {v : Value} {s : Symbol} :
    v.asSymbol? = some s ↔ v = .atom (.symbol s) := by
  cases v with
  | pair a d => simp [asSymbol?]
  | atom a => cases a <;> simp [asSymbol?]

/-- A value narrows to the number that it is. -/
theorem Value.asNumber?_eq_some_iff {v : Value} {n : Number} :
    v.asNumber? = some n ↔ v = .atom (.number n) := by
  cases v with
  | pair a d => simp [asNumber?]
  | atom a => cases a <;> simp [asNumber?]

/-- A value narrows to the text that it is. -/
theorem Value.asText?_eq_some_iff {v : Value} {t : Text} :
    v.asText? = some t ↔ v = .atom (.text t) := by
  cases v with
  | pair a d => simp [asText?]
  | atom a => cases a <;> simp [asText?]

/-- A symbol equals itself alone. -/
theorem Symbol.equals_iff (s : Symbol) (v : Value) :
    s.equals v = true ↔ v = .atom (.symbol s) := by
  rw [← Value.asSymbol?_eq_some_iff, equals]
  split
  · next t ht => rw [ht, beq_iff_eq, Option.some.injEq, Symbol.ext_iff, eq_comm]
  · next hnone => simp [hnone]

/-- A number equals itself alone. -/
theorem Number.equals_iff (n : Number) (v : Value) :
    n.equals v = true ↔ v = .atom (.number n) := by
  rw [← Value.asNumber?_eq_some_iff, equals]
  split
  · next m hm => rw [hm, beq_iff_eq, Option.some.injEq, Number.ext_iff, eq_comm]
  · next hnone => simp [hnone]

/-- A text equals itself alone. -/
theorem Text.equals_iff (t : Text) (v : Value) :
    t.equals v = true ↔ v = .atom (.text t) := by
  rw [← Value.asText?_eq_some_iff, equals]
  split
  · next u hu => rw [hu, beq_iff_eq, Option.some.injEq, Text.ext_iff, eq_comm]
  · next hnone => simp [hnone]

/-- An atom equals itself alone. -/
theorem Atom.equals_iff (a : Atom) (v : Value) : a.equals v = true ↔ v = .atom a := by
  cases a with
  | symbol s => exact s.equals_iff v
  | number n => exact n.equals_iff v
  | text t => exact t.equals_iff v
  | boolean b =>
    cases v with
    | pair c e => simp [equals]
    | atom c =>
      cases c with
      | boolean c => rw [equals, beq_iff_eq, Value.atom.injEq, boolean.injEq, eq_comm]
      | _ => simp [equals]
  | empty =>
    cases v with
    | pair b e => simp [equals, Value.hasKind, Value.kind]
    | atom b => cases b <;> simp [equals, Value.hasKind, Value.kind, Atom.kind]
  | void =>
    cases v with
    | pair b e => simp [equals, Value.hasKind, Value.kind]
    | atom b => cases b <;> simp [equals, Value.hasKind, Value.kind, Atom.kind]

/-- Values are identified by `==` when they are the same tree. -/
theorem Value.beq_iff (v w : Value) : (v == w) = true ↔ v = w := by
  induction v generalizing w with
  | atom a =>
    cases w with
    | atom b =>
      show (a == b) = true ↔ _
      rw [beq_iff_eq, atom.injEq]
    | pair b e => exact ⟨fun h => Bool.noConfusion h, fun h => Value.noConfusion h⟩
  | pair a d iha ihd =>
    cases w with
    | atom b => exact ⟨fun h => Bool.noConfusion h, fun h => Value.noConfusion h⟩
    | pair b e =>
      show (a == b && d == e) = true ↔ _
      rw [Bool.and_eq_true, iha, ihd, pair.injEq]

instance : LawfulBEq Value where
  eq_of_beq := (Value.beq_iff _ _).1
  rfl := (Value.beq_iff _ _).2 rfl

/-- **Structural equality is being the same tree.** -/
theorem Value.equals_iff (v w : Value) : v.equals w = true ↔ v = w := by
  -- by induction on the tree that decides, for any tree it is compared with
  induction v generalizing w with
  | atom a => rw [equals, Atom.equals_iff, eq_comm]
  | pair a d iha ihd =>
    cases w with
    | atom b => simp [equals]
    | pair b e => rw [equals, Bool.and_eq_true, iha, ihd, pair.injEq]

end LispData
