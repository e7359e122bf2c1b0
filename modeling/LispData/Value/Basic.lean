/-!
# Values — the data of a small Lisp

A value is an atom or a pair. Atoms are symbols, numbers of sixty-four bits,
texts, booleans, the empty list and void. A list is a chain of pairs; its
elements are the heads along the chain and its ending is the atom where the
chain stops, so that a chain is a proper list exactly when it ends in the empty
list. Consing elements onto a tail and walking them again are inverse to each
other (`listOnto_elements`, `elements_listOnto`).
-/

namespace LispData

/-- A symbol: a name, which need not be one that can be read back. -/
@[ext] structure Symbol where
  name : String
  deriving DecidableEq

/-- A number: a signed integer of sixty-four bits. -/
@[ext] structure Number where
  val : Int64
  deriving DecidableEq

/-- A text: a string of characters, as data. -/
@[ext] structure Text where
  content : String
  deriving DecidableEq

/-- A value that is not a pair. -/
inductive Atom where
  | symbol (s : Symbol)
  | number (n : Number)
  | text (t : Text)
  | boolean (b : Bool)
  | empty
  | void
  deriving DecidableEq

/-- **A value**: an atom or a pair of values. Two values are identified by `==`
when they are the same tree. -/
inductive Value where
  | atom (a : Atom)
  | pair (car cdr : Value)
  deriving BEq

instance : Inhabited Value := ⟨.atom .void⟩

/-- A pair on its own, known to be one. -/
structure Pair where
  car : Value
  cdr : Value

namespace Value

/-- The symbol of a given name. -/
@[match_pattern] abbrev symbol (name : String) : Value := .atom (.symbol ⟨name⟩)

/-- The number of a given integer. -/
@[match_pattern] abbrev number (n : Int64) : Value := .atom (.number ⟨n⟩)

/-- The text of given characters. -/
@[match_pattern] abbrev text (s : String) : Value := .atom (.text ⟨s⟩)

/-- A truth value. -/
@[match_pattern] abbrev boolean (b : Bool) : Value := .atom (.boolean b)

/-- The empty list. -/
@[match_pattern] abbrev empty : Value := .atom .empty

/-- The value that stands for no value of interest. -/
@[match_pattern] abbrev void : Value := .atom .void

/-- The elements of `xs`, in order, put in front of `tail`. -/
def listOnto (xs : List Value) (tail : Value) : Value :=
  xs.foldr .pair tail

/-- The proper list of the elements `xs`. -/
def list (xs : List Value) : Value :=
  listOnto xs .empty

/-- Appends the elements along a chain to `found`. -/
def elementsInto (found : Array Value) : Value → Array Value
  | .pair a d => elementsInto (found.push a) d
  | .atom _ => found

/-- The heads along the chain of pairs that starts here; none for an atom. -/
def elements (v : Value) : List Value :=
  (elementsInto #[] v).toList

/-- The atom at which the chain of pairs that starts here stops. -/
def ending : Value → Atom
  | .pair _ d => ending d
  | .atom a => a

/-- Replaces each atom, at every depth, by its image under `f`. -/
def mapAtoms (f : Atom → Atom) : Value → Value
  | .atom a => .atom (f a)
  | .pair a d => .pair (mapAtoms f a) (mapAtoms f d)

/-- Whether every atom, at every depth, satisfies `p`. -/
def AllAtoms (p : Atom → Prop) : Value → Prop
  | .atom a => p a
  | .pair a d => AllAtoms p a ∧ AllAtoms p d

/-! ## Atoms -/

/-- What holds of any atom holds of all atoms of a value. -/
theorem AllAtoms.of_forall {p : Atom → Prop} (h : ∀ a, p a) (v : Value) : v.AllAtoms p := by
  induction v with
  | atom a => exact h a
  | pair a d iha ihd => exact ⟨iha, ihd⟩

/-- What holds of every atom holds if something stronger does. -/
theorem AllAtoms.imp {p q : Atom → Prop} (h : ∀ a, p a → q a) {v : Value} (hv : v.AllAtoms p) :
    v.AllAtoms q := by
  induction v with
  | atom a => exact h a hv
  | pair a d iha ihd => exact ⟨iha hv.1, ihd hv.2⟩

/-- Replacing atoms by themselves changes nothing. -/
theorem mapAtoms_eq_self {f : Atom → Atom} {v : Value} (hv : v.AllAtoms fun a => f a = a) :
    v.mapAtoms f = v := by
  induction v with
  | atom a => exact congrArg atom hv
  | pair a d iha ihd => rw [mapAtoms, iha hv.1, ihd hv.2]

/-! ## Chains -/

/-- What was found before stays in front. -/
theorem elementsInto_eq_append (found : Array Value) (v : Value) :
    elementsInto found v = found ++ elementsInto #[] v := by
  induction v generalizing found with
  | atom a => simp [elementsInto]
  | pair a d _ ih =>
    rw [elementsInto, ih, elementsInto, ih (#[].push a)]
    simp

@[simp] theorem elements_atom (a : Atom) : (Value.atom a).elements = [] := rfl

@[simp] theorem elements_pair (a d : Value) : (Value.pair a d).elements = a :: d.elements := by
  rw [elements, elementsInto, elementsInto_eq_append]
  simp [elements]

@[simp] theorem ending_atom (a : Atom) : (Value.atom a).ending = a := rfl

@[simp] theorem ending_pair (a d : Value) : (Value.pair a d).ending = d.ending := rfl

@[simp] theorem listOnto_nil (tail : Value) : listOnto [] tail = tail := rfl

@[simp] theorem listOnto_cons (x : Value) (xs : List Value) (tail : Value) :
    listOnto (x :: xs) tail = .pair x (listOnto xs tail) := rfl

/-- **A value is its elements in front of its ending.** -/
theorem listOnto_elements (v : Value) : listOnto v.elements (.atom v.ending) = v := by
  induction v with
  | atom a => rfl
  | pair a d _ ih => simp [ih]

/-- **The elements of a built list** are those it was built from, followed by
those of the tail. -/
theorem elements_listOnto (xs : List Value) (tail : Value) :
    (listOnto xs tail).elements = xs ++ tail.elements := by
  induction xs with
  | nil => rfl
  | cons x xs ih => simp [ih]

/-- A built list ends where its tail does. -/
theorem ending_listOnto (xs : List Value) (tail : Value) :
    (listOnto xs tail).ending = tail.ending := by
  induction xs with
  | nil => rfl
  | cons x xs ih => simp [ih]

end Value

namespace Pair

/-- The pair as a value. -/
def toValue (p : Pair) : Value :=
  .pair p.car p.cdr

/-- The elements of the list that starts with this pair; there is at least one. -/
def elements (p : Pair) : List Value :=
  p.toValue.elements

/-- The atom that an improper list ends in; absent when the list is proper. -/
def tail? (p : Pair) : Option Value :=
  match p.cdr.ending with
  | .empty => none
  | a => some (.atom a)

/-- Whether the list that starts with this pair is proper. -/
def isList (p : Pair) : Bool :=
  p.cdr.ending == .empty

end Pair

end LispData
