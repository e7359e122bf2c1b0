import LispData.Value.Hash
/-!
# Hash marks — the steps of a hash stream

Behind the bytes of a stream stands a sequence of marks: an atom, the start of a
list, the end of a proper list, the atom an improper list ends in. The stream is
the bytes of the marks, one after the other (`hashBytes_eq_stream`). The marks
of a value tell the value, and where it stops (`marks_append_inj`), so whatever
a stream confuses is confused in the step from marks to bytes.
-/

namespace LispData

/-! ## Spelling the items of a walk -/

/-- The shape that emits the spelling of each item. -/
def Shape.spelt {β γ : Type} (sh : Shape β) (spell : β → List γ) : Shape γ where
  atom a := (sh.atom a).flatMap spell
  enter := sh.enter.flatMap spell
  next := sh.next.flatMap spell
  proper := sh.proper.flatMap spell
  dotted a := (sh.dotted a).flatMap spell
  leave := sh.leave.flatMap spell

namespace Value

mutual

/-- **Spelling commutes with the walk**: what a value emits is spelt item by
item. -/
theorem flatten_spelt {β γ : Type} (sh : Shape β) (spell : β → List γ) (v : Value) :
    flatten (sh.spelt spell) v = (flatten sh v).flatMap spell := by
  cases v with
  | atom a => rw [flatten, flatten]; rfl
  | pair a d =>
    rw [flatten, flatten, flatten_spelt sh spell a, flattenRest_spelt sh spell d]
    simp only [List.flatMap_append]
    rfl

/-- The same for what a chain emits after an element. -/
theorem flattenRest_spelt {β γ : Type} (sh : Shape β) (spell : β → List γ) (v : Value) :
    flattenRest (sh.spelt spell) v = (flattenRest sh v).flatMap spell := by
  cases v with
  | atom a =>
    by_cases ha : a = .empty
    · subst ha
      rw [flattenRest, flattenRest]
      rfl
    · rw [flattenRest, flattenRest]
      · rfl
      · exact ha
      · exact ha
  | pair a d =>
    rw [flattenRest, flattenRest, flatten_spelt sh spell a, flattenRest_spelt sh spell d]
    simp only [List.flatMap_append]
    rfl

end

end Value

/-! ## Marks -/

/-- A step of a hash stream. -/
inductive Mark where
  /-- An atom that is the value itself or an element. -/
  | atom (a : Atom)
  /-- The start of a list. -/
  | enter
  /-- The end of a proper list. -/
  | close
  /-- The end of an improper list, with the atom it ends in. -/
  | dotted (a : Atom)

namespace Mark

/-- The bytes of a mark. -/
def bytes : Mark → List UInt8
  | .atom a => a.hashBytes
  | .enter => wordBytes Kind.pair.tag
  | .close => wordBytes 0
  | .dotted a => wordBytes 1 ++ a.hashBytes

/-- Whether a mark ends a list. -/
def isEnding : Mark → Bool
  | .close => true
  | .dotted _ => true
  | _ => false

end Mark

/-- The bytes of marks, one after the other. -/
def stream (ms : List Mark) : List UInt8 :=
  ms.flatMap Mark.bytes

@[simp] theorem stream_nil : stream [] = [] := rfl

@[simp] theorem stream_cons (m : Mark) (ms : List Mark) :
    stream (m :: ms) = m.bytes ++ stream ms :=
  List.flatMap_cons

@[simp] theorem stream_append (ms ms' : List Mark) :
    stream (ms ++ ms') = stream ms ++ stream ms' :=
  List.flatMap_append

/-- The marks that a walk through a value passes. -/
def markShape : Shape Mark where
  atom a := [.atom a]
  enter := [.enter]
  next := []
  proper := [.close]
  dotted a := [.dotted a]
  leave := []

namespace Value

/-- The marks of a value. -/
def marks (v : Value) : List Mark :=
  flatten markShape v

/-- The marks of a chain behind one of its elements. -/
def restMarks (v : Value) : List Mark :=
  flattenRest markShape v

/-- **The stream of a value is the bytes of its marks.** -/
theorem hashBytes_eq_stream (v : Value) : v.hashBytes = stream v.marks := by
  have hshape : hashStream = markShape.spelt Mark.bytes := by
    simp [hashStream, Shape.spelt, markShape, Mark.bytes]
  rw [hashBytes_eq_flatten, hshape, flatten_spelt]
  rfl

@[simp] theorem marks_atom (a : Atom) : (Value.atom a).marks = [.atom a] := by
  rw [marks, flatten]
  rfl

@[simp] theorem marks_pair (a d : Value) :
    (Value.pair a d).marks = .enter :: (a.marks ++ d.restMarks) := by
  rw [marks, flatten, marks, restMarks]
  simp [markShape]

@[simp] theorem restMarks_empty : Value.empty.restMarks = [.close] := by
  rw [restMarks, flattenRest]
  rfl

@[simp] theorem restMarks_atom {a : Atom} (h : a ≠ .empty) :
    (Value.atom a).restMarks = [.dotted a] := by
  rw [restMarks, flattenRest]
  · rfl
  · exact h

@[simp] theorem restMarks_pair (a d : Value) :
    (Value.pair a d).restMarks = a.marks ++ d.restMarks := by
  rw [restMarks, flattenRest, marks, restMarks]
  simp [markShape]

/-! ## Marks tell the value -/

/-- The marks of a value start no ending. -/
theorem marks_append_ne {v : Value} {k k' : List Mark} {m : Mark} (hm : m.isEnding = true) :
    v.marks ++ k ≠ m :: k' := by
  intro h
  cases v with
  | atom a =>
    rw [marks_atom] at h
    obtain ⟨rfl, -⟩ := List.cons.inj h
    cases hm
  | pair a d =>
    rw [marks_pair] at h
    obtain ⟨rfl, -⟩ := List.cons.inj h
    cases hm

/-- The mark of an ending atom. -/
theorem exists_restMarks_atom (a : Atom) :
    ∃ m : Mark, m.isEnding = true ∧ (Value.atom a).restMarks = [m] := by
  by_cases ha : a = .empty
  · subst ha
    exact ⟨.close, rfl, restMarks_empty⟩
  · exact ⟨.dotted a, rfl, restMarks_atom ha⟩

/-- The mark of an ending tells the atom. -/
theorem restMarks_atom_inj {a b : Atom} (h : (Value.atom a).restMarks = (Value.atom b).restMarks) :
    a = b := by
  by_cases ha : a = .empty <;> by_cases hb : b = .empty
  · rw [ha, hb]
  · rw [ha, restMarks_empty, restMarks_atom hb] at h
    cases h
  · rw [hb, restMarks_empty, restMarks_atom ha] at h
    cases h
  · rw [restMarks_atom ha, restMarks_atom hb] at h
    cases h
    rfl

mutual

/-- **The marks of a value tell the value**, and where it stops. -/
theorem marks_append_inj (v w : Value) {k k' : List Mark} (h : v.marks ++ k = w.marks ++ k') :
    v = w ∧ k = k' := by
  cases v with
  | atom a =>
    cases w with
    | atom b =>
      rw [marks_atom, marks_atom] at h
      obtain ⟨hmark, hrest⟩ := List.cons.inj h
      rw [Mark.atom.inj hmark]
      exact ⟨rfl, hrest⟩
    | pair b e =>
      rw [marks_atom, marks_pair] at h
      cases (List.cons.inj h).1
  | pair a d =>
    cases w with
    | atom b =>
      rw [marks_atom, marks_pair] at h
      cases (List.cons.inj h).1
    | pair b e =>
      rw [marks_pair, marks_pair, List.cons_append, List.cons_append, List.cons.injEq,
        List.append_assoc, List.append_assoc] at h
      obtain ⟨hcar, hcdr⟩ := marks_append_inj a b h.2
      obtain ⟨hrest, hk⟩ := restMarks_append_inj d e hcdr
      rw [hcar, hrest]
      exact ⟨rfl, hk⟩

/-- The same behind an element. -/
theorem restMarks_append_inj (d e : Value) {k k' : List Mark}
    (h : d.restMarks ++ k = e.restMarks ++ k') : d = e ∧ k = k' := by
  cases d with
  | atom a =>
    obtain ⟨m, hm, ha⟩ := exists_restMarks_atom a
    cases e with
    | atom b =>
      obtain ⟨m', -, hb⟩ := exists_restMarks_atom b
      rw [ha, hb] at h
      obtain ⟨hmark, hrest⟩ := List.cons.inj h
      have hab : a = b := restMarks_atom_inj (by rw [ha, hb, hmark])
      rw [hab]
      exact ⟨rfl, hrest⟩
    | pair b e =>
      -- an element of the other chain would start with the mark of an ending
      rw [ha, restMarks_pair, List.append_assoc] at h
      exact absurd h.symm (marks_append_ne hm)
  | pair a d =>
    cases e with
    | atom b =>
      obtain ⟨m, hm, hb⟩ := exists_restMarks_atom b
      rw [hb, restMarks_pair, List.append_assoc] at h
      exact absurd h (marks_append_ne hm)
    | pair b e =>
      rw [restMarks_pair, restMarks_pair, List.append_assoc, List.append_assoc] at h
      obtain ⟨hcar, hcdr⟩ := marks_append_inj a b h
      obtain ⟨hrest, hk⟩ := restMarks_append_inj d e hcdr
      rw [hcar, hrest]
      exact ⟨rfl, hk⟩

end

theorem marks_injective {v w : Value} (h : v.marks = w.marks) : v = w := by
  have hnil : v.marks ++ [] = w.marks ++ [] := by rw [h]
  exact (marks_append_inj v w hnil).1

end Value

end LispData
