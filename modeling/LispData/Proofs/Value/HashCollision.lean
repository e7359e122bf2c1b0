import LispData.Proofs.Value.Equality
import LispData.Proofs.Value.HashBytes
import LispData.Proofs.Value.HashMarks
/-!
# Hash collisions — where streams go apart and still agree

A word in front of an ending says whether an atom follows, and a word in front
of an element says of which kind it is. The two are not told apart: the word of
a proper ending is that of a symbol, the word of an improper ending is that of a
number (`bytes_append_eq_iff`). A stream that confuses one mark for another goes
on with other bytes, and may or may not catch up. By induction on the marks, two
streams agree exactly when the marks do or when they go apart at such a
confusion (`stream_eq_iff`); so unequal values have one stream exactly when their
marks go apart. Every list that ends in the number zero collides with the list
that has the element one instead (`hashBytes_listOnto_zero`).
-/

namespace LispData

/-! ## One mark -/

/-- **What makes two marks look alike**, in front of the bytes `k` and `k'`. -/
inductive Confused : Mark → List UInt8 → Mark → List UInt8 → Prop
  /-- The end of a proper list starts a symbol, if a name follows it. -/
  | symbol {s : Symbol} {k k' : List UInt8} :
      k = textBytes s.name ++ k' → Confused .close k (.atom (.symbol s)) k'
  /-- The end of an improper list starts a number: that of the kind of the
  atom it ends in. -/
  | number {a : Atom} {n : Number} {k k' : List UInt8} :
      n.val = Int64.ofNat a.kind.tag → a.contentBytes ++ k = k' →
      Confused (.dotted a) k (.atom (.number n)) k'

/-- A confusion is between different marks. -/
theorem Confused.ne {m m' : Mark} {k k' : List UInt8} (h : Confused m k m' k') : m ≠ m' := by
  cases h <;> exact Mark.noConfusion

namespace Atom

/-- The atoms with the tag zero are the symbols. -/
theorem tag_eq_zero {a : Atom} (h : a.kind.tag = 0) : ∃ s, a = .symbol s := by
  cases a with
  | symbol s => exact ⟨s, rfl⟩
  | _ => cases h

/-- The atoms with the tag one are the numbers. -/
theorem tag_eq_one {a : Atom} (h : a.kind.tag = 1) : ∃ n, a = .number n := by
  cases a with
  | number n => exact ⟨n, rfl⟩
  | _ => cases h

/-- No atom has the tag of pairs. -/
theorem tag_ne_pair (a : Atom) : a.kind.tag ≠ Kind.pair.tag := by
  intro h
  have hkind := Kind.tag_injective h
  cases a <;> cases hkind

end Atom

namespace Mark

variable {m m' : Mark} {a b : Atom} {k k' : List UInt8}

/-- The number that the first word of a mark holds. -/
def tag : Mark → Nat
  | .atom a => a.kind.tag
  | .enter => Kind.pair.tag
  | .close => 0
  | .dotted _ => 1

/-- The bytes of a mark after its first word. -/
def payload : Mark → List UInt8
  | .atom a => a.contentBytes
  | .enter => []
  | .close => []
  | .dotted a => a.hashBytes

theorem bytes_eq (m : Mark) : m.bytes = wordBytes m.tag ++ m.payload := by
  cases m with
  | atom a => rfl
  | dotted a => rfl
  | enter => exact (List.append_nil _).symm
  | close => exact (List.append_nil _).symm

theorem tag_lt (m : Mark) : m.tag < 7 := by
  cases m with
  | atom a => exact Kind.tag_lt _
  | enter => exact Kind.tag_lt .pair
  | close => exact Nat.zero_lt_succ _
  | dotted a => show 1 < 7; omega

/-- No mark is without bytes. -/
theorem bytes_append_ne_nil (m : Mark) (k : List UInt8) : m.bytes ++ k ≠ [] := by
  intro h
  have hlen := congrArg List.length h
  rw [bytes_eq, List.length_append, List.length_append, length_wordBytes, List.length_nil] at hlen
  omega

/-- Marks are compared by their first words, then by what comes after these. -/
theorem bytes_append_eq : m.bytes ++ k = m'.bytes ++ k' ↔
    m.tag = m'.tag ∧ m.payload ++ k = m'.payload ++ k' := by
  rw [bytes_eq, bytes_eq, List.append_assoc, List.append_assoc]
  constructor
  · intro h
    obtain ⟨hword, hrest⟩ := List.append_inj h (by rw [length_wordBytes, length_wordBytes])
    exact ⟨wordBytes_inj m.tag_lt m'.tag_lt hword, hrest⟩
  · rintro ⟨htag, hrest⟩
    rw [htag, hrest]

/-- The end of a proper list reads like an atom if that is a symbol. -/
theorem close_append_eq_atom :
    Mark.close.bytes ++ k = (Mark.atom a).bytes ++ k' ↔ Confused .close k (.atom a) k' := by
  rw [bytes_append_eq]
  constructor
  · rintro ⟨htag, hrest⟩
    obtain ⟨s, rfl⟩ := Atom.tag_eq_zero htag.symm
    exact .symbol hrest
  · rintro ⟨hrest⟩
    exact ⟨rfl, hrest⟩

/-- The end of an improper list reads like an atom if that is a number. -/
theorem dotted_append_eq_atom :
    (Mark.dotted b).bytes ++ k = (Mark.atom a).bytes ++ k' ↔
      Confused (.dotted b) k (.atom a) k' := by
  rw [bytes_append_eq]
  constructor
  · rintro ⟨htag, hrest⟩
    obtain ⟨n, rfl⟩ := Atom.tag_eq_one htag.symm
    -- the word of the kind stands where the integer stands
    have hwords : wordBytes b.kind.tag ++ (b.contentBytes ++ k) = intBytes n.val ++ k' := by
      rw [← List.append_assoc]
      exact hrest
    obtain ⟨hint, htail⟩ := List.append_inj hwords (by rw [length_wordBytes, length_intBytes])
    exact .number ((intBytes_eq_wordBytes_iff (Kind.tag_lt _)).1 hint.symm) htail
  · intro h
    cases h with
    | @number _ n _ _ hint htail =>
      refine ⟨rfl, ?_⟩
      have hword : intBytes n.val = wordBytes b.kind.tag :=
        (intBytes_eq_wordBytes_iff (Kind.tag_lt _)).2 hint
      calc b.hashBytes ++ k
          = wordBytes b.kind.tag ++ (b.contentBytes ++ k) := List.append_assoc _ _ _
        _ = intBytes n.val ++ k' := by rw [hword, htail]

/-- Marks that are confused have the same bytes, with what follows them. -/
theorem bytes_append_eq_of_confused (h : Confused m k m' k') :
    m.bytes ++ k = m'.bytes ++ k' := by
  cases h with
  | symbol hrest => exact close_append_eq_atom.2 (.symbol hrest)
  | number hint hrest => exact dotted_append_eq_atom.2 (.number hint hrest)

/-- **The bytes of two marks, in front of others, agree** exactly when the marks
and what follows them do, or when one mark is confused for the other. -/
theorem bytes_append_eq_iff : m.bytes ++ k = m'.bytes ++ k' ↔
    (m = m' ∧ k = k') ∨ Confused m k m' k' ∨ Confused m' k' m k := by
  constructor
  · intro h
    obtain ⟨htag, hrest⟩ := bytes_append_eq.1 h
    -- different marks with one tag are an ending and an atom
    cases m with
    | atom a =>
      cases m' with
      | atom b =>
        obtain ⟨rfl, hk⟩ := Atom.hashBytes_append_inj h
        exact .inl ⟨rfl, hk⟩
      | enter => exact absurd htag a.tag_ne_pair
      | close => exact .inr (.inr (close_append_eq_atom.1 h.symm))
      | dotted b => exact .inr (.inr (dotted_append_eq_atom.1 h.symm))
    | enter =>
      cases m' with
      | atom b => exact absurd htag.symm b.tag_ne_pair
      | enter => exact .inl ⟨rfl, hrest⟩
      | close => cases htag
      | dotted b => cases htag
    | close =>
      cases m' with
      | atom b => exact .inr (.inl (close_append_eq_atom.1 h))
      | enter => cases htag
      | close => exact .inl ⟨rfl, hrest⟩
      | dotted b => cases htag
    | dotted a =>
      cases m' with
      | atom b => exact .inr (.inl (dotted_append_eq_atom.1 h))
      | enter => cases htag
      | close => cases htag
      | dotted b =>
        obtain ⟨rfl, hk⟩ := Atom.hashBytes_append_inj hrest
        exact .inl ⟨rfl, hk⟩
  · rintro (⟨rfl, rfl⟩ | h | h)
    · rfl
    · exact bytes_append_eq_of_confused h
    · exact (bytes_append_eq_of_confused h).symm

end Mark

/-! ## Many marks -/

/-- **Two sequences of marks go apart at a confusion**: after equal marks there
comes one that is confused for another. -/
def GoApart (ms ms' : List Mark) : Prop :=
  ∃ common m k m' k', ms = common ++ m :: k ∧ ms' = common ++ m' :: k' ∧
    (Confused m (stream k) m' (stream k') ∨ Confused m' (stream k') m (stream k))

/-- Sequences that go apart are different. -/
theorem GoApart.ne {ms ms' : List Mark} (h : GoApart ms ms') : ms ≠ ms' := by
  obtain ⟨common, m, k, m', k', rfl, rfl, hconfused⟩ := h
  intro heq
  have hmark := (List.cons.inj (List.append_cancel_left heq)).1
  exact hconfused.elim (fun h => h.ne hmark) (fun h => h.ne hmark.symm)

/-- Equal marks in front keep sequences going apart. -/
theorem GoApart.cons {ms ms' : List Mark} (m : Mark) (h : GoApart ms ms') :
    GoApart (m :: ms) (m :: ms') := by
  obtain ⟨common, n, k, n', k', rfl, rfl, hconfused⟩ := h
  exact ⟨m :: common, n, k, n', k', rfl, rfl, hconfused⟩

/-- **Two streams agree** exactly when the marks are the same or go apart at a
confusion. -/
theorem stream_eq_iff (ms ms' : List Mark) :
    stream ms = stream ms' ↔ ms = ms' ∨ GoApart ms ms' := by
  constructor
  · intro h
    -- by induction on the marks: as long as they agree, so do the streams behind them
    induction ms generalizing ms' with
    | nil =>
      cases ms' with
      | nil => exact .inl rfl
      | cons m' k' => exact absurd h.symm (m'.bytes_append_ne_nil _)
    | cons m k ih =>
      cases ms' with
      | nil => exact absurd h (m.bytes_append_ne_nil _)
      | cons m' k' =>
        rw [stream_cons, stream_cons, Mark.bytes_append_eq_iff] at h
        rcases h with ⟨rfl, hk⟩ | hconfused
        · rcases ih k' hk with rfl | happart
          · exact .inl rfl
          · exact .inr (happart.cons m)
        · exact .inr ⟨[], m, k, m', k', rfl, rfl, hconfused⟩
  · rintro (rfl | ⟨common, m, k, m', k', rfl, rfl, hconfused⟩)
    · rfl
    · rw [stream_append, stream_append, stream_cons, stream_cons,
        Mark.bytes_append_eq_iff.2 (.inr hconfused)]

/-! ## Values -/

namespace Value

/-- The marks of a chain behind an element, the chain being built from elements
and a tail. -/
theorem restMarks_listOnto (xs : List Value) (tail : Value) :
    (listOnto xs tail).restMarks = xs.flatMap marks ++ tail.restMarks := by
  induction xs with
  | nil => rfl
  | cons x xs ih => rw [listOnto_cons, restMarks_pair, ih, List.flatMap_cons, List.append_assoc]

/-- **Every list with the ending zero collides**, with the list that has the
element one in its place. -/
theorem hashBytes_listOnto_zero (x : Value) (xs : List Value) :
    (listOnto (x :: xs) (.number 0)).hashBytes = (list (x :: (xs ++ [.number 1]))).hashBytes := by
  have hzero : (listOnto (x :: xs) (.number 0)).marks =
      (.enter :: (x.marks ++ xs.flatMap marks)) ++ [.dotted (.number ⟨0⟩)] := by
    rw [listOnto_cons, marks_pair, restMarks_listOnto, restMarks_atom Atom.noConfusion]
    simp
  have hone : (list (x :: (xs ++ [.number 1]))).marks =
      (.enter :: (x.marks ++ xs.flatMap marks)) ++ [.atom (.number ⟨1⟩), .close] := by
    rw [list, listOnto_cons, marks_pair, restMarks_listOnto, restMarks_empty]
    simp
  -- the ending zero is confused for the element one, and its content for the end of the list
  have happart : GoApart (listOnto (x :: xs) (.number 0)).marks
      (list (x :: (xs ++ [.number 1]))).marks :=
    ⟨_, _, _, _, _, hzero, hone, .inl (.number rfl (by decide))⟩
  rw [hashBytes_eq_stream, hashBytes_eq_stream, stream_eq_iff]
  exact .inr happart

/-- **Where hashing fails to separate values**: two values are unequal and have
one stream exactly when their marks go apart at a confusion. -/
theorem hashBytes_collide_iff (v w : Value) :
    (v == w) = false ∧ v.hashBytes = w.hashBytes ↔ GoApart v.marks w.marks := by
  rw [hashBytes_eq_stream, hashBytes_eq_stream, stream_eq_iff, beq_eq_false_iff_ne]
  constructor
  · rintro ⟨hne, hmarks | happart⟩
    · exact absurd (marks_injective hmarks) hne
    · exact happart
  · intro happart
    refine ⟨?_, .inr happart⟩
    rintro rfl
    exact happart.ne rfl

/-- Hashing does not separate all unequal values: the improper list of five and
zero has the stream of the list of five and one. -/
theorem not_forall_ne_hashBytes_ne :
    ¬ ∀ v w : Value, (v == w) = false → v.hashBytes ≠ w.hashBytes := by
  intro h
  exact h (listOnto [.number 5] (.number 0)) (list [.number 5, .number 1]) (by decide)
    (hashBytes_listOnto_zero (.number 5) [])

end Value

end LispData
