import LispData.Proofs.Value.ListText
import LispData.Value.Cursor
import LispData.Value.Kind
/-!
# List notation — one rule behind all ways of rendering

A value is shown by recursion over heads and tails: `displayed` shows its texts
raw, `written` as literals. Whatever puts a value into a buffer, or makes a text
of it alone, comes to these two (`render_eq`). So does going along a list with a
cursor (`Pair.writeList`): a space in front of every element but the first, and
the ending looked at only when no element is left. The invariant of that loop
speaks of what the cursor has still to give (`closeList_putElements`). The loop
and the texts of the atoms leave no choice: the recursion is all that satisfies
them (`goesAlongLists_iff`).
-/

namespace LispData

/-! ## The rule -/

/-- The text of an atom in a list, over the form that texts are shown in. -/
def Atom.shown (textForm : String → String) : Atom → String
  | .symbol s => s.name
  | .number n => toString n.val
  | .text t => textForm t.content
  | .boolean true => "#t"
  | .boolean false => "#f"
  | .empty => "()"
  | .void => "#<void>"

/-- A value in list notation with its texts raw. -/
def Value.displayed (v : Value) : String :=
  v.listed (Atom.shown id)

/-- A value in list notation with its texts as literals. -/
def Value.written (v : Value) : String :=
  v.listed (Atom.shown literal)

theorem Atom.display_eq_shown : Atom.display = Atom.shown id := by
  funext a
  cases a with
  | boolean b => cases b <;> rfl
  | _ => rfl

theorem Atom.datum_eq_shown : Atom.datum = Atom.shown literal := by
  funext a
  cases a with
  | boolean b => cases b <;> rfl
  | _ => rfl

namespace Value

/-- Displaying a value into a buffer appends its display form. -/
theorem displayInto_eq_displayed (out : String) (v : Value) :
    v.displayInto out = out ++ v.displayed := by
  rw [displayInto_eq, Atom.display_eq_shown, displayed]

/-- Writing a value into a buffer appends its datum form. -/
theorem datumInto_eq_written (out : String) (v : Value) :
    v.datumInto out = out ++ v.written := by
  rw [datumInto_eq, Atom.datum_eq_shown, written]

/-- The display form of each kind of datum is what it shows in a buffer. -/
theorem display_eq_displayed (v : Value) : v.display = v.displayed := by
  have hbuffer (w : Value) : w.displayInto "" = w.displayed := by
    rw [displayInto_eq_displayed, String.empty_append]
  cases v with
  | pair a d => exact hbuffer (.pair a d)
  | atom a =>
    cases a with
    | boolean b => exact hbuffer (.boolean b)
    | empty => exact hbuffer .empty
    | void => exact hbuffer .void
    | _ =>
      rw [displayed, listed_atom]
      rfl

/-- The values that are written with a quote marker. -/
theorem isQuoted_iff (v : Value) :
    v.isQuoted = true ↔ v.kind = .symbol ∨ v.kind = .null ∨ v.kind = .pair := by
  cases v with
  | pair a d => simp [isQuoted, kind]
  | atom a => cases a <;> simp [isQuoted, kind, Atom.kind]

end Value

/-! ## Going along a list -/

namespace Cursor

/-- Giving an element leaves fewer. -/
theorem length_elements_next {c c' : Cursor} {x : Value} (h : c.next = (some x, c')) :
    c'.rest.elements.length < c.rest.elements.length := by
  have helements := elements_next c
  have hhead := next_fst c
  rw [h] at helements hhead
  cases hrest : c.rest.elements with
  | nil =>
    rw [hrest] at hhead
    cases hhead
  | cons y ys =>
    rw [helements, hrest]
    exact Nat.lt_succ_self _

/-- **Puts the elements that are left into a buffer**, with a space in front of
each that is not the first, and gives the cursor behind the last. -/
def putElements (element : String → Value → String) (first : Bool) (out : String) (c : Cursor) :
    String × Cursor :=
  match _h : c.next with
  | (none, c) => (out, c)
  | (some x, c') => c'.putElements element false (element (if first then out else out ++ " ") x)
termination_by c.rest.elements.length
decreasing_by exact length_elements_next _h

/-- **Closes a list** whose elements were put: the ending behind a dot, if the
cursor shows one by now, and a parenthesis. -/
def closeList (element : String → Value → String) (put : String × Cursor) : String :=
  (match put.2.tail? with
    | some t => element (put.1 ++ " . ") t
    | none => put.1) ++ ")"

end Cursor

/-- **Writes a list element by element**, each by `element`. -/
def Pair.writeList (element : String → Value → String) (out : String) (p : Pair) : String :=
  Cursor.closeList element ((Cursor.start p).putElements element true (out ++ "("))

namespace Cursor

variable {element : String → Value → String} {source : Pair}

theorem putElements_atom (first : Bool) (out : String) (a : Atom) :
    putElements element first out ⟨source, .atom a⟩ = (out, ⟨source, .atom a⟩) := by
  rw [putElements]
  rfl

theorem putElements_pair (first : Bool) (out : String) (a d : Value) :
    putElements element first out ⟨source, .pair a d⟩ =
      putElements element false (element (if first then out else out ++ " ") a) ⟨source, d⟩ := by
  rw [putElements]
  rfl

end Cursor

/-- **Putting values into a buffer along their lists**: an atom is shown by `f`,
a pair is written element by element, each in the same way. -/
structure GoesAlongLists (f : Atom → String) (element : String → Value → String) : Prop where
  atom_eq : ∀ out a, element out (.atom a) = out ++ f a
  pair_eq : ∀ out (p : Pair), element out p.toValue = p.writeList element out

section Loop

variable {element : String → Value → String} {f : Atom → String} {source : Pair}

/-! What is put behind an element, and what closes the list, come to the rest of
the chain: `closeList_putElements_atom` at its end, `closeList_putElements_pair`
at a further element. Both ask only about the values they put, so that they serve
a loop whose elements are not known to be right beforehand. -/

theorem closeList_putElements_atom (hatom : ∀ out a, element out (.atom a) = out ++ f a)
    (out : String) (a : Atom) :
    Cursor.closeList element (Cursor.putElements element false out ⟨source, .atom a⟩) =
      out ++ (Value.atom a).listedRest f := by
  rw [Cursor.putElements_atom]
  by_cases ha : a = .empty
  · subst ha
    rw [Value.listedRest_empty]
    rfl
  · have htail : (Cursor.mk source (.atom a)).tail? = some (.atom a) := by
      cases a with
      | empty => exact absurd rfl ha
      | _ => rfl
    rw [Value.listedRest_atom ha, Cursor.closeList, htail]
    show element (out ++ " . ") (.atom a) ++ ")" = _
    rw [hatom]
    simp only [String.append_assoc]

theorem closeList_putElements_pair {a d : Value} (ha : ∀ out, element out a = out ++ a.listed f)
    (hd : ∀ out, Cursor.closeList element (Cursor.putElements element false out ⟨source, d⟩) =
      out ++ d.listedRest f) (out : String) :
    Cursor.closeList element (Cursor.putElements element false out ⟨source, .pair a d⟩) =
      out ++ (Value.pair a d).listedRest f := by
  rw [Cursor.putElements_pair, hd, if_neg Bool.false_ne_true, ha, Value.listedRest_pair]
  simp only [String.append_assoc]

/-- **The invariant of the loop**: behind an element, what is put and what closes
the list come to the rest of the chain, if each value puts its own text. -/
theorem closeList_putElements (helement : ∀ out v, element out v = out ++ v.listed f)
    (out : String) (d : Value) :
    Cursor.closeList element (Cursor.putElements element false out ⟨source, d⟩) =
      out ++ d.listedRest f := by
  -- by induction on what is left, for any buffer
  induction d generalizing out with
  | atom a =>
    refine closeList_putElements_atom (fun out a => ?_) out a
    rw [helement, Value.listed_atom]
  | pair a d _ ih => exact closeList_putElements_pair (fun out => helement out a) ih out

/-- **Going along a list appends its text**, if its first element puts its own
text and the loop is right about what is behind it. -/
theorem Pair.writeList_eq {p : Pair} (hcar : ∀ out, element out p.car = out ++ p.car.listed f)
    (hcdr : ∀ out, Cursor.closeList element (Cursor.putElements element false out ⟨p, p.cdr⟩) =
      out ++ p.cdr.listedRest f) (out : String) :
    p.writeList element out = out ++ p.toValue.listed f := by
  -- the first element has no space in front of it; behind it the invariant holds
  have hstart : (Cursor.start p).putElements element true (out ++ "(") =
      Cursor.putElements element false (element (out ++ "(") p.car) ⟨p, p.cdr⟩ :=
    Cursor.putElements_pair true (out ++ "(") p.car p.cdr
  rw [Pair.writeList, hstart, hcdr, hcar, Pair.toValue, Value.listed_pair]
  simp only [String.append_assoc]

/-- What goes along lists puts the text of a value, and the rest of its text
where it stands behind an element. -/
theorem GoesAlongLists.eq_listed (h : GoesAlongLists f element) (v : Value) :
    (∀ out, element out v = out ++ v.listed f) ∧
      ∀ source out,
        Cursor.closeList element (Cursor.putElements element false out ⟨source, v⟩) =
          out ++ v.listedRest f := by
  -- both at once: a pair is its head and the rest of the chain in its tail
  induction v with
  | atom a =>
    refine ⟨fun out => ?_, fun _ out => closeList_putElements_atom h.atom_eq out a⟩
    rw [h.atom_eq, Value.listed_atom]
  | pair a d iha ihd =>
    refine ⟨fun out => ?_, fun source out =>
      closeList_putElements_pair iha.1 (ihd.2 source) out⟩
    exact (h.pair_eq out ⟨a, d⟩).trans (Pair.writeList_eq iha.1 (ihd.2 ⟨a, d⟩) out)

/-- **Only the recursion over heads and tails goes along lists**: the loop has
one solution for each way of showing atoms. -/
theorem goesAlongLists_iff :
    GoesAlongLists f element ↔ ∀ out v, element out v = out ++ v.listed f := by
  constructor
  · exact fun h out v => (h.eq_listed v).1 out
  · intro helement
    refine ⟨fun out a => ?_, fun out p => ?_⟩
    · rw [helement, Value.listed_atom]
    · have hwrite := Pair.writeList_eq (fun out => helement out p.car)
        (fun out => closeList_putElements helement out p.cdr) out
      rw [helement, hwrite]

/-- What appends the list notation is the one way to go along lists. -/
theorem goesAlongLists_iff_eq {into : String → Value → String}
    (hinto : ∀ out v, into out v = out ++ v.listed f) :
    GoesAlongLists f element ↔ element = into := by
  rw [goesAlongLists_iff]
  constructor
  · intro h
    funext out v
    rw [h, hinto]
  · rintro rfl
    exact hinto

end Loop

/-! ## All ways of rendering -/

/-- **Every way of rendering follows the one rule.** A value put into a buffer,
a value rendered alone, and a list written along its elements show what the
recursion over heads and tails shows; one quote marker stands in front of a
written symbol, empty list or pair, and none inside. Nothing else shows atoms in
the same way and pairs along their elements. -/
theorem Value.render_eq (out : String) (v : Value) (p : Pair) :
    (v.displayInto out = out ++ v.displayed ∧ v.datumInto out = out ++ v.written) ∧
      v.display = v.displayed ∧
      v.write = (if v.kind = .symbol ∨ v.kind = .null ∨ v.kind = .pair then "'" else "") ++
        v.written ∧
      p.writeList displayInto out = p.toValue.displayInto out ∧
      p.writeList datumInto out = p.toValue.datumInto out ∧
      (∀ element, GoesAlongLists (Atom.shown id) element ↔ element = displayInto) ∧
      ∀ element, GoesAlongLists (Atom.shown literal) element ↔ element = datumInto := by
  have hdisplay (element : String → Value → String) :
      GoesAlongLists (Atom.shown id) element ↔ element = displayInto :=
    goesAlongLists_iff_eq displayInto_eq_displayed
  have hdatum (element : String → Value → String) :
      GoesAlongLists (Atom.shown literal) element ↔ element = datumInto :=
    goesAlongLists_iff_eq datumInto_eq_written
  refine ⟨⟨displayInto_eq_displayed out v, datumInto_eq_written out v⟩, display_eq_displayed v,
    ?_, ?_, ?_, hdisplay, hdatum⟩
  · rw [write_eq, Atom.datum_eq_shown, written, quoteMarker]
    simp only [isQuoted_iff]
  · exact (((hdisplay displayInto).2 rfl).pair_eq out p).symm
  · exact (((hdatum datumInto).2 rfl).pair_eq out p).symm

end LispData
