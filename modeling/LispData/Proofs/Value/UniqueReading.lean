import LispData.Proofs.Value.Equality
import LispData.Proofs.Value.Rereading
/-!
# Unique reading — what the write form confuses

Written values can be read in one way only, numerals apart. The datum form of a
readable value is self-delimiting (`datum_append_inj`): by induction on two
values at once, for any two texts that may follow a word. The rest of a chain
carries its own closing parenthesis, so nothing is asked of what follows it
(`rest_append_inj`). On top of that `write_eq_iff` says which values have one
write form: lists that differ in symbols named by numerals, and no others.
-/

namespace LispData

namespace Value

/-- **A readable value**: every symbol in it has an accepted name. -/
def Readable (v : Value) : Prop :=
  v.AllAtoms Atom.Readable

/-- The value with every symbol that is named by a numeral replaced by the
number. -/
def norm (v : Value) : Value :=
  v.mapAtoms Atom.norm

@[simp] theorem norm_atom (a : Atom) : (Value.atom a).norm = .atom a.norm := rfl

@[simp] theorem norm_pair (a d : Value) : (Value.pair a d).norm = .pair a.norm d.norm := rfl

/-- **Normalising keeps the datum form.** -/
theorem listed_norm (v : Value) : v.norm.listed Atom.datum = v.listed Atom.datum := by
  rw [norm, listed_mapAtoms Atom.norm_eq_empty_iff]
  simp only [Atom.datum_norm]

/-! ## The characters of a datum form -/

/-- The characters of the datum form. -/
def chars (v : Value) : List Char :=
  (v.listed Atom.datum).toList

/-- The characters behind an element of a chain. -/
def restChars (v : Value) : List Char :=
  (v.listedRest Atom.datum).toList

@[simp] theorem chars_atom (a : Atom) : (Value.atom a).chars = a.datum.toList := by
  rw [chars, listed_atom]

@[simp] theorem chars_pair (a d : Value) :
    (Value.pair a d).chars = '(' :: (a.chars ++ d.restChars) := by
  simp [chars, restChars]

@[simp] theorem restChars_empty : Value.empty.restChars = [')'] := by
  rw [restChars, listedRest_empty]
  rfl

theorem restChars_atom {a : Atom} (h : a ≠ .empty) :
    (Value.atom a).restChars = ' ' :: '.' :: ' ' :: (a.datum.toList ++ [')']) := by
  simp [restChars, listedRest_atom h]

@[simp] theorem restChars_pair (a d : Value) :
    (Value.pair a d).restChars = ' ' :: (a.chars ++ d.restChars) := by
  simp [chars, restChars]

/-- What follows an element of a chain ends the element. -/
theorem endsWord_restChars (d : Value) (u : List Char) : EndsWord (d.restChars ++ u) := by
  cases d with
  | pair a d =>
    rw [restChars_pair]
    exact endsWord_cons (by decide)
  | atom a =>
    by_cases ha : a = .empty
    · subst ha
      rw [restChars_empty]
      exact endsWord_cons (by decide)
    · rw [restChars_atom ha]
      exact endsWord_cons (by decide)

/-- The double quote and the opening parenthesis are the only characters outside
words that a datum form starts with. -/
theorem chars_append_ne {v : Value} {u k : List Char} {c : Char} (hv : v.Readable)
    (hc : isWordChar c = false) (hquote : c ≠ '"') (hparen : c ≠ '(') :
    v.chars ++ u ≠ c :: k := by
  cases v with
  | pair a d =>
    rw [chars_pair]
    exact fun h => hparen (List.cons.inj h).1.symm
  | atom a =>
    rw [chars_atom]
    rcases Atom.datum_cases hv with ⟨hne, hw⟩ | ⟨t, rfl⟩ | rfl
    · exact run_append_ne hne hw hc
    · rw [Atom.toList_datum_text]
      exact fun h => hquote (List.cons.inj h).1.symm
    · rw [Atom.toList_datum_empty]
      exact fun h => hparen (List.cons.inj h).1.symm

/-- No datum form is a bare dot, so an element is no ending. -/
theorem chars_append_ne_dot {v : Value} {u k : List Char} (hv : v.Readable) (hu : EndsWord u) :
    v.chars ++ u ≠ '.' :: ' ' :: k := by
  cases v with
  | pair a d =>
    rw [chars_pair]
    simp
  | atom a =>
    rw [chars_atom]
    rcases Atom.datum_cases hv with ⟨hne, hw⟩ | ⟨t, rfl⟩ | rfl
    · -- the stretch of characters would be the dot alone
      intro h
      have hcut : a.datum.toList ++ u = ['.'] ++ ' ' :: k := h
      have hdot := run_append_inj hw (List.all_eq_true.1 (by decide)) hu
        (endsWord_cons (by decide)) hcut
      exact Atom.datum_ne_dot hv hdot.1
    · rw [Atom.toList_datum_text]
      simp
    · rw [Atom.toList_datum_empty]
      simp

/-- A list with an element has not the text of an atom. -/
theorem chars_pair_append_ne_atom {a d : Value} {b : Atom} {u u' : List Char} (ha : a.Readable)
    (hb : b.Readable) : (Value.pair a d).chars ++ u ≠ (Value.atom b).chars ++ u' := by
  intro h
  rw [chars_pair, chars_atom, List.cons_append] at h
  obtain ⟨-, hclose⟩ := Atom.datum_append_of_paren hb h.symm
  rw [List.append_assoc] at hclose
  exact chars_append_ne ha (by decide) (by decide) (by decide) hclose

/-! ## Cutting off a datum -/

/-- The ending of a chain is cut off in one way only. -/
theorem ending_append_inj {a b : Atom} {u u' : List Char} (ha : a.Readable) (hb : b.Readable)
    (h : (Value.atom a).restChars ++ u = (Value.atom b).restChars ++ u') :
    a.norm = b.norm ∧ u = u' := by
  have hclose (k : List Char) : EndsWord (')' :: k) := endsWord_cons (by decide)
  by_cases hna : a = .empty <;> by_cases hnb : b = .empty
  · subst hna
    subst hnb
    exact ⟨rfl, List.append_cancel_left h⟩
  · -- a parenthesis against the space in front of a dot
    rw [hna, restChars_empty, restChars_atom hnb] at h
    simp at h
  · rw [hnb, restChars_empty, restChars_atom hna] at h
    simp at h
  · rw [restChars_atom hna, restChars_atom hnb] at h
    simp only [List.cons_append, List.append_assoc, List.cons.injEq, true_and,
      List.nil_append] at h
    obtain ⟨hdatum, hrest⟩ := Atom.datum_append_inj ha hb (hclose u) (hclose u') h
    exact ⟨(Atom.datum_eq_iff ha hb).1 hdatum, (List.cons.inj hrest).2⟩

/-- The ending of a chain is no further element. -/
theorem ending_append_ne {a : Atom} {b e : Value} {u u' : List Char} (hb : b.Readable) :
    (Value.atom a).restChars ++ u ≠ (Value.pair b e).restChars ++ u' := by
  intro h
  rw [restChars_pair, List.cons_append, List.append_assoc] at h
  by_cases ha : a = .empty
  · rw [ha, restChars_empty] at h
    simp at h
  · -- the element that stands where the dot stands would be a bare dot
    rw [restChars_atom ha, List.cons_append, List.cons.injEq] at h
    exact chars_append_ne_dot hb (endsWord_restChars e u') h.2.symm

mutual

/-- **A datum form is cut off in one way only**, and what is cut off tells the
value up to numerals. -/
theorem datum_append_inj (v w : Value) {u u' : List Char} (hv : v.Readable) (hw : w.Readable)
    (hu : EndsWord u) (hu' : EndsWord u') (h : v.chars ++ u = w.chars ++ u') :
    v.norm = w.norm ∧ u = u' := by
  cases v with
  | atom a =>
    cases w with
    | atom b =>
      rw [chars_atom, chars_atom] at h
      obtain ⟨hdatum, hrest⟩ := Atom.datum_append_inj hv hw hu hu' h
      rw [norm_atom, norm_atom, (Atom.datum_eq_iff hv hw).1 hdatum]
      exact ⟨rfl, hrest⟩
    | pair b e => exact absurd h.symm (chars_pair_append_ne_atom hw.1 hv)
  | pair a d =>
    cases w with
    | atom b => exact absurd h (chars_pair_append_ne_atom hv.1 hw)
    | pair b e =>
      rw [chars_pair, chars_pair, List.cons_append, List.cons_append, List.cons.injEq,
        List.append_assoc, List.append_assoc] at h
      -- what follows the first element ends it, whatever follows the list
      obtain ⟨hcar, hcdr⟩ := datum_append_inj a b hv.1 hw.1 (endsWord_restChars d u)
        (endsWord_restChars e u') h.2
      obtain ⟨hrest, hu⟩ := rest_append_inj d e hv.2 hw.2 hcdr
      rw [norm_pair, norm_pair, hcar, hrest]
      exact ⟨rfl, hu⟩

/-- **The rest of a chain is cut off in one way only**: it closes itself. -/
theorem rest_append_inj (d e : Value) {u u' : List Char} (hd : d.Readable) (he : e.Readable)
    (h : d.restChars ++ u = e.restChars ++ u') : d.norm = e.norm ∧ u = u' := by
  cases d with
  | atom a =>
    cases e with
    | atom b =>
      obtain ⟨hnorm, hu⟩ := ending_append_inj hd he h
      rw [norm_atom, norm_atom, hnorm]
      exact ⟨rfl, hu⟩
    | pair b e => exact absurd h (ending_append_ne he.1)
  | pair a d =>
    cases e with
    | atom b => exact absurd h.symm (ending_append_ne hd.1)
    | pair b e =>
      rw [restChars_pair, restChars_pair, List.cons_append, List.cons_append, List.cons.injEq,
        List.append_assoc, List.append_assoc] at h
      obtain ⟨hcar, hcdr⟩ := datum_append_inj a b hd.1 he.1 (endsWord_restChars d u)
        (endsWord_restChars e u') h.2
      obtain ⟨hrest, hu⟩ := rest_append_inj d e hd.2 he.2 hcdr
      rw [norm_pair, norm_pair, hcar, hrest]
      exact ⟨rfl, hu⟩

end

/-- **Two readable values have one datum form exactly when they have one normal
form.** -/
theorem listed_datum_eq_iff {v w : Value} (hv : v.Readable) (hw : w.Readable) :
    v.listed Atom.datum = w.listed Atom.datum ↔ v.norm = w.norm := by
  constructor
  · intro h
    have hchars : v.chars ++ [] = w.chars ++ [] := by rw [chars, h, chars]
    exact (datum_append_inj v w hv hw endsWord_nil endsWord_nil hchars).1
  · intro h
    rw [← listed_norm v, ← listed_norm w, h]

/-! ## The write form -/

/-- The characters of the write form. -/
theorem toList_write (v : Value) :
    v.write.toList = (if v.isQuoted then ['\x27'] else []) ++ v.chars := by
  rw [write_eq, String.toList_append, chars]
  cases v.isQuoted <;> rfl

/-- **A write form is cut off in one way only**, and tells the value up to
numerals, and whether it is quoted: the quote marker starts no datum form. -/
theorem write_append_inj {v w : Value} {u u' : List Char} (hv : v.Readable) (hw : w.Readable)
    (hu : EndsWord u) (hu' : EndsWord u') (h : v.write.toList ++ u = w.write.toList ++ u') :
    (v.isQuoted = w.isQuoted ∧ v.norm = w.norm) ∧ u = u' := by
  have hmarker {x : Value} {k k' : List Char} (hx : x.Readable) : x.chars ++ k ≠ '\x27' :: k' :=
    chars_append_ne hx (by decide) (by decide) (by decide)
  rw [toList_write, toList_write, List.append_assoc, List.append_assoc] at h
  cases hqv : v.isQuoted <;> cases hqw : w.isQuoted <;> rw [hqv, hqw] at h
  · obtain ⟨hnorm, hrest⟩ := datum_append_inj v w hv hw hu hu' h
    exact ⟨⟨rfl, hnorm⟩, hrest⟩
  · exact absurd h (hmarker hv)
  · exact absurd h.symm (hmarker hw)
  · obtain ⟨hnorm, hrest⟩ := datum_append_inj v w hv hw hu hu' (List.cons.inj h).2
    exact ⟨⟨rfl, hnorm⟩, hrest⟩

/-- The write form tells whether the value is quoted, and its normal form. -/
theorem write_eq_iff {v w : Value} (hv : v.Readable) (hw : w.Readable) :
    v.write = w.write ↔ v.isQuoted = w.isQuoted ∧ v.norm = w.norm := by
  constructor
  · intro h
    have hchars : v.write.toList ++ [] = w.write.toList ++ [] := by rw [h]
    exact (write_append_inj hv hw endsWord_nil endsWord_nil hchars).1
  · rintro ⟨hquoted, hnorm⟩
    rw [Value.write_eq, Value.write_eq, hquoted, (listed_datum_eq_iff hv hw).2 hnorm]

/-- Nothing is written without a character. -/
theorem toList_write_ne_nil {v : Value} (hv : v.Readable) : v.write.toList ≠ [] := by
  have hchars : v.chars ≠ [] := by
    cases v with
    | pair a d =>
      rw [chars_pair]
      exact List.cons_ne_nil _ _
    | atom a =>
      rw [chars_atom]
      rcases Atom.datum_cases hv with ⟨hne, -⟩ | ⟨t, rfl⟩ | rfl
      · exact hne
      · rw [Atom.toList_datum_text]
        exact List.cons_ne_nil _ _
      · rw [Atom.toList_datum_empty]
        exact List.cons_ne_nil _ _
  rw [toList_write]
  exact fun h => hchars (List.append_eq_nil_iff.1 h).2

/-- What is quoted and reads like a symbol is a symbol: a number is not
quoted. -/
theorem kind_eq_symbol_of_norm_eq {s : Symbol} {b : Atom} (hb : (Value.atom b).isQuoted = true)
    (h : (Atom.symbol s).norm = b.norm) : b.kind = .symbol := by
  rw [Atom.norm] at h
  cases b with
  | symbol t => rfl
  | empty => split at h <;> cases h
  | _ => cases hb

/-- Atoms with one normal form are the same if both are quoted or none is. -/
theorem eq_of_norm_eq {a b : Atom} (hquoted : (Value.atom a).isQuoted = (Value.atom b).isQuoted)
    (h : a.norm = b.norm) : a = b := by
  refine Atom.eq_of_norm_eq ⟨fun ha => ?_, fun hb => ?_⟩ h
  · cases a with
    | symbol s => exact kind_eq_symbol_of_norm_eq hquoted.symm h
    | _ => cases ha
  · cases b with
    | symbol s => exact kind_eq_symbol_of_norm_eq hquoted h.symm
    | _ => cases hb

/-- The values of the kind of pairs are the pairs. -/
theorem kind_eq_pair_iff {v : Value} : v.kind = .pair ↔ ∃ a d, v = .pair a d := by
  cases v with
  | pair a d => simp [kind]
  | atom a => cases a <;> simp [kind, Atom.kind]

/-- Apart from two lists, the quote marker and the normal form tell values. -/
theorem quoted_norm_eq_iff {v w : Value} (h : ¬ (v.kind = .pair ∧ w.kind = .pair)) :
    v.isQuoted = w.isQuoted ∧ v.norm = w.norm ↔ v = w := by
  constructor
  · rintro ⟨hquoted, hnorm⟩
    cases v with
    | pair a d =>
      cases w with
      | pair b e => exact absurd ⟨rfl, rfl⟩ h
      | atom b => cases hnorm
    | atom a =>
      cases w with
      | pair b e => cases hnorm
      | atom b =>
        rw [norm_atom, norm_atom, atom.injEq] at hnorm
        rw [eq_of_norm_eq hquoted hnorm]
  · rintro rfl
    exact ⟨rfl, rfl⟩

/-- **What the write form confuses.** Of readable values, two lists have one
write form exactly when they are the same up to symbols named by numerals; two
values that are not both lists, exactly when they are structurally equal. -/
theorem write_eq_write_iff (v w : Value) (hv : v.Readable) (hw : w.Readable) :
    (v.kind = .pair ∧ w.kind = .pair → (v.write = w.write ↔ v.norm = w.norm)) ∧
      (¬ (v.kind = .pair ∧ w.kind = .pair) → (v.write = w.write ↔ v.equals w = true)) := by
  rw [write_eq_iff hv hw, equals_iff]
  refine ⟨fun hpairs => ?_, quoted_norm_eq_iff⟩
  obtain ⟨a, d, rfl⟩ := kind_eq_pair_iff.1 hpairs.1
  obtain ⟨b, e, rfl⟩ := kind_eq_pair_iff.1 hpairs.2
  exact ⟨fun h => h.2, fun h => ⟨rfl, h⟩⟩

/-- A list with the symbol `5` is written like the list with the number. -/
theorem write_list_symbol_numeral :
    (Value.list [.symbol "5", .text ") ("]).Readable ∧
      (Value.list [.number 5, .text ") ("]).Readable ∧
      ((Value.list [.symbol "5", .text ") ("]).write =
          (Value.list [.number 5, .text ") ("]).write ↔
        (Value.list [.symbol "5", .text ") ("]).norm =
          (Value.list [.number 5, .text ") ("]).norm) := by
  have hsym : (Value.list [.symbol "5", .text ") ("]).Readable :=
    ⟨⟨⟨"5"⟩, rfl⟩, trivial, trivial⟩
  have hnum : (Value.list [.number 5, .text ") ("]).Readable := ⟨trivial, trivial, trivial⟩
  exact ⟨hsym, hnum, (write_eq_write_iff _ _ hsym hnum).1 ⟨rfl, rfl⟩⟩

end Value

end LispData
