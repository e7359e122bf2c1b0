import LispData.Value.Render
/-!
# List notation — the texts of a value by recursion

The two texts of a value are put together in one walk over a buffer. Here list
notation is defined over heads and tails instead (`listed`), with what a chain
shows behind one of its elements as a notion of its own (`listedRest`). The
walk appends exactly that text (`datumInto_eq`, `displayInto_eq`), the write
form has at most one quote marker in front of it (`write_eq`), and replacing
atoms in a value replaces their texts (`listed_mapAtoms`). What relates the
texts of the atoms carries over to the lists (`listed_rel`), so a list has its
characters from them (`forall_mem_listed`) and is larger where they are
(`size_listed_le`), and only there (`allAtoms_of_size_listed_le`).
-/

namespace LispData

namespace Value

mutual

/-- A value in list notation, over a text for each atom. -/
def listed (atomText : Atom → String) : Value → String
  | .atom a => atomText a
  | .pair a d => "(" ++ listed atomText a ++ listedRest atomText d

/-- What a chain shows behind one of its elements, up to its closing
parenthesis. -/
def listedRest (atomText : Atom → String) : Value → String
  | .atom .empty => ")"
  | .atom a => " . " ++ atomText a ++ ")"
  | .pair a d => " " ++ listed atomText a ++ listedRest atomText d

end

variable {f : Atom → String}

@[simp] theorem listed_atom (a : Atom) : (Value.atom a).listed f = f a := by
  rw [listed]

@[simp] theorem listed_pair (a d : Value) :
    (Value.pair a d).listed f = "(" ++ a.listed f ++ d.listedRest f := by
  rw [listed]

@[simp] theorem listedRest_empty : Value.empty.listedRest f = ")" := by
  rw [listedRest]

@[simp] theorem listedRest_atom {a : Atom} (h : a ≠ .empty) :
    (Value.atom a).listedRest f = " . " ++ f a ++ ")" := by
  rw [listedRest]
  exact h

@[simp] theorem listedRest_pair (a d : Value) :
    (Value.pair a d).listedRest f = " " ++ a.listed f ++ d.listedRest f := by
  rw [listedRest]

/-! ## The walk appends the text -/

mutual

/-- **A walk in list notation appends the listed value**, whatever the buffer
held before. -/
theorem walk_listText (f : Atom → String) (out : String) (v : Value) :
    v.walk (listText f) String.append out = out ++ v.listed f := by
  cases v with
  | atom a => rw [walk, listed]; rfl
  | pair a d =>
    have hrest := walkRest_listText f (walk (listText f) String.append (out ++ "(") a) d
    rw [walk_listText f (out ++ "(") a] at hrest
    rw [walk, listed]
    calc ((listText f).leave.foldl String.append _ : String)
        = walkRest (listText f) String.append (walk (listText f) String.append (out ++ "(") a) d
            ++ ")" := rfl
      _ = out ++ "(" ++ a.listed f ++ d.listedRest f := by
          rw [walk_listText f (out ++ "(") a, hrest]
      _ = out ++ ("(" ++ a.listed f ++ d.listedRest f) := by
          simp only [String.append_assoc]

/-- The rest of a chain is appended in the same way; its closing parenthesis is
put by the walk that opened the list. -/
theorem walkRest_listText (f : Atom → String) (out : String) (v : Value) :
    v.walkRest (listText f) String.append out ++ ")" = out ++ v.listedRest f := by
  cases v with
  | atom a =>
    by_cases ha : a = .empty
    · subst ha
      rw [walkRest, listedRest]
      rfl
    · -- the dot and the atom; what closes the list is put behind them
      rw [listedRest_atom ha, walkRest]
      · calc ((listText f).dotted a).foldl String.append out ++ ")"
            = out ++ " . " ++ f a ++ ")" := rfl
          _ = out ++ (" . " ++ f a ++ ")") := by simp only [String.append_assoc]
      · exact ha
  | pair a d =>
    rw [walkRest, listedRest]
    calc walkRest (listText f) String.append
            (walk (listText f) String.append (out ++ " ") a) d ++ ")"
        = out ++ " " ++ a.listed f ++ d.listedRest f := by
          rw [walk_listText f (out ++ " ") a, walkRest_listText f _ d]
      _ = out ++ (" " ++ a.listed f ++ d.listedRest f) := by
          simp only [String.append_assoc]

end

/-- The datum form is list notation over the datum forms of the atoms. -/
theorem datumInto_eq (out : String) (v : Value) : v.datumInto out = out ++ v.listed Atom.datum :=
  walk_listText Atom.datum out v

/-- The display form is list notation over the display forms of the atoms. -/
theorem displayInto_eq (out : String) (v : Value) :
    v.displayInto out = out ++ v.listed Atom.display :=
  walk_listText Atom.display out v

/-! ## The quote marker -/

/-- Whether a value would be evaluated, so that writing it takes a quote marker:
a symbol, the empty list or a pair. -/
def isQuoted : Value → Bool
  | .atom (.symbol _) => true
  | .empty => true
  | .pair _ _ => true
  | _ => false

/-- **The write form is the datum form behind at most one quote marker.** -/
theorem write_eq (v : Value) :
    v.write = (if v.isQuoted then quoteMarker else "") ++ v.listed Atom.datum := by
  cases v with
  | pair a d => exact datumInto_eq quoteMarker (.pair a d)
  | atom a =>
    rw [listed_atom]
    cases a with
    | symbol s => rfl
    | empty => rfl
    | number n => exact String.empty_append.symm
    | text t => exact String.empty_append.symm
    | boolean b => exact datumInto_eq "" (.boolean b)
    | void => exact datumInto_eq "" .void

/-! ## Replacing atoms -/

mutual

/-- **Replacing atoms replaces their texts**, as long as the empty list stays
what it is and nothing else becomes it: the empty list alone ends a chain
without a dot. -/
theorem listed_mapAtoms {g : Atom → Atom} (hg : ∀ a, g a = .empty ↔ a = .empty) (v : Value) :
    (v.mapAtoms g).listed f = v.listed fun a => f (g a) := by
  cases v with
  | atom a => rw [mapAtoms, listed, listed]
  | pair a d => rw [mapAtoms, listed, listed, listed_mapAtoms hg a, listedRest_mapAtoms hg d]

/-- The same behind an element. -/
theorem listedRest_mapAtoms {g : Atom → Atom} (hg : ∀ a, g a = .empty ↔ a = .empty) (v : Value) :
    (v.mapAtoms g).listedRest f = v.listedRest fun a => f (g a) := by
  cases v with
  | atom a =>
    rw [mapAtoms]
    by_cases ha : a = .empty
    · subst ha
      rw [(hg .empty).2 rfl, listedRest_empty, listedRest_empty]
    · rw [listedRest_atom ha, listedRest_atom fun h => ha ((hg a).1 h)]
  | pair a d =>
    rw [mapAtoms, listedRest, listedRest, listed_mapAtoms hg a, listedRest_mapAtoms hg d]

end

/-! ## From the atoms to the list -/

/-- What list notation puts between the texts of atoms. -/
def listMarks : List String :=
  ["(", ")", " ", " . "]

section Atoms

variable {g : Atom → String} {R : String → String → Prop}

mutual

/-- **What relates the texts of the atoms relates the lists**, if it relates each
mark to itself and is kept when texts are put together. -/
theorem listed_rel (happend : ∀ s t s' t', R s t → R s' t' → R (s ++ s') (t ++ t'))
    (hmarks : ∀ m ∈ listMarks, R m m) (v : Value) (hv : v.AllAtoms fun a => R (f a) (g a)) :
    R (v.listed f) (v.listed g) := by
  cases v with
  | atom a =>
    rw [listed_atom, listed_atom]
    exact hv
  | pair a d =>
    have hopen : R "(" "(" := hmarks "(" (by decide)
    have hcar := listed_rel happend hmarks a hv.1
    have hcdr := listedRest_rel happend hmarks d hv.2
    rw [listed_pair, listed_pair]
    exact happend _ _ _ _ (happend _ _ _ _ hopen hcar) hcdr

/-- The same behind an element. -/
theorem listedRest_rel (happend : ∀ s t s' t', R s t → R s' t' → R (s ++ s') (t ++ t'))
    (hmarks : ∀ m ∈ listMarks, R m m) (v : Value) (hv : v.AllAtoms fun a => R (f a) (g a)) :
    R (v.listedRest f) (v.listedRest g) := by
  have hclose : R ")" ")" := hmarks ")" (by decide)
  cases v with
  | atom a =>
    by_cases ha : a = .empty
    · subst ha
      rw [listedRest_empty, listedRest_empty]
      exact hclose
    · have hdot : R " . " " . " := hmarks " . " (by decide)
      rw [listedRest_atom ha, listedRest_atom ha]
      exact happend _ _ _ _ (happend _ _ _ _ hdot hv) hclose
  | pair a d =>
    have hspace : R " " " " := hmarks " " (by decide)
    have hcar := listed_rel happend hmarks a hv.1
    have hcdr := listedRest_rel happend hmarks d hv.2
    rw [listedRest_pair, listedRest_pair]
    exact happend _ _ _ _ (happend _ _ _ _ hspace hcar) hcdr

end

/-- **What every atom's text is made of, the list is made of**, if the marks
are too. -/
theorem forall_mem_listed {P : Char → Prop} (hmarks : ∀ m ∈ listMarks, ∀ c ∈ m.toList, P c)
    (v : Value) (hv : v.AllAtoms fun a => ∀ c ∈ (f a).toList, P c) :
    ∀ c ∈ (v.listed f).toList, P c := by
  have happend : ∀ s t s' t' : String, (∀ c ∈ s.toList, P c) → (∀ c ∈ s'.toList, P c) →
      ∀ c ∈ (s ++ s').toList, P c := by
    intro s _ s' _ hs hs' c hc
    rw [String.toList_append, List.mem_append] at hc
    rcases hc with hc | hc
    · exact hs c hc
    · exact hs' c hc
  exact listed_rel (R := fun s _ => ∀ c ∈ s.toList, P c) (g := f) happend hmarks v hv

end Atoms

/-! ## Sizes -/

section Sizes

variable {g : Atom → String} {size : String → Nat}

/-- Larger parts make a larger text, for a size that adds up. -/
theorem size_append_le (hadd : ∀ s t, size (s ++ t) = size s + size t) (s t s' t' : String)
    (h : size s ≤ size t) (h' : size s' ≤ size t') : size (s ++ s') ≤ size (t ++ t') := by
  rw [hadd, hadd]
  omega

/-- **Where each atom's text is at least as large, the list is**, for a size that
adds up over the parts of a text. -/
theorem size_listed_le (hadd : ∀ s t, size (s ++ t) = size s + size t)
    (hle : ∀ a, size (f a) ≤ size (g a)) (v : Value) : size (v.listed f) ≤ size (v.listed g) :=
  listed_rel (size_append_le hadd) (fun _ _ => Nat.le_refl _) v (.of_forall hle v)

/-- The same behind an element. -/
theorem size_listedRest_le (hadd : ∀ s t, size (s ++ t) = size s + size t)
    (hle : ∀ a, size (f a) ≤ size (g a)) (v : Value) :
    size (v.listedRest f) ≤ size (v.listedRest g) :=
  listedRest_rel (size_append_le hadd) (fun _ _ => Nat.le_refl _) v (.of_forall hle v)

mutual

/-- **A list is as large only if each atom's text is**: what one of them has more
is not made up for by another. -/
theorem allAtoms_of_size_listed_le (hadd : ∀ s t, size (s ++ t) = size s + size t)
    (hle : ∀ a, size (f a) ≤ size (g a)) (hempty : size (g .empty) ≤ size (f .empty)) (v : Value)
    (h : size (v.listed g) ≤ size (v.listed f)) : v.AllAtoms fun a => size (g a) ≤ size (f a) := by
  cases v with
  | atom a =>
    rw [listed_atom, listed_atom] at h
    exact h
  | pair a d =>
    have hcar := size_listed_le hadd hle a
    have hcdr := size_listedRest_le hadd hle d
    simp only [listed_pair, hadd] at h
    exact ⟨allAtoms_of_size_listed_le hadd hle hempty a (by omega),
      allAtoms_of_size_listedRest_le hadd hle hempty d (by omega)⟩

/-- The same behind an element; the ending of a proper list is not shown at
all. -/
theorem allAtoms_of_size_listedRest_le (hadd : ∀ s t, size (s ++ t) = size s + size t)
    (hle : ∀ a, size (f a) ≤ size (g a)) (hempty : size (g .empty) ≤ size (f .empty)) (v : Value)
    (h : size (v.listedRest g) ≤ size (v.listedRest f)) :
    v.AllAtoms fun a => size (g a) ≤ size (f a) := by
  cases v with
  | atom a =>
    by_cases ha : a = .empty
    · subst ha
      exact hempty
    · simp only [listedRest_atom ha, hadd] at h
      have hatom : size (g a) ≤ size (f a) := by omega
      exact hatom
  | pair a d =>
    have hcar := size_listed_le hadd hle a
    have hcdr := size_listedRest_le hadd hle d
    simp only [listedRest_pair, hadd] at h
    exact ⟨allAtoms_of_size_listed_le hadd hle hempty a (by omega),
      allAtoms_of_size_listedRest_le hadd hle hempty d (by omega)⟩

end

end Sizes

end Value

end LispData
