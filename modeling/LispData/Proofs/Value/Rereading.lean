import LispData.Proofs.Text.Literal
import LispData.Proofs.Text.Word
import LispData.Proofs.Value.ListText
import LispData.Value.Kind
/-!
# Rereading — what the text of an atom tells of it

Inside a list an atom is shown by its datum form. A readable atom, one whose
name is accepted if it is a symbol, is told by this text up to numerals: a
symbol that is named by a numeral rereads as the number (`Atom.ofDatum_datum`).
The text is also cut off from what follows it in one way only
(`Atom.datum_append_inj`). Numerals are the only accepted names that are the
text of something other than a symbol.
-/

namespace LispData

/-! ## Readable atoms and their normal form -/

namespace Atom

/-- An atom that is read back as one piece: a symbol has an accepted name. -/
def Readable : Atom → Prop
  | .symbol s => Symbol.Accepted s.name
  | _ => True

/-- The atom that a numeral stands for, whether it was a symbol or a number. -/
def norm : Atom → Atom
  | .symbol s =>
    match Number.ofDecimal? s.name with
    | some n => .number n
    | none => .symbol s
  | a => a

@[simp] theorem norm_eq_empty_iff (a : Atom) : a.norm = .empty ↔ a = .empty := by
  cases a with
  | symbol s => rw [norm]; split <;> simp
  | _ => simp [norm]

/-- **The normal form has the same text.** -/
@[simp] theorem datum_norm (a : Atom) : a.norm.datum = a.datum := by
  cases a with
  | symbol s =>
    rw [norm]
    split
    · next n hn => exact Number.ofDecimal?_eq_some_iff.1 hn
    · rfl
  | _ => rfl

/-- A symbol that is named by a numeral is normalised to the number. -/
theorem norm_symbol_decimal (n : Number) : norm (.symbol ⟨n.decimal⟩) = .number n := by
  rw [norm, Number.ofDecimal?_eq_some_iff.2 rfl]

/-- Normalising keeps apart what it does not make a number of. -/
theorem eq_of_norm_eq {a b : Atom} (hkind : a.kind = .symbol ↔ b.kind = .symbol)
    (h : a.norm = b.norm) : a = b := by
  cases a with
  | symbol s =>
    cases b with
    | symbol t =>
      have hname : s.name = t.name := by
        have hdatum := congrArg datum h
        rwa [datum_norm, datum_norm] at hdatum
      rw [Symbol.ext hname]
    | _ => exact absurd (hkind.1 rfl) (by simp [kind])
  | _ =>
    cases b with
    | symbol t => exact absurd (hkind.2 rfl) (by simp [kind])
    | _ => exact h

/-! ## The texts of atoms -/

/-- **The datum form of a readable atom** is a stretch of word characters, or a
string literal, or the empty list. -/
theorem datum_cases {a : Atom} (ha : a.Readable) :
    (a.datum.toList ≠ [] ∧ ∀ c ∈ a.datum.toList, isWordChar c = true) ∨
      (∃ t, a = .text t) ∨ a = .empty := by
  cases a with
  | symbol s =>
    have hword := Symbol.accepted_iff_isWord.1 ha
    exact Or.inl ⟨hword.ne_nil, hword.chars⟩
  | number n => exact Or.inl ⟨n.isWord_decimal.ne_nil, n.isWord_decimal.chars⟩
  | text t => exact Or.inr (Or.inl ⟨t, rfl⟩)
  | boolean b => cases b <;> exact Or.inl ⟨by decide, List.all_eq_true.1 (by decide)⟩
  | empty => exact Or.inr (Or.inr rfl)
  | void => exact Or.inl ⟨by decide, List.all_eq_true.1 (by decide)⟩

theorem toList_datum_text (t : Text) :
    (Atom.text t).datum.toList = '"' :: (t.content.toList.flatMap Literal.code ++ ['"']) :=
  toList_delimited Literal.code t.content

theorem toList_datum_empty : Atom.empty.datum.toList = ['(', ')'] := by
  decide

/-- An atom whose text starts with a double quote is the text that is read from
there. -/
theorem datum_append_of_quote {a : Atom} {u : List Char} {s k : List Char} (ha : a.Readable)
    (h : a.datum.toList ++ u = '"' :: (s.flatMap Literal.code ++ '"' :: k)) :
    a.datum.toList = '"' :: (s.flatMap Literal.code ++ ['"']) ∧ u = k := by
  rcases datum_cases ha with ⟨hne, hw⟩ | ⟨t, rfl⟩ | rfl
  · exact absurd h (run_append_ne hne hw (by decide))
  · rw [toList_datum_text] at h ⊢
    simp only [List.cons_append, List.append_assoc, List.cons.injEq, true_and,
      List.nil_append] at h
    obtain ⟨htext, hrest⟩ := Literal.codes_append_inj h
    rw [htext]
    exact ⟨rfl, hrest⟩
  · rw [toList_datum_empty] at h
    cases h

/-- An atom whose text starts with a parenthesis is the empty list. -/
theorem datum_append_of_paren {a : Atom} {u k : List Char} (ha : a.Readable)
    (h : a.datum.toList ++ u = '(' :: k) : a = .empty ∧ k = ')' :: u := by
  rcases datum_cases ha with ⟨hne, hw⟩ | ⟨t, rfl⟩ | rfl
  · exact absurd h (run_append_ne hne hw (by decide))
  · rw [toList_datum_text] at h
    cases h
  · rw [toList_datum_empty] at h
    cases h
    exact ⟨rfl, rfl⟩

/-- **The text of a readable atom is cut off in one way only.** -/
theorem datum_append_inj {a b : Atom} {u u' : List Char} (ha : a.Readable) (hb : b.Readable)
    (hu : EndsWord u) (hu' : EndsWord u') (h : a.datum.toList ++ u = b.datum.toList ++ u') :
    a.datum = b.datum ∧ u = u' := by
  -- the first character tells a literal and the empty list from a stretch of word characters
  rcases datum_cases hb with ⟨hne, hw⟩ | ⟨t, rfl⟩ | rfl
  · rcases datum_cases ha with ⟨hne', hw'⟩ | ⟨t, rfl⟩ | rfl
    · obtain ⟨htext, hrest⟩ := run_append_inj hw' hw hu hu' h
      exact ⟨String.toList_injective htext, hrest⟩
    · rw [toList_datum_text] at h
      exact absurd h.symm (run_append_ne hne hw (by decide))
    · rw [toList_datum_empty] at h
      exact absurd h.symm (run_append_ne hne hw (by decide))
  · rw [toList_datum_text, List.cons_append, List.append_assoc] at h
    obtain ⟨htext, hrest⟩ := datum_append_of_quote ha h
    exact ⟨String.toList_injective (by rw [htext, toList_datum_text]), hrest⟩
  · rw [toList_datum_empty] at h
    obtain ⟨rfl, hrest⟩ := datum_append_of_paren ha h
    exact ⟨rfl, (List.cons.inj hrest).2.symm⟩

/-- The atom with a given datum form, numerals read as numbers. -/
def ofDatum (text : String) : Atom :=
  match text.toList with
  | '"' :: body => .text ⟨String.ofList ((Literal.read body).getD ([], [])).1⟩
  | '(' :: _ => .empty
  | '#' :: body => if body = ['t'] then .boolean true else
      if body = ['f'] then .boolean false else .void
  | _ => norm (.symbol ⟨text⟩)

/-- A word is read as the symbol of that name, or as the number. -/
theorem ofDatum_of_isWord {text : String} (h : IsWord text.toList) :
    ofDatum text = norm (.symbol ⟨text⟩) := by
  have hhead (c : Char) (body : List Char) (hc : isWordChar c = false) :
      text.toList ≠ c :: body := by
    intro heq
    exact h.not_mem hc (by rw [heq]; exact List.mem_cons_self)
  unfold ofDatum
  split
  · next body heq => exact absurd heq (hhead _ body (by decide))
  · next body heq => exact absurd heq (hhead _ body (by decide))
  · next body heq => exact absurd (by rw [heq]; rfl) h.ne_hash
  · rfl

/-- **Rereading the text of a readable atom gives its normal form.** -/
theorem ofDatum_datum {a : Atom} (ha : a.Readable) : ofDatum a.datum = a.norm := by
  cases a with
  | symbol s => exact ofDatum_of_isWord (Symbol.accepted_iff_isWord.1 ha)
  | number n => exact (ofDatum_of_isWord n.isWord_decimal).trans (norm_symbol_decimal n)
  | text t =>
    rw [ofDatum, toList_datum_text]
    simp only [Literal.read_flatMap_code, Option.getD_some, String.ofList_toList]
    rfl
  | boolean b => cases b <;> rfl
  | empty => rfl
  | void => rfl

/-- Two readable atoms have one text exactly when they have one normal form. -/
theorem datum_eq_iff {a b : Atom} (ha : a.Readable) (hb : b.Readable) :
    a.datum = b.datum ↔ a.norm = b.norm := by
  constructor
  · intro h
    rw [← ofDatum_datum ha, ← ofDatum_datum hb, h]
  · intro h
    rw [← datum_norm a, ← datum_norm b, h]

/-- No readable atom has a bare dot as its text. -/
theorem datum_ne_dot {a : Atom} (ha : a.Readable) : a.datum.toList ≠ ['.'] := by
  cases a with
  | symbol s => exact (Symbol.accepted_iff_isWord.1 ha).ne_dot
  | number n => exact n.isWord_decimal.ne_dot
  | text t => rw [toList_datum_text]; simp
  | boolean b => cases b <;> decide
  | empty => decide
  | void => decide

end Atom

/-! ## Accepted names that are other data -/

namespace Value

/-- **The accepted names that show other data are the numerals.** A value that
is no symbol has an accepted name as its datum form exactly when it is a number
and the name is its numeral. -/
theorem datumInto_eq_accepted_iff (name : String) (v : Value) :
    (v.kind ≠ .symbol ∧ Symbol.Accepted name ∧ v.datumInto "" = name) ↔
      ∃ n : Number, v = .atom (.number n) ∧ name = n.decimal := by
  rw [datumInto_eq, String.empty_append]
  constructor
  · rintro ⟨hkind, haccepted, rfl⟩
    have hword := Symbol.accepted_iff_isWord.1 haccepted
    cases v with
    | pair a d =>
      -- a list starts with a delimiter
      refine absurd ?_ (hword.not_mem (c := '(') (by decide))
      rw [listed_pair]
      simp
    | atom a =>
      rw [listed_atom] at hword ⊢
      cases a with
      | symbol s => exact absurd rfl hkind
      | number n => exact ⟨n, rfl, rfl⟩
      | text t =>
        refine absurd ?_ (hword.not_mem (c := '"') (by decide))
        rw [Atom.toList_datum_text]
        exact List.mem_cons_self
      | boolean b => cases b <;> exact absurd rfl hword.ne_hash
      | empty =>
        refine absurd ?_ (hword.not_mem (c := '(') (by decide))
        rw [Atom.toList_datum_empty]
        exact List.mem_cons_self
      | void => exact absurd rfl hword.ne_hash
  · rintro ⟨n, rfl, rfl⟩
    exact ⟨by simp [kind, Atom.kind], Symbol.accepted_iff_isWord.2 n.isWord_decimal,
      listed_atom _⟩

/-- The name `5` is accepted, and yet it is the text of a number. -/
theorem not_forall_accepted_ne_datumInto :
    ¬ ∀ (name : String) (v : Value), Symbol.Accepted name → v.kind ≠ .symbol →
      v.datumInto "" ≠ name := by
  intro h
  exact h "5" (.number 5) ⟨⟨"5"⟩, rfl⟩ (by decide) (by decide)

end Value

end LispData
