import LispData.Proofs.Text.Span
import LispData.SymbolName
import LispData.Value.Render
import Std.Data.String.ToInt
/-!
# Words — names and numerals in written data

A word is a stretch of text that no blank and no delimiter cuts, that is no
bare dot and does not start like a `#` literal. The accepted symbol names are
exactly the words (`accepted_iff_isWord`), and every numeral is one
(`isWord_decimal`): the two share one space of texts. A stretch without blanks
and delimiters is cut off in one way only (`run_append_inj`).
-/

namespace LispData

/-- Whether `c` can stand inside a word: it is no blank and no delimiter. -/
def isWordChar (c : Char) : Bool :=
  !isBlank c && !isDelimiter c

/-- **A word**: what a name must be to be read back as one piece. -/
structure IsWord (cs : List Char) : Prop where
  ne_nil : cs ≠ []
  chars : ∀ c ∈ cs, isWordChar c = true
  ne_dot : cs ≠ ['.']
  ne_hash : cs.head? ≠ some '#'

/-- A character that ends words is in none. -/
theorem IsWord.not_mem {cs : List Char} (h : IsWord cs) {c : Char} (hc : isWordChar c = false) :
    c ∉ cs := by
  intro hmem
  have hword := h.chars c hmem
  rw [hc] at hword
  cases hword

/-- What may follow a word: nothing, or a character that ends it. -/
def EndsWord (u : List Char) : Prop :=
  ∀ c ∈ u.head?, isWordChar c = false

theorem endsWord_nil : EndsWord [] := by
  intro c hc
  cases hc

theorem endsWord_cons {c : Char} {u : List Char} (h : isWordChar c = false) :
    EndsWord (c :: u) := by
  intro d hd
  cases hd
  exact h

/-! ## Cutting off a word -/

/-- **A stretch is cut off in one way only**: where it ends is told by the
first character that cannot stand in a word. -/
theorem run_append_inj {w w' u u' : List Char} (hw : ∀ c ∈ w, isWordChar c = true)
    (hw' : ∀ c ∈ w', isWordChar c = true) (hu : EndsWord u) (hu' : EndsWord u')
    (h : w ++ u = w' ++ u') : w = w' ∧ u = u' :=
  span_append_inj hw hw' hu hu' h

/-- A stretch with something in it does not start with a character that ends
words. -/
theorem run_append_ne {w u k : List Char} {c : Char} (hne : w ≠ [])
    (hw : ∀ d ∈ w, isWordChar d = true) (hc : isWordChar c = false) : w ++ u ≠ c :: k := by
  intro h
  cases w with
  | nil => exact hne rfl
  | cons d w =>
    rw [List.cons_append, List.cons.injEq] at h
    have hd := hw d List.mem_cons_self
    rw [h.1, hc] at hd
    cases hd

/-! ## Accepted names are the words -/

/-- A name that the checked construction of a symbol accepts. -/
def Symbol.Accepted (name : String) : Prop :=
  ∃ s, (Symbol.parse name).result = .ok s

theorem isWordChar_iff {c : Char} :
    isWordChar c = true ↔ isBlank c = false ∧ isDelimiter c = false := by
  simp [isWordChar]

/-- Nothing is wrong with a name if a first fault is not there and no later one
is. -/
theorem ite_fault_eq_none_iff {c : Prop} [Decidable c] {fault : NameFault}
    {later : Option NameFault} : (if c then some fault else later) = none ↔ ¬ c ∧ later = none := by
  split
  · next hc => simp [hc]
  · next hc => simp [hc]

/-- A name has no fault exactly when it is a word. -/
theorem nameFault?_eq_none_iff {name : String} :
    nameFault? name = none ↔ IsWord name.toList := by
  simp only [nameFault?, ite_fault_eq_none_iff, List.isEmpty_iff, List.any_eq_true, beq_iff_eq,
    not_exists, not_and, Bool.not_eq_true, and_true]
  constructor
  · rintro ⟨hne, hblank, hdelim, hdot, hhash⟩
    exact ⟨hne, fun c hc => isWordChar_iff.2 ⟨hblank c hc, hdelim c hc⟩, hdot, hhash⟩
  · rintro ⟨hne, hchars, hdot, hhash⟩
    exact ⟨hne, fun c hc => (isWordChar_iff.1 (hchars c hc)).1,
      fun c hc => (isWordChar_iff.1 (hchars c hc)).2, hdot, hhash⟩

/-- **The accepted names are the words.** -/
theorem Symbol.accepted_iff_isWord {name : String} :
    Symbol.Accepted name ↔ IsWord name.toList := by
  rw [← nameFault?_eq_none_iff, Symbol.Accepted, Symbol.parse]
  constructor
  · rintro ⟨s, hs⟩
    split at hs
    · assumption
    · cases hs
  · intro h
    rw [h]
    exact ⟨⟨name⟩, rfl⟩

/-! ## Numerals are words -/

/-- A digit can stand inside a word. -/
theorem isWordChar_of_isDigit {c : Char} (h : c.isDigit = true) : isWordChar c = true := by
  have hc : 48 ≤ c.toNat ∧ c.toNat ≤ 57 := by
    simpa [Char.isDigit, UInt32.le_iff_toNat_le] using h
  refine isWordChar_iff.2 ⟨?_, ?_⟩
  · -- every range of blanks ends before the digits or starts behind them
    have hall : whiteSpace.ranges.all (fun r => r.last < 48 || 57 < r.first) = true := by decide
    rw [isBlank, Bool.eq_false_iff, ne_eq, CharClass.contains_iff]
    rintro ⟨r, hr, hfirst, hlast⟩
    have hout := List.all_eq_true.1 hall r hr
    rw [Bool.or_eq_true, decide_eq_true_eq, decide_eq_true_eq] at hout
    omega
  · have hall : delimiters.all (fun d => d.toNat < 48 || 57 < d.toNat) = true := by decide
    rw [isDelimiter, Bool.eq_false_iff, ne_eq, List.contains_iff_mem]
    intro hd
    have hout := List.all_eq_true.1 hall c hd
    rw [Bool.or_eq_true, decide_eq_true_eq, decide_eq_true_eq] at hout
    omega

namespace Number

/-- The characters of a numeral are digits, behind a minus sign if the number is
negative. -/
theorem toList_decimal (n : Number) :
    n.decimal.toList = Nat.toDigits 10 n.val.toInt.toNat ∨
      n.decimal.toList = '-' :: Nat.toDigits 10 (-n.val.toInt).toNat := by
  rw [decimal, Int.repr_eq_if]
  split
  · exact Or.inl Nat.toList_repr
  · refine Or.inr ?_
    rw [String.toList_append, Nat.toList_repr]
    rfl

/-- **A numeral is a word**, so it is accepted as the name of a symbol. -/
theorem isWord_decimal (n : Number) : IsWord n.decimal.toList := by
  have hdigit (m : Nat) : ∀ c ∈ Nat.toDigits 10 m, c.isDigit = true := fun c hc =>
    Nat.isDigit_of_mem_toDigits (by decide) (by decide) hc
  have hnot (m : Nat) {c : Char} (hc : c.isDigit = false) : c ∉ Nat.toDigits 10 m := by
    intro hmem
    have hc' := hdigit m c hmem
    rw [hc] at hc'
    cases hc'
  rcases n.toList_decimal with h | h
  · rw [h]
    refine ⟨Nat.toDigits_ne_nil, fun c hc => isWordChar_of_isDigit (hdigit _ c hc), ?_, ?_⟩
    · -- a bare dot would be a digit
      intro hdot
      have hmem : '.' ∈ Nat.toDigits 10 n.val.toInt.toNat := by
        rw [hdot]
        exact List.mem_cons_self
      exact hnot _ (by decide) hmem
    · intro hhash
      exact hnot _ (by decide) (List.mem_of_mem_head? hhash)
  · -- a minus sign is no digit, and stands in words
    rw [h]
    refine ⟨by simp, fun c hc => ?_, by simp, by simp⟩
    rcases List.mem_cons.1 hc with rfl | hc
    · decide
    · exact isWordChar_of_isDigit (hdigit _ c hc)

/-- The number with a given numeral, if there is one. -/
def ofDecimal? (name : String) : Option Number :=
  (name.toInt?.map fun i => Number.mk (.ofInt i)).filter fun n => n.decimal = name

/-- **A text stands for at most the number that has it as its numeral.** -/
theorem ofDecimal?_eq_some_iff {name : String} {n : Number} :
    ofDecimal? name = some n ↔ n.decimal = name := by
  rw [ofDecimal?, Option.filter_eq_some_iff, decide_eq_true_eq]
  constructor
  · exact fun h => h.2
  · intro h
    refine ⟨?_, h⟩
    rw [← h, decimal, Int.toInt?_repr, Option.map_some, Int64.ofInt_toInt]

/-- A number is told by its numeral. -/
theorem decimal_injective {m n : Number} (h : m.decimal = n.decimal) : m = n := by
  have hm : ofDecimal? n.decimal = some m := ofDecimal?_eq_some_iff.2 h
  have hn : ofDecimal? n.decimal = some n := ofDecimal?_eq_some_iff.2 rfl
  exact Option.some.inj (hm.symm.trans hn)

end Number

end LispData
