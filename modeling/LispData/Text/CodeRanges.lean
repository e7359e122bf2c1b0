/-!
# Code point ranges — character classes as ascending tables

A class of characters is a table of inclusive code point ranges, in ascending
order. The order lets a search stop at the first range that starts beyond the
code point; nothing is missed by stopping there (`CodeRange.holds_iff`), so that a
class has the characters of its ranges and no others (`CharClass.contains_iff`).
-/

namespace LispData

/-- The code points from `first` to `last`, both included. -/
structure CodeRange where
  first : Nat
  last : Nat
  deriving DecidableEq

namespace CodeRange

/-- Each range is nonempty and ends before the next one starts. -/
def ascending : List CodeRange → Bool
  | [] => true
  | [r] => r.first ≤ r.last
  | r :: s :: rest => r.first ≤ r.last && r.last < s.first && ascending (s :: rest)

/-- Whether some range of an ascending table holds `n`. -/
def holds : List CodeRange → Nat → Bool
  | [], _ => false
  | r :: rest, n => r.first ≤ n && (n ≤ r.last || holds rest n)

end CodeRange

/-- A class of characters, as the ascending table of its code points. -/
structure CharClass where
  ranges : List CodeRange
  ascending : CodeRange.ascending ranges = true := by decide

namespace CharClass

/-- Whether `c` belongs to the class. -/
def contains (cls : CharClass) (c : Char) : Bool :=
  CodeRange.holds cls.ranges c.toNat

end CharClass

namespace CodeRange

/-- An ascending table holds nothing below its first range. -/
theorem not_holds_below {r : CodeRange} {rest : List CodeRange} {n : Nat} (hn : n < r.first) :
    holds (r :: rest) n = false := by
  have h : ¬ r.first ≤ n := by omega
  simp [holds, h]

/-- **Stopping early misses nothing.** The search agrees with membership in
some range of the table. -/
theorem holds_iff {rs : List CodeRange} (h : ascending rs = true) {n : Nat} :
    holds rs n = true ↔ ∃ r ∈ rs, r.first ≤ n ∧ n ≤ r.last := by
  induction rs with
  | nil => simp [holds]
  | cons r rest ih =>
    have hrest : ascending rest = true := by
      cases rest with
      | nil => rfl
      | cons s rest => simp_all [ascending]
    have later : (∃ s ∈ rest, s.first ≤ n ∧ n ≤ s.last) → r.first ≤ n := by
      intro hs
      have hh := (ih hrest).mpr hs
      cases rest with
      | nil => simp [holds] at hh
      | cons s rest =>
        have hle : s.first ≤ n := by
          refine Nat.le_of_not_lt fun hn => ?_
          rw [not_holds_below hn] at hh
          cases hh
        simp only [ascending, Bool.and_eq_true, decide_eq_true_eq] at h
        omega
    simp only [holds, Bool.and_eq_true, Bool.or_eq_true, decide_eq_true_eq, ih hrest]
    constructor
    · rintro ⟨h1, h2 | ⟨s, hs, h2⟩⟩
      · exact ⟨r, List.mem_cons_self, h1, h2⟩
      · exact ⟨s, List.mem_cons_of_mem r hs, h2⟩
    · rintro ⟨s, hs, h2⟩
      rcases List.mem_cons.mp hs with rfl | hs
      · exact ⟨h2.1, Or.inl h2.2⟩
      · exact ⟨later ⟨s, hs, h2⟩, Or.inr ⟨s, hs, h2⟩⟩

end CodeRange

/-- **A class has the characters of its ranges.** -/
theorem CharClass.contains_iff {cls : CharClass} {c : Char} :
    cls.contains c = true ↔ ∃ r ∈ cls.ranges, r.first ≤ c.toNat ∧ c.toNat ≤ r.last :=
  CodeRange.holds_iff cls.ascending

end LispData
