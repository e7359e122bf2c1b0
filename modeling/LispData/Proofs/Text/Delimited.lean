import LispData.Text.Delimited
/-!
# Delimited text — read back from left to right

A text between double quotes is read back by a scanner that starts behind the
opening quote, takes the code of one character at a time and stops at the first
bare quote (`Reads`). The law for a character is carried along the text
(`Reads.read_codes`). What is read back is told by its codes, and so is where
they end (`Reads.codes_append_inj`, `Reads.delimited_append_inj`).
-/

namespace LispData

/-- **A scanner of a code**, started behind the opening quote: it gives back the
characters of which it met the codes, and what follows the closing quote. -/
structure Reads (read : List Char → Option (List Char × List Char)) (code : Char → List Char) :
    Prop where
  /-- The code of a character is read as that character. -/
  read_code : ∀ (c : Char) (u : List Char),
    read (code c ++ u) = (read u).map fun (cs, after) => (c :: cs, after)
  /-- A bare quote ends the text. -/
  read_quote : ∀ u : List Char, read ('"' :: u) = some ([], u)

namespace Reads

variable {read : List Char → Option (List Char × List Char)} {code : Char → List Char}

/-- **Reading undoes writing.** The codes of a text and a closing quote are read
as the text, and what follows is left as it is. -/
theorem read_codes (hread : Reads read code) (s u : List Char) :
    read (s.flatMap code ++ '"' :: u) = some (s, u) := by
  induction s with
  | nil => exact hread.read_quote u
  | cons c s ih =>
    rw [List.flatMap_cons, List.append_assoc, hread.read_code, ih, Option.map_some]

/-- **The codes of a text tell the text**, and end at the closing quote. -/
theorem codes_append_inj (hread : Reads read code) {s t u z : List Char}
    (h : s.flatMap code ++ '"' :: u = t.flatMap code ++ '"' :: z) : s = t ∧ u = z := by
  have hsame := congrArg read h
  rw [hread.read_codes, hread.read_codes, Option.some.injEq, Prod.mk.injEq] at hsame
  exact hsame

/-- **A delimited text is cut off in one way only**, and tells the text. -/
theorem delimited_append_inj (hread : Reads read code) {s t : String} {u z : List Char}
    (h : (delimited code s).toList ++ u = (delimited code t).toList ++ z) : s = t ∧ u = z := by
  simp only [toList_delimited, List.cons_append, List.append_assoc, List.nil_append,
    List.cons.injEq, true_and] at h
  obtain ⟨hs, hu⟩ := hread.codes_append_inj h
  exact ⟨String.toList_injective hs, hu⟩

end Reads

end LispData
