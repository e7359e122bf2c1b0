import LispData.Proofs.Text.Delimited
import LispData.Proofs.Text.Utf8
import LispData.Text.Literal
/-!
# String literals — what they are made of

In a literal a character stands for itself or is given by a backslash and a
letter (`Literal.code_cases`). So a literal holds no newline, tab or carriage
return, whatever its text holds (`not_mem_lineControls_of_mem_literal`), and it
is longer than its text by its two quotes at least, in characters
(`length_add_two_le_length_literal`) and in bytes
(`utf8ByteSize_add_two_le_utf8ByteSize_literal`). Since it is read back, whatever
follows it (`Literal.reads`), it tells its text and where it ends
(`Literal.codes_append_inj`).
-/

namespace LispData

/-- The characters that move on along a line or to the next. -/
def lineControls : List Char :=
  ['\n', '\t', '\r']

theorem mem_lineControls {c : Char} : c ∈ lineControls ↔ c = '\n' ∨ c = '\t' ∨ c = '\r' := by
  rw [lineControls, List.mem_cons, List.mem_cons, List.mem_singleton]

namespace Literal

/-- **A character is written in one of two ways**: by a backslash and a letter,
or as itself. -/
theorem code_cases (c : Char) :
    (∃ e, unescape e = some c ∧ code c = ['\\', e]) ∨ c ∉ lineControls ∧ code c = [c] := by
  unfold code
  split
  · exact Or.inl ⟨'\\', rfl, rfl⟩
  · exact Or.inl ⟨'"', rfl, rfl⟩
  · exact Or.inl ⟨'n', rfl, rfl⟩
  · exact Or.inl ⟨'t', rfl, rfl⟩
  · exact Or.inl ⟨'r', rfl, rfl⟩
  · next hnewline htab hreturn =>
    refine Or.inr ⟨fun h => ?_, rfl⟩
    rcases mem_lineControls.1 h with h | h | h
    · exact hnewline h
    · exact htab h
    · exact hreturn h

/-- What follows a backslash is no line control. -/
theorem not_mem_lineControls_of_unescape {c e : Char} (h : unescape e = some c) :
    e ∉ lineControls := by
  intro he
  rcases mem_lineControls.1 he with rfl | rfl | rfl <;> cases h

/-- No code holds a line control. -/
theorem not_mem_lineControls_of_mem_code {c d : Char} (h : d ∈ code c) : d ∉ lineControls := by
  have hbackslash : '\\' ∉ lineControls := by decide
  rcases code_cases c with ⟨e, he, hcode⟩ | ⟨hc, hcode⟩ <;> rw [hcode] at h
  · rcases List.mem_cons.1 h with rfl | h
    · exact hbackslash
    · obtain rfl := List.mem_singleton.1 h
      exact not_mem_lineControls_of_unescape he
  · obtain rfl := List.mem_singleton.1 h
    exact hc

/-- Every character has a code. -/
theorem length_code_pos (c : Char) : 1 ≤ (code c).length := by
  rcases code_cases c with ⟨e, -, hcode⟩ | ⟨-, hcode⟩
  · have hlength : (code c).length = 2 := congrArg List.length hcode
    omega
  · have hlength : (code c).length = 1 := congrArg List.length hcode
    omega

/-- A code has at least the bytes of its character: what is escaped has one byte
and gets two. -/
theorem length_utf8EncodeChar_le (c : Char) :
    (String.utf8EncodeChar c).length ≤ ((code c).flatMap String.utf8EncodeChar).length := by
  unfold code
  split
  · decide
  · decide
  · decide
  · decide
  · decide
  · exact Nat.le_of_eq (congrArg List.length (List.flatMap_singleton _ _).symm)

/-- The scanner of literals reads their code. -/
theorem reads : Reads read code where
  read_code := read_code
  read_quote := fun u => by rw [read]

/-- **Reading undoes writing.** The codes of `s` and a closing quote are read
as `s`, and what follows is left as it is. -/
theorem read_flatMap_code (s u : List Char) :
    read (s.flatMap code ++ '"' :: u) = some (s, u) :=
  reads.read_codes s u

/-- **The codes of a text tell the text**, and end at the closing quote. -/
theorem codes_append_inj {s t u z : List Char}
    (h : s.flatMap code ++ '"' :: u = t.flatMap code ++ '"' :: z) : s = t ∧ u = z :=
  reads.codes_append_inj h

end Literal

/-- **A literal holds no line control**, whatever its text holds. -/
theorem not_mem_lineControls_of_mem_literal {s : String} {c : Char}
    (h : c ∈ (literal s).toList) : c ∉ lineControls := by
  have hquote : '"' ∉ lineControls := by decide
  rw [literal, toList_delimited, List.mem_cons, List.mem_append, List.mem_singleton] at h
  rcases h with rfl | h | rfl
  · exact hquote
  · obtain ⟨d, -, hd⟩ := List.mem_flatMap.1 h
    exact Literal.not_mem_lineControls_of_mem_code hd
  · exact hquote

/-! ## Lengths -/

/-- Where each item gives at least as much, the whole list does. -/
theorem length_flatMap_le {α β γ : Type} {f : α → List β} {g : α → List γ}
    (h : ∀ a, (f a).length ≤ (g a).length) (l : List α) :
    (l.flatMap f).length ≤ (l.flatMap g).length := by
  induction l with
  | nil => exact Nat.le_refl 0
  | cons a l ih =>
    have ha := h a
    rw [List.flatMap_cons, List.flatMap_cons, List.length_append, List.length_append]
    omega

/-- **A literal has two characters more than its text, or more.** -/
theorem length_add_two_le_length_literal (s : String) : s.length + 2 ≤ (literal s).length := by
  have hcodes := length_flatMap_le (f := fun c => [c]) Literal.length_code_pos s.toList
  rw [List.flatMap_singleton', String.length_toList] at hcodes
  rw [← String.length_toList (s := literal s), literal, toList_delimited, List.length_cons,
    List.length_append, List.length_singleton]
  omega

/-- **A literal has two bytes more than its text, or more.** -/
theorem utf8ByteSize_add_two_le_utf8ByteSize_literal (s : String) :
    s.utf8ByteSize + 2 ≤ (literal s).utf8ByteSize := by
  have hcodes := length_flatMap_le Literal.length_utf8EncodeChar_le s.toList
  have hquote : (String.utf8EncodeChar '"').length = 1 := by decide
  have hbytes : (utf8 s).length + 2 ≤ (utf8 (literal s)).length := by
    rw [utf8, utf8, literal, toList_delimited, List.flatMap_cons, List.flatMap_append,
      List.flatMap_singleton, List.flatMap_assoc, List.length_append, List.length_append, hquote]
    omega
  rwa [length_utf8, length_utf8] at hbytes

end LispData
