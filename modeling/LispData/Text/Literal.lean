import LispData.Text.Delimited
/-!
# String literals — the written form of a text

A literal escapes the backslash, the double quote and the three line controls
newline, tab and carriage return; every other character stands for itself.
`read` is the matching scanner: it starts after the opening quote, undoes the
five escapes and stops at the first bare double quote, so the code of a
character is read as that character (`read_code`).
-/

namespace LispData

namespace Literal

/-- The characters that stand for `c` in a literal. -/
def code (c : Char) : List Char :=
  match c with
  | '\\' => ['\\', '\\']
  | '"' => ['\\', '"']
  | '\n' => ['\\', 'n']
  | '\t' => ['\\', 't']
  | '\r' => ['\\', 'r']
  | c => [c]

/-- The character that an escape letter stands for. -/
def unescape (c : Char) : Option Char :=
  match c with
  | '\\' => some '\\'
  | '"' => some '"'
  | 'n' => some '\n'
  | 't' => some '\t'
  | 'r' => some '\r'
  | _ => none

/-- Reads a literal whose opening quote is already behind: the characters it
stands for and what follows its closing quote. -/
def read : List Char → Option (List Char × List Char)
  | [] => none
  | '"' :: rest => some ([], rest)
  | '\\' :: rest =>
    match rest with
    | [] => none
    | e :: rest =>
      match unescape e with
      | none => none
      | some c => (read rest).map fun (cs, after) => (c :: cs, after)
  | c :: rest => (read rest).map fun (cs, after) => (c :: cs, after)

/-- A plain character is read as itself. -/
theorem read_plain {c : Char} (hq : c ≠ '"') (hb : c ≠ '\\') (rest : List Char) :
    read (c :: rest) = (read rest).map fun (cs, after) => (c :: cs, after) := by
  rw [read]
  · exact hq
  · exact hb

/-- One character's code is read as that character. -/
theorem read_code (c : Char) (rest : List Char) :
    read (code c ++ rest) = (read rest).map fun (cs, after) => (c :: cs, after) := by
  unfold code
  split
  · simp [read, unescape]
  · simp [read, unescape]
  · simp [read, unescape]
  · simp [read, unescape]
  · simp [read, unescape]
  · rename_i hb hq _ _ _
    exact read_plain hq hb rest

end Literal

/-- The string literal of `s`. -/
def literal (s : String) : String :=
  delimited Literal.code s

end LispData
