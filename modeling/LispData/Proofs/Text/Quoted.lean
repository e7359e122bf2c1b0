import LispData.Proofs.Text.Delimited
import LispData.Text.Quoted
/-!
# Quoted texts — no escape is mistaken for another

A quoted text shows a character as itself, by a short escape, or by its code
point between braces (`Quoted.code_cases`). A scanner tells the three apart by
what stands behind a backslash (`Quoted.scan`); the digits of a code point give
back the number (`foldl_withDigit_toDigits`) and end at a brace, which is no
digit. So each character is read back from its code (`Quoted.scan_code`), and a
quoted text tells what it quotes and where it ends (`quoted_append_inj`).
-/

namespace LispData

/-! ## Hexadecimal digits -/

/-- The number that a hexadecimal digit stands for. -/
def digitValue (d : Char) : Nat :=
  if d.isDigit then d.toNat - '0'.toNat else d.toNat - 'a'.toNat + 10

/-- The number written by the digits of `n` with one more behind them. -/
def withDigit (n : Nat) (d : Char) : Nat :=
  16 * n + digitValue d

/-- A digit stands for the number it was made from. -/
theorem digitValue_digitChar {n : Nat} (h : n < 16) : digitValue n.digitChar = n := by
  have hall : ∀ i : Fin 16, digitValue i.val.digitChar = i.val := by decide
  exact hall ⟨n, h⟩

/-- The last digit is the remainder; the digits in front of it, if there are any,
are those of the quotient. -/
theorem toDigits_eq_append (n : Nat) :
    Nat.toDigits 16 n =
      (if n < 16 then [] else Nat.toDigits 16 (n / 16)) ++ [(n % 16).digitChar] := by
  rw [Nat.toDigits_eq_if (by decide)]
  split
  · next hn => rw [Nat.mod_eq_of_lt hn, List.nil_append]
  · rfl

/-- **A number is read back from its hexadecimal digits.** -/
theorem foldl_withDigit_toDigits (n : Nat) : (Nat.toDigits 16 n).foldl withDigit 0 = n := by
  -- by induction on the number, which its last digit divides by sixteen
  induction n using Nat.strongRecOn with
  | _ n ih =>
    have hlast : digitValue (n % 16).digitChar = n % 16 :=
      digitValue_digitChar (Nat.mod_lt n (by decide))
    rw [toDigits_eq_append, List.foldl_append, List.foldl_cons, List.foldl_nil, withDigit, hlast]
    split
    · next hn =>
      rw [List.foldl_nil]
      omega
    · next hn =>
      rw [ih (n / 16) (by omega)]
      omega

/-- The digits of a number are among the sixteen there are. -/
theorem exists_digitChar_of_mem_toDigits {n : Nat} {d : Char} (h : d ∈ Nat.toDigits 16 n) :
    ∃ i : Fin 16, i.val.digitChar = d := by
  induction n using Nat.strongRecOn with
  | _ n ih =>
    rw [toDigits_eq_append, List.mem_append, List.mem_singleton] at h
    rcases h with hfront | hlast
    · split at hfront
      · exact absurd hfront List.not_mem_nil
      · exact ih (n / 16) (by omega) hfront
    · exact ⟨⟨n % 16, Nat.mod_lt n (by decide)⟩, hlast.symm⟩

/-- **A sign that is none of the digits** stands in no numeral. -/
theorem not_mem_toDigits {c : Char} (hc : ∀ i : Fin 16, i.val.digitChar ≠ c) (n : Nat) :
    c ∉ Nat.toDigits 16 n := by
  intro hmem
  obtain ⟨i, hi⟩ := exists_digitChar_of_mem_toDigits hmem
  exact hc i hi

/-- The brace that ends a code point is no digit. -/
theorem brace_not_mem_toDigits (n : Nat) : '\x7d' ∉ Nat.toDigits 16 n :=
  not_mem_toDigits (by decide) n

namespace Quoted

/-- The character that the letter of a short escape stands for. -/
def unescape : Char → Option Char
  | '0' => some '\x00'
  | 't' => some '\t'
  | 'n' => some '\n'
  | 'r' => some '\r'
  | '"' => some '"'
  | '\\' => some '\\'
  | _ => none

/-- **A character is shown in one of three ways**: by a short escape, by its code
point, or as itself. -/
theorem code_cases (c : Char) :
    (∃ e, unescape e = some c ∧ code c = ['\\', e]) ∨ code c = codePoint c ∨
      (c ≠ '"' ∧ c ≠ '\\') ∧ code c = [c] := by
  unfold code
  split
  · exact Or.inl ⟨'0', rfl, rfl⟩
  · exact Or.inl ⟨'t', rfl, rfl⟩
  · exact Or.inl ⟨'n', rfl, rfl⟩
  · exact Or.inl ⟨'r', rfl, rfl⟩
  · exact Or.inl ⟨'"', rfl, rfl⟩
  · exact Or.inl ⟨'\\', rfl, rfl⟩
  · split
    · exact Or.inr (Or.inl rfl)
    · next hshow => exact Or.inr (Or.inr ⟨ne_of_showable (Bool.eq_false_iff.2 hshow), rfl⟩)

/-- **No code holds a line break.** -/
theorem newline_not_mem_code (c : Char) : '\n' ∉ code c := by
  rcases code_cases c with ⟨e, he, hc⟩ | hc | ⟨-, hc⟩
  · rw [hc, List.mem_cons, List.mem_singleton, not_or]
    refine ⟨by decide, ?_⟩
    rintro rfl
    cases he
  · -- neither the signs around the digits of a code point nor the digits are one
    rw [hc, codePoint]
    simp only [List.mem_cons, List.mem_append, List.not_mem_nil, or_false, not_or]
    exact ⟨by decide, by decide, by decide, not_mem_toDigits (by decide) _, by decide⟩
  · rw [hc, List.mem_singleton]
    rintro rfl
    exact absurd hc (by decide)

/-! ## Reading back -/

/-- Where a scan of a quoted text stands. -/
inductive Stage where
  /-- Between two characters. -/
  | between
  /-- Behind a backslash. -/
  | escape
  /-- Behind the letter of a code point, in front of its brace. -/
  | brace
  /-- Among the digits of a code point; those before write `n`. -/
  | digits (n : Nat)

/-- **The scanner of quoted texts**: the characters that are shown up to the first
bare quote, and what follows it. Nothing is read where the text breaks off or an
escape is not known. -/
def scan : Stage → List Char → Option (List Char × List Char)
  | _, [] => none
  | .between, c :: rest =>
    if c = '"' then some ([], rest)
    else if c = '\\' then scan .escape rest
    else (scan .between rest).map fun (cs, after) => (c :: cs, after)
  | .escape, e :: rest =>
    if e = 'u' then scan .brace rest
    else
      match unescape e with
      | none => none
      | some c => (scan .between rest).map fun (cs, after) => (c :: cs, after)
  | .brace, b :: rest => if b = '\x7b' then scan (.digits 0) rest else none
  | .digits n, d :: rest =>
    if d = '\x7d' then
      (scan .between rest).map fun (cs, after) => (Char.ofNat n :: cs, after)
    else scan (.digits (withDigit n d)) rest

/-- A short escape is read as its character. -/
theorem scan_escape {c e : Char} (h : unescape e = some c) (u : List Char) :
    scan .between ('\\' :: e :: u) =
      (scan .between u).map fun (cs, after) => (c :: cs, after) := by
  have hletter : e ≠ 'u' := by
    rintro rfl
    cases h
  have hescape : scan .between ('\\' :: e :: u) = scan .escape (e :: u) := rfl
  rw [hescape, scan, if_neg hletter, h]

/-- The digits of a code point are read up to its brace. -/
theorem scan_digits {ds : List Char} (h : '\x7d' ∉ ds) (n : Nat) (u : List Char) :
    scan (.digits n) (ds ++ '\x7d' :: u) =
      (scan .between u).map fun (cs, after) =>
        (Char.ofNat (ds.foldl withDigit n) :: cs, after) := by
  induction ds generalizing n with
  | nil => rfl
  | cons d ds ih =>
    rw [List.mem_cons, not_or] at h
    rw [List.cons_append, scan, if_neg (Ne.symm h.1), ih h.2, List.foldl_cons]

/-- A code point is read as its character. -/
theorem scan_codePoint (c : Char) (u : List Char) :
    scan .between (codePoint c ++ u) =
      (scan .between u).map fun (cs, after) => (c :: cs, after) := by
  have hopened : scan .between (codePoint c ++ u) =
      scan (.digits 0) (Nat.toDigits 16 c.toNat ++ ['\x7d'] ++ u) := rfl
  rw [hopened, List.append_assoc, List.singleton_append,
    scan_digits (brace_not_mem_toDigits c.toNat), foldl_withDigit_toDigits, Char.ofNat_toNat]

/-- **Each character is read back from its code.** -/
theorem scan_code (c : Char) (u : List Char) :
    scan .between (code c ++ u) =
      (scan .between u).map fun (cs, after) => (c :: cs, after) := by
  rcases code_cases c with ⟨e, he, hc⟩ | hc | ⟨⟨hquote, hbackslash⟩, hc⟩ <;> rw [hc]
  · exact scan_escape he u
  · exact scan_codePoint c u
  · rw [List.singleton_append, scan, if_neg hquote, if_neg hbackslash]

/-- The scanner reads the code of quoted texts. -/
theorem reads : Reads (scan .between) code where
  read_code := scan_code
  read_quote := fun _ => rfl

end Quoted

/-- **A quoted text stays inside its line**, whatever it quotes. -/
theorem newline_not_mem_quoted (s : String) : '\n' ∉ (quoted s).toList := by
  rw [quoted, toList_delimited]
  simp [Quoted.newline_not_mem_code]

/-- **A quoted text is cut off in one way only**, and tells what it quotes. -/
theorem quoted_append_inj {s t : String} {u z : List Char}
    (h : (quoted s).toList ++ u = (quoted t).toList ++ z) : s = t ∧ u = z :=
  Quoted.reads.delimited_append_inj h

end LispData
