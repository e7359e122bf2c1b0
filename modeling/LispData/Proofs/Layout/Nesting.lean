import LispData.Proofs.Layout.Lines
import LispData.Proofs.Text.Quoted
import LispData.Proofs.Text.Word
/-!
# Nesting — the brackets that are open at a place of a text

Reading a text from the left, each bracket counts, unless it stands in a string
literal (`Nesting.step`, `openBrackets`). A text is balanced when it leaves the
count as it was, whatever it was, and ends outside of literals (`Balanced`):
words and numerals are, since they hold neither brackets nor quotes
(`balanced_of_plain`), and so is every quoted text, whatever it quotes
(`balanced_quoted`).
-/

namespace LispData

/-! ## Signs -/

/-- Whether a sign opens a bracket. -/
def opens (c : Char) : Bool :=
  c == '(' || c == '[' || c == '\x7b'

/-- Whether a sign closes a bracket. -/
def closes (c : Char) : Bool :=
  c == ')' || c == ']' || c == '\x7d'

/-- Whether a sign is neither a bracket nor the quote that opens a literal. -/
def isPlain (c : Char) : Bool :=
  !opens c && !closes c && c != '"'

/-! ## Counting -/

/-- Where a sign stands: outside of literals, inside one, or behind the backslash
of an escape in one. -/
inductive Place where
  | outside
  | inside
  | escaped
  deriving DecidableEq

/-- The brackets open at a place of a text, and where it stands. -/
structure Nesting where
  depth : Nat
  place : Place

namespace Nesting

/-- **Behind one more sign.** A bracket counts outside of literals only; a quote
opens a literal there, and closes one unless it is escaped. -/
def step (n : Nesting) (c : Char) : Nesting :=
  match n.place with
  | .outside =>
    if opens c then ⟨n.depth + 1, .outside⟩
    else if closes c then ⟨n.depth - 1, .outside⟩
    else if c = '"' then ⟨n.depth, .inside⟩
    else n
  | .inside =>
    if c = '"' then ⟨n.depth, .outside⟩
    else if c = '\\' then ⟨n.depth, .escaped⟩
    else n
  | .escaped => ⟨n.depth, .inside⟩

end Nesting

/-- **How many brackets are open** behind a text, those in string literals not
counted. -/
def openBrackets (cs : List Char) : Nat :=
  (cs.foldl Nesting.step ⟨0, .outside⟩).depth

/-- Each bracket counts behind its sign. -/
theorem step_openSign (b : Bracket) (depth : Nat) :
    Nesting.step ⟨depth, .outside⟩ b.openSign = ⟨depth + 1, .outside⟩ := by
  cases b <;> rfl

theorem step_closeSign (b : Bracket) (depth : Nat) :
    Nesting.step ⟨depth, .outside⟩ b.closeSign = ⟨depth - 1, .outside⟩ := by
  cases b <;> rfl

/-- A plain sign changes nothing. -/
theorem step_plain {c : Char} (h : isPlain c = true) (depth : Nat) :
    Nesting.step ⟨depth, .outside⟩ c = ⟨depth, .outside⟩ := by
  simp only [isPlain, Bool.and_eq_true, Bool.not_eq_true', bne_iff_ne] at h
  obtain ⟨⟨hopens, hcloses⟩, hquote⟩ := h
  simp only [Nesting.step, hopens, hcloses, hquote]
  rfl

/-- Inside a literal a sign changes nothing, unless it is the quote or the escape. -/
theorem step_inside {c : Char} (hquote : c ≠ '"') (hescape : c ≠ '\\') (depth : Nat) :
    Nesting.step ⟨depth, .inside⟩ c = ⟨depth, .inside⟩ := by
  simp only [Nesting.step, if_neg hquote, if_neg hescape]

/-! ## Balanced texts -/

/-- **A balanced text** leaves the brackets open that were open before it, and
closes its literals. -/
def Balanced (cs : List Char) : Prop :=
  ∀ depth, cs.foldl Nesting.step ⟨depth, .outside⟩ = ⟨depth, .outside⟩

theorem Balanced.append {cs ds : List Char} (hcs : Balanced cs) (hds : Balanced ds) :
    Balanced (cs ++ ds) := by
  intro depth
  rw [List.foldl_append, hcs, hds]

/-- **A text without brackets and quotes is balanced.** -/
theorem balanced_of_plain {cs : List Char} (h : ∀ c ∈ cs, isPlain c = true) : Balanced cs := by
  intro depth
  induction cs with
  | nil => rfl
  | cons c cs ih =>
    rw [List.foldl_cons, step_plain (h c List.mem_cons_self)]
    exact ih fun d hd => h d (List.mem_cons_of_mem c hd)

/-- A character that stands in words is plain. -/
theorem isPlain_of_isWordChar {c : Char} (h : isWordChar c = true) : isPlain c = true := by
  have hdelimiter := (isWordChar_iff.1 h).2
  have hall : ['(', '[', '\x7b', ')', ']', '\x7d', '"'].all isDelimiter = true := by decide
  have hsigns : ∀ d ∈ ['(', '[', '\x7b', ')', ']', '\x7d', '"'], c ≠ d := by
    rintro d hd rfl
    rw [List.all_eq_true.1 hall c hd] at hdelimiter
    cases hdelimiter
  simp only [List.forall_mem_cons] at hsigns
  simp [isPlain, opens, closes, hsigns]

namespace Quoted

/-- **The code of a character stays inside the literal.** -/
theorem foldl_step_code (c : Char) (depth : Nat) :
    (code c).foldl Nesting.step ⟨depth, .inside⟩ = ⟨depth, .inside⟩ := by
  have hstays (cs : List Char) (h : ∀ d ∈ cs, d ≠ '"' ∧ d ≠ '\\') :
      cs.foldl Nesting.step ⟨depth, .inside⟩ = ⟨depth, .inside⟩ := by
    induction cs with
    | nil => rfl
    | cons d cs ih =>
      have hd := h d List.mem_cons_self
      rw [List.foldl_cons, step_inside hd.1 hd.2]
      exact ih fun e he => h e (List.mem_cons_of_mem d he)
  rcases code_cases c with ⟨e, -, hc⟩ | hc | ⟨hc', hc⟩ <;> rw [hc]
  · rfl
  · -- the backslash hides the letter; the braces and digits behind it count for nothing
    have hescaped : (codePoint c).foldl Nesting.step ⟨depth, .inside⟩ =
        ('\x7b' :: (Nat.toDigits 16 c.toNat ++ ['\x7d'])).foldl Nesting.step ⟨depth, .inside⟩ := rfl
    rw [hescaped]
    refine hstays _ fun d hd => ⟨?_, ?_⟩ <;> rintro rfl
    · simp [not_mem_toDigits (c := '"') (by decide)] at hd
    · simp [not_mem_toDigits (c := '\\') (by decide)] at hd
  · exact step_inside hc'.1 hc'.2 depth

/-- So do the codes of a text. -/
theorem foldl_step_codes (cs : List Char) (depth : Nat) :
    (cs.flatMap code).foldl Nesting.step ⟨depth, .inside⟩ = ⟨depth, .inside⟩ := by
  induction cs with
  | nil => rfl
  | cons c cs ih => rw [List.flatMap_cons, List.foldl_append, foldl_step_code, ih]

end Quoted

/-- **A quoted text is balanced**, whatever brackets and quotes it quotes. -/
theorem balanced_quoted (s : String) : Balanced (quoted s).toList := by
  intro depth
  have hopened : Nesting.step ⟨depth, .outside⟩ '"' = ⟨depth, .inside⟩ := rfl
  rw [quoted, toList_delimited, List.foldl_cons, hopened, List.foldl_append,
    Quoted.foldl_step_codes]
  rfl

end LispData
