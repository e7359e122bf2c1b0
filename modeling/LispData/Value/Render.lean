import LispData.Text.Literal
import LispData.Value.Walk
/-!
# Display and write — the two texts of a value

The **display** form is for people: texts are shown raw. The **write** form is
meant to be read back: texts are shown as literals, and a value that would be
evaluated — a symbol, the empty list, a pair — has one quote marker in front.
Inside a list nothing is quoted again; the form without the marker is the
**datum** form.

A pair is shown as a list: its elements between parentheses, one space apart,
and a dot before the ending of an improper list.
-/

namespace LispData

/-- What marks a written value as data. -/
def quoteMarker : String := "'"

/-- The texts of the two truth values. -/
def booleanText (b : Bool) : String :=
  if b then "#t" else "#f"

/-- The text of the empty list. -/
def emptyText : String := "()"

/-- The text of void. -/
def voidText : String := "#<void>"

/-! ## Symbols, numbers and texts -/

/-- A symbol is displayed by its name. -/
def Symbol.display (s : Symbol) : String :=
  s.name

/-- A symbol is written with the quote marker in front of its name. -/
def Symbol.write (s : Symbol) : String :=
  quoteMarker ++ s.name

/-- The decimal digits of a number, with a minus sign if it is negative. -/
def Number.decimal (n : Number) : String :=
  n.val.toInt.repr

/-- A number is displayed in decimal. -/
def Number.display (n : Number) : String :=
  n.decimal

/-- A number evaluates to itself, so it is written as it is displayed. -/
def Number.write (n : Number) : String :=
  n.decimal

/-- A text is displayed raw. -/
def Text.display (t : Text) : String :=
  t.content

/-- A text is written as a literal. -/
def Text.write (t : Text) : String :=
  literal t.content

/-! ## Inside a list -/

/-- The display form of an atom. -/
def Atom.display : Atom → String
  | .symbol s => s.name
  | .number n => n.display
  | .text t => t.content
  | .boolean b => booleanText b
  | .empty => emptyText
  | .void => voidText

/-- The datum form of an atom: its write form without the quote marker. -/
def Atom.datum : Atom → String
  | .symbol s => s.name
  | .number n => n.write
  | .text t => t.write
  | .boolean b => booleanText b
  | .empty => emptyText
  | .void => voidText

/-- A value in list notation, over a given text for each atom. -/
def listText (atomText : Atom → String) : Shape String where
  atom a := [atomText a]
  enter := ["("]
  next := [" "]
  proper := []
  dotted a := [" . ", atomText a]
  leave := [")"]

/-- Appends the display form of a value to `out`. -/
def Value.displayInto (out : String) (v : Value) : String :=
  v.walk (listText Atom.display) String.append out

/-- Appends the datum form of a value to `out`. -/
def Value.datumInto (out : String) (v : Value) : String :=
  v.walk (listText Atom.datum) String.append out

/-! ## Whole values -/

/-- A pair is displayed as a list of displayed elements. -/
def Pair.display (p : Pair) : String :=
  p.toValue.displayInto ""

/-- A pair is written as a list in datum form, with one quote marker in front. -/
def Pair.write (p : Pair) : String :=
  p.toValue.datumInto quoteMarker

namespace Value

/-- The display form of a value. -/
def display : Value → String
  | .atom (.symbol s) => s.display
  | .atom (.number n) => n.display
  | .atom (.text t) => t.display
  | .pair a d => Pair.display ⟨a, d⟩
  | v => v.displayInto ""

/-- The write form of a value. -/
def write : Value → String
  | .atom (.symbol s) => s.write
  | .atom (.number n) => n.write
  | .atom (.text t) => t.write
  | .pair a d => Pair.write ⟨a, d⟩
  | .empty => quoteMarker ++ emptyText
  | v => v.datumInto ""

/-- A value is converted to a string in its display form. -/
instance : ToString Value := ⟨display⟩

end Value

end LispData
