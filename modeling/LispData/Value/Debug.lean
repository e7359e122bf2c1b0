import LispData.Layout
import LispData.Text.Quoted
import LispData.Value.Walk
/-!
# Debug forms — values shown with their structure

The debug form names the kind of every datum, so that no two different values
look alike: a symbol and a text of the same characters are told apart, and
names and texts are quoted. A pair is shown as the list of its elements; the
ending of an improper list stands last, after a dot.

The form exists on one line and over lines. The ending of an improper list
stays on one line in both.
-/

namespace LispData

/-- The pieces of a symbol on its own. -/
def Symbol.pieces (s : Symbol) : List Piece :=
  Piece.record "Symbol" [("name", quoted s.name)]

/-- The pieces of a number on its own. -/
def Number.pieces (n : Number) : List Piece :=
  Piece.tagged "Number" [.text n.val.toInt.repr]

/-- The pieces of a text on its own. -/
def Text.pieces (t : Text) : List Piece :=
  Piece.tagged "Str" [.text (quoted t.content)]

/-- The pieces of an atom as a value, with the kind of datum named. -/
def Atom.pieces : Atom → List Piece
  | .symbol s => Piece.tagged "Symbol" s.pieces
  | .number n => Piece.tagged "Number" n.pieces
  | .text t => Piece.tagged "Str" t.pieces
  | .boolean b => Piece.tagged "Boolean" [.text (if b then "true" else "false")]
  | .empty => [.text "Empty"]
  | .void => [.text "Void"]

/-- The diagnostic of a value: a chain of pairs is one bracketed list. -/
def diagnostic : Shape Piece where
  atom := Atom.pieces
  enter := [.text "Pair", .opening .round, .opening .square]
  next := [.separator]
  proper := []
  dotted a := [.separator, .text (". " ++ onOneLine a.pieces)]
  leave := [.closing .square, .closing .round]

/-- The pieces of a pair on its own. -/
def Pair.pieces (p : Pair) : List Piece :=
  (p.walkInside diagnostic Array.push #[.opening .square]).toList ++ [.closing .square]

namespace Value

/-- The pieces of a value. -/
def pieces (v : Value) : List Piece :=
  (v.walk diagnostic Array.push #[]).toList

/-- The debug form on one line. -/
def debug (v : Value) : String :=
  onOneLine v.pieces

/-- The debug form over lines. -/
def pretty (v : Value) : String :=
  overLines v.pieces

/-- The pieces of a value are what it emits as a diagnostic. -/
theorem pieces_eq_flatten (v : Value) : v.pieces = flatten diagnostic v := by
  simp [pieces, toList_walk_push]

end Value

end LispData
