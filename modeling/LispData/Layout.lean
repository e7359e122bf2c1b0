/-!
# Layout — bracketed text on one line or over many

Diagnostics are built from pieces: text, an opening bracket, a separator
between the parts, a closing bracket. The compact layout keeps all pieces on
one line; the layout over lines puts each part of a bracket on a line of its
own, with a comma after it and four spaces of indentation for each bracket
around it. Either way a bracket holds at least one part.
-/

namespace LispData

/-- The brackets that group the parts of a diagnostic. -/
inductive Bracket where
  | round
  | square
  | curly
  deriving DecidableEq

namespace Bracket

/-- How a bracket opens. -/
def openText : Bracket → String
  | .round => "("
  | .square => "["
  | .curly => "\x7b"

/-- How a bracket closes. -/
def closeText : Bracket → String
  | .round => ")"
  | .square => "]"
  | .curly => "\x7d"

/-- What keeps a bracket apart from its content on one line: a curly bracket
holds named fields and takes a space. -/
def padding : Bracket → String
  | .curly => " "
  | _ => ""

end Bracket

/-- A piece of a diagnostic. -/
inductive Piece where
  | text (s : String)
  | opening (b : Bracket)
  | separator
  | closing (b : Bracket)
  deriving DecidableEq

namespace Piece

/-- The text of a piece when all is on one line. -/
def compact : Piece → String
  | .text s => s
  | .opening b => b.openText ++ b.padding
  | .separator => ", "
  | .closing b => b.padding ++ b.closeText

/-- A named part in round brackets. -/
def tagged (name : String) (inside : List Piece) : List Piece :=
  .text name :: .opening .round :: (inside ++ [.closing .round])

/-- A named group of named fields. -/
def record (name : String) (fields : List (String × String)) : List Piece :=
  .text (name ++ " ") :: .opening .curly ::
    ((fields.map fun (field, shown) => [text (field ++ ": " ++ shown)]).intersperse
      [separator]).flatten ++ [.closing .curly]

end Piece

/-- All pieces on one line. -/
def onOneLine (pieces : List Piece) : String :=
  pieces.foldl (fun out p => out ++ p.compact) ""

/-- A layout over lines in progress: how many brackets are open, and the text
so far. -/
structure Lines where
  depth : Nat
  out : String

namespace Lines

/-- A new line, indented for `depth` open brackets. -/
def newline (depth : Nat) : String :=
  "\n" ++ "".pushn ' ' (4 * depth)

/-- Puts one more piece behind the text so far. -/
def put (l : Lines) : Piece → Lines
  | .text s => ⟨l.depth, l.out ++ s⟩
  | .opening b => ⟨l.depth + 1, l.out ++ b.openText ++ newline (l.depth + 1)⟩
  | .separator => ⟨l.depth, l.out ++ "," ++ newline l.depth⟩
  | .closing b => ⟨l.depth - 1, l.out ++ "," ++ newline (l.depth - 1) ++ b.closeText⟩

end Lines

/-- Each part of a bracket on a line of its own. -/
def overLines (pieces : List Piece) : String :=
  (pieces.foldl Lines.put ⟨0, ""⟩).out

end LispData
