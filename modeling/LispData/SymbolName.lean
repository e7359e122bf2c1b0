import LispData.Error
import LispData.Log
import LispData.Text.Blank
import LispData.Value.Basic
/-!
# Symbol names — which names can be read back

A reader would not read every text as a symbol: an empty one, one that a blank
or a delimiter would cut, a bare dot, or one that starts like a literal. A
symbol made from a checked name is free of these faults; a refused name is
reported in an error and in one trace record, in the same words.
-/

namespace LispData

/-- Why a name cannot be read back. -/
inductive NameFault where
  | empty
  | blank
  | delimiter
  | bareDot
  | hash
  deriving DecidableEq

namespace NameFault

/-- The reason in words. -/
def reason : NameFault → String
  | .empty => "empty name"
  | .blank => "contains whitespace"
  | .delimiter => "contains a delimiter"
  | .bareDot => "bare dot"
  | .hash => "starts with '#'"

end NameFault

/-- The characters that end a symbol or start another datum: brackets, double
quote, comma, single quote, backquote, semicolon and bar. -/
def delimiters : List Char :=
  ['(', ')', '[', ']', '\x7b', '\x7d', '"', ',', '\x27', '\x60', ';', '|']

/-- Whether `c` is a delimiter. -/
def isDelimiter (c : Char) : Bool :=
  delimiters.contains c

/-- The first fault of a name, if it has one; faults are looked for in the order
in which they are declared. -/
def nameFault? (name : String) : Option NameFault :=
  let chars := name.toList
  if chars.isEmpty then some .empty
  else if chars.any isBlank then some .blank
  else if chars.any isDelimiter then some .delimiter
  else if chars == ['.'] then some .bareDot
  else if chars.head? == some '#' then some .hash
  else none

/-- Whether a name can be read back. -/
def isReadableName (name : String) : Bool :=
  (nameFault? name).isNone

/-- **A checked symbol.** A readable name gives the symbol of that name and
leaves no record; any other is refused and leaves one. -/
def Symbol.parse (name : String) : Logged (Except Error Symbol) :=
  match nameFault? name with
  | none => ⟨.ok ⟨name⟩, []⟩
  | some fault =>
    ⟨.error (.invalidSymbolName name fault.reason),
      [⟨.naming, "rejecting symbol name " ++ quoted name ++ ": " ++ fault.reason⟩]⟩

end LispData
