/-!
# Extracts — a long text in brief

How long a text is, in bytes and in characters, and how it begins and ends.
-/

namespace LispData

/-- A text in brief. -/
structure Extract where
  /-- How many bytes the text has in UTF-8. -/
  bytes : Nat
  /-- How many characters it has. -/
  chars : Nat
  /-- Its first characters. -/
  head : String
  /-- Its last characters. -/
  tail : String

namespace Extract

/-- How many characters an extract shows of either end. -/
def width : Nat := 24

/-- The extract of a text. -/
def ofString (s : String) : Extract :=
  let chars := s.toList
  let count := chars.length
  { bytes := s.utf8ByteSize
    chars := count
    head := String.ofList (chars.take width)
    tail := String.ofList (chars.drop (count - width)) }

end Extract

end LispData
