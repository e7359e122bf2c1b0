import LispData.Text.CodeRanges
/-!
# Blank characters — the Unicode property `White_Space`

The characters that separate one written datum from the next, so that no
readable symbol name holds one of them.
-/

namespace LispData

/-- The code points with the Unicode property `White_Space`. -/
def whiteSpace : CharClass where
  ranges := [⟨0x9, 0xD⟩, ⟨0x20, 0x20⟩, ⟨0x85, 0x85⟩, ⟨0xA0, 0xA0⟩, ⟨0x1680, 0x1680⟩,
    ⟨0x2000, 0x200A⟩, ⟨0x2028, 0x2029⟩, ⟨0x202F, 0x202F⟩, ⟨0x205F, 0x205F⟩, ⟨0x3000, 0x3000⟩]

/-- Whether `c` has the Unicode property `White_Space`. -/
def isBlank (c : Char) : Bool :=
  whiteSpace.contains c

end LispData
