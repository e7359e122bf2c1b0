import LispData.Bytes
import LispData.Text.Utf8
import LispData.Value.Kind
import LispData.Value.Walk
/-!
# Hash streams — the bytes that stand for a value

Each value has a stream of bytes to be hashed. It starts with the tag of its
kind, an eight-byte word; then comes the content. The characters of a name or a
text end in a byte that occurs in no UTF-8 text. A pair streams the elements of
its chain one after the other, then a word that says whether the list is
improper, and if so the atom it ends in. The stream is a function of the tree
alone, so equal values have equal streams.
-/

namespace LispData

/-- The number that stands for a kind in a hash stream. -/
def Kind.tag : Kind → Nat
  | .symbol => 0
  | .number => 1
  | .string => 2
  | .boolean => 3
  | .null => 4
  | .pair => 5
  | .void => 6

/-- The UTF-8 bytes of a text, with a last byte that no such text holds. -/
def textBytes (s : String) : List UInt8 :=
  utf8 s ++ [0xff]

/-- The content of an atom in a hash stream, after the tag of its kind. -/
def Atom.contentBytes : Atom → List UInt8
  | .symbol s => textBytes s.name
  | .number n => intBytes n.val
  | .text t => textBytes t.content
  | .boolean b => [if b then 1 else 0]
  | .empty => []
  | .void => []

/-- The hash stream of an atom. -/
def Atom.hashBytes (a : Atom) : List UInt8 :=
  wordBytes a.kind.tag ++ a.contentBytes

/-- The hash stream of a value: what follows the elements of a chain is a word
that is one when an ending follows, and zero when the list is proper. -/
def hashStream : Shape UInt8 where
  atom := Atom.hashBytes
  enter := wordBytes Kind.pair.tag
  next := []
  proper := wordBytes 0
  dotted a := wordBytes 1 ++ a.hashBytes
  leave := []

namespace Value

/-- Appends the bytes of a value to a buffer. -/
def hashInto (buffer : ByteArray) (v : Value) : ByteArray :=
  v.walk hashStream ByteArray.push buffer

/-- The bytes of a value for hashing. -/
def hashBytes (v : Value) : List UInt8 :=
  (v.hashInto .empty).data.toList

/-- **Hashing appends the stream of the value**, whatever was hashed before. -/
theorem toList_hashInto (buffer : ByteArray) (v : Value) :
    (v.hashInto buffer).data.toList = buffer.data.toList ++ flatten hashStream v := by
  rw [hashInto, walk_eq_foldl]
  generalize flatten hashStream v = stream
  induction stream generalizing buffer with
  | nil => simp
  | cons b stream ih => simp [ih]

/-- The bytes of a value are what it emits as a hash stream. -/
theorem hashBytes_eq_flatten (v : Value) : v.hashBytes = flatten hashStream v := by
  rw [hashBytes, toList_hashInto]
  rfl

end Value

end LispData
