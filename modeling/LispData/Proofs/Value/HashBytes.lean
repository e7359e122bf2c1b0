import LispData.Proofs.Text.Span
import LispData.Proofs.Text.Utf8
import LispData.Value.Hash
/-!
# Hash bytes — every piece of a stream ends itself

A hash stream is made of eight-byte words and of texts that end in a byte no
text holds. From a word, a text or the stream of an atom one reads back what it
stands for, and where it stops (`Atom.hashBytes_append_inj`). So nothing that
two streams say of an atom can be mistaken; what may be mistaken is which piece
comes next.
-/

namespace LispData

/-! ## Words -/

/-- Numbers that fit are told by their bytes. -/
theorem littleEndian_inj {width m n : Nat} (hm : m < Nat.pow 256 width)
    (hn : n < Nat.pow 256 width) (h : littleEndian width m = littleEndian width n) : m = n := by
  rw [← ofLittleEndian_littleEndian hm, h, ofLittleEndian_littleEndian hn]

theorem length_wordBytes (n : Nat) : (wordBytes n).length = 8 :=
  length_littleEndian 8 n

theorem length_intBytes (n : Int64) : (intBytes n).length = 8 :=
  length_littleEndian 8 _

/-- An integer is told by its word. -/
theorem intBytes_injective {m n : Int64} (h : intBytes m = intBytes n) : m = n := by
  have hfits (i : Int64) : i.toUInt64.toNat < Nat.pow 256 8 := i.toUInt64.toNat_lt
  have hnat := littleEndian_inj (hfits m) (hfits n) h
  have hword : m.toUInt64 = n.toUInt64 := UInt64.toNat_inj.1 hnat
  rw [← m.toInt64_toUInt64, hword, n.toInt64_toUInt64]

/-- The tag of a kind is a small number. -/
theorem Kind.tag_lt (k : Kind) : k.tag < 7 := by
  cases k <;> decide

theorem Kind.tag_injective {j k : Kind} (h : j.tag = k.tag) : j = k := by
  cases j <;> cases k <;> first | rfl | cases h

/-- A small number is told by its word. -/
theorem wordBytes_inj {m n : Nat} (hm : m < 7) (hn : n < 7) (h : wordBytes m = wordBytes n) :
    m = n := by
  have hfits {i : Nat} (hi : i < 7) : i < Nat.pow 256 8 := Nat.lt_trans hi (by decide)
  exact littleEndian_inj (hfits hm) (hfits hn) h

/-- The integer whose word is that of a small number. -/
theorem intBytes_eq_wordBytes_iff {i : Int64} {n : Nat} (hn : n < 7) :
    intBytes i = wordBytes n ↔ i = Int64.ofNat n := by
  have hword : intBytes (Int64.ofNat n) = wordBytes n := by
    have hlt : n < 2 ^ 64 := Nat.lt_trans hn (by decide)
    have hnat : (Int64.ofNat n).toUInt64.toNat = n := UInt64.toNat_ofNat_of_lt' hlt
    rw [intBytes, hnat, wordBytes]
  rw [← hword]
  exact ⟨intBytes_injective, fun h => by rw [h]⟩

/-! ## Texts -/

/-- **A text ends itself.** -/
theorem textBytes_append_inj {s t : String} {k k' : List UInt8}
    (h : textBytes s ++ k = textBytes t ++ k') : s = t ∧ k = k' := by
  rw [textBytes, textBytes, List.append_assoc, List.append_assoc] at h
  have hspan (r : String) : ∀ b ∈ utf8 r, (b != 0xff) = true := by
    intro b hb
    rw [bne_iff_ne]
    rintro rfl
    exact not_mem_utf8 r hb
  have hend (k : List UInt8) : ∀ b ∈ ([0xff] ++ k).head?, (b != 0xff) = false := by
    rintro b ⟨⟩
    rfl
  obtain ⟨hbytes, hrest⟩ := span_append_inj (hspan s) (hspan t) (hend k) (hend k') h
  exact ⟨utf8_injective hbytes, List.append_cancel_left hrest⟩

/-! ## Atoms -/

namespace Atom

/-- The content of an atom ends itself, the kind being known. -/
theorem contentBytes_append_inj {a b : Atom} {k k' : List UInt8} (hkind : a.kind = b.kind)
    (h : a.contentBytes ++ k = b.contentBytes ++ k') : a = b ∧ k = k' := by
  cases sameKind_of_kind_eq hkind with
  | symbol s t =>
    obtain ⟨hname, hrest⟩ := textBytes_append_inj h
    rw [Symbol.ext hname]
    exact ⟨rfl, hrest⟩
  | number m n =>
    obtain ⟨hword, hrest⟩ := List.append_inj h
      ((length_intBytes m.val).trans (length_intBytes n.val).symm)
    rw [Number.ext (intBytes_injective hword)]
    exact ⟨rfl, hrest⟩
  | text s t =>
    obtain ⟨hcontent, hrest⟩ := textBytes_append_inj h
    rw [Text.ext hcontent]
    exact ⟨rfl, hrest⟩
  | boolean p q =>
    obtain ⟨hbyte, hrest⟩ := List.cons.inj h
    have hval : p = q := by
      revert hbyte
      cases p <;> cases q <;> decide
    rw [hval]
    exact ⟨rfl, hrest⟩
  | empty => exact ⟨rfl, h⟩
  | void => exact ⟨rfl, h⟩

/-- **The stream of an atom ends itself**: it starts with the word of its
kind. -/
theorem hashBytes_append_inj {a b : Atom} {k k' : List UInt8}
    (h : a.hashBytes ++ k = b.hashBytes ++ k') : a = b ∧ k = k' := by
  -- the word of the kind comes first, and how the content ends is known with the kind
  rw [hashBytes, hashBytes, List.append_assoc, List.append_assoc] at h
  obtain ⟨hword, hrest⟩ := List.append_inj h (by rw [length_wordBytes, length_wordBytes])
  have hkind := Kind.tag_injective (wordBytes_inj (Kind.tag_lt _) (Kind.tag_lt _) hword)
  exact contentBytes_append_inj hkind hrest

end Atom

end LispData
