import LispData.Text.Utf8
/-!
# UTF-8 — what the bytes of a text tell

The bytes of a text tell the text (`utf8_injective`), and no text has the byte
whose bits are all set (`not_mem_utf8`), which is why that byte can end one. The
byte zero is that of the character NUL and of no other (`zero_not_mem_utf8`).
-/

namespace LispData

/-- **A text is told by its bytes.** -/
theorem utf8_injective {s t : String} (h : utf8 s = utf8 t) : s = t := by
  rw [← String.toByteArray_inj, ← toByteArray_utf8, h, toByteArray_utf8]

/-- Only the empty text has no bytes. -/
theorem utf8_eq_nil_iff {s : String} : utf8 s = [] ↔ s = "" := by
  constructor
  · intro h
    exact utf8_injective (h.trans utf8_empty.symm)
  · rintro rfl
    exact utf8_empty

/-- The bytes of a text are as many as its size says. -/
theorem length_utf8 (s : String) : (utf8 s).length = s.utf8ByteSize := by
  rw [← List.size_toByteArray, toByteArray_utf8, String.size_toByteArray]

/-- A byte has a zero bit where its mask and its lead have one. -/
theorem masked_ne {x mask lead : UInt8} (h : mask ||| lead ≠ 0xff) :
    x &&& mask ||| lead ≠ 0xff := by
  intro hx
  have hsub : (x &&& mask ||| lead) ||| (mask ||| lead) = mask ||| lead := by
    apply UInt8.eq_of_toBitVec_eq
    ext i hi
    simp only [UInt8.toBitVec_or, UInt8.toBitVec_and, BitVec.getElem_or, BitVec.getElem_and]
    grind
  rw [hx] at hsub
  rw [← hsub] at h
  exact h UInt8.neg_one_or

/-- The bytes of a character have a zero bit each. -/
theorem not_mem_utf8EncodeChar (c : Char) : 0xff ∉ String.utf8EncodeChar c := by
  have htail {x : UInt8} : 0xff ≠ x &&& 0x3f ||| 0x80 := (masked_ne (by decide)).symm
  have htwo {x : UInt8} : 0xff ≠ x &&& 0x1f ||| 0xc0 := (masked_ne (by decide)).symm
  have hthree {x : UInt8} : 0xff ≠ x &&& 0x0f ||| 0xe0 := (masked_ne (by decide)).symm
  have hfour {x : UInt8} : 0xff ≠ x &&& 0x07 ||| 0xf0 := (masked_ne (by decide)).symm
  have hsize : c.utf8Size = 1 ∨ c.utf8Size = 2 ∨ c.utf8Size = 3 ∨ c.utf8Size = 4 := by
    have := c.utf8Size_pos
    have := c.utf8Size_le_four
    omega
  rcases hsize with h | h | h | h
  · have hval : c.val ≤ 127 := Char.utf8Size_eq_one_iff.1 h
    rw [String.utf8EncodeChar_eq_singleton h, List.mem_singleton]
    intro heq
    have hnat : c.val.toNat % 256 = 255 := by
      rw [← UInt32.toNat_toUInt8, ← heq]
      rfl
    have hle : c.val.toNat ≤ 127 := UInt32.le_iff_toNat_le.1 hval
    omega
  · rw [String.utf8EncodeChar_eq_cons_cons h]
    simp [htail, htwo]
  · rw [String.utf8EncodeChar_eq_cons_cons_cons h]
    simp [htail, hthree]
  · rw [String.utf8EncodeChar_eq_cons_cons_cons_cons h]
    simp [htail, hfour]

/-- No text holds the byte that ends it. -/
theorem not_mem_utf8 (s : String) : 0xff ∉ utf8 s := by
  rw [utf8, List.mem_flatMap]
  rintro ⟨c, -, hc⟩
  exact not_mem_utf8EncodeChar c hc

/-- A character with a zero byte is NUL. -/
theorem eq_nul_of_zero_mem {c : Char} (h : 0 ∈ String.utf8EncodeChar c) : c = '\x00' := by
  have hzero {n : Nat} (hn : 0 = UInt8.ofNat n) : n % 256 = 0 := by
    rw [← UInt8.toNat_ofNat', ← hn]
    rfl
  have hnat : c.val.toNat = 0 := by
    simp only [String.utf8EncodeChar] at h
    split at h
    · have hone := hzero (List.mem_singleton.1 h)
      omega
    · -- a lead byte is not zero, nor is one that continues a character
      exfalso
      split at h
      · simp only [List.mem_cons, List.not_mem_nil, or_false] at h
        rcases h with h | h <;> have hbyte := hzero h <;> omega
      · split at h <;> simp only [List.mem_cons, List.not_mem_nil, or_false] at h
        · rcases h with h | h | h <;> have hbyte := hzero h <;> omega
        · rcases h with h | h | h | h <;> have hbyte := hzero h <;> omega
  exact Char.toNat_inj.1 hnat

/-- **A text without NUL has no zero byte.** -/
theorem zero_not_mem_utf8 {s : String} (h : '\x00' ∉ s.toList) : 0 ∉ utf8 s := by
  rw [utf8, List.mem_flatMap]
  rintro ⟨c, hc, hzero⟩
  rw [eq_nul_of_zero_mem hzero] at hc
  exact h hc

end LispData
