/-!
# UTF-8 — the bytes of a text

The bytes of a text are the bytes of its characters, one after the other
(`toByteArray_utf8`), so a text put together from parts has the bytes of its
parts.
-/

namespace LispData

/-- The bytes of a text in UTF-8. -/
def utf8 (s : String) : List UInt8 :=
  s.toList.flatMap String.utf8EncodeChar

/-- The bytes agree with those that the text is held in. -/
theorem toByteArray_utf8 (s : String) : (utf8 s).toByteArray = s.toByteArray := by
  conv => rhs; rw [← String.ofList_toList (s := s)]
  rfl

@[simp] theorem utf8_empty : utf8 "" = [] := rfl

/-- **Parts keep their bytes.** -/
@[simp] theorem utf8_append (s t : String) : utf8 (s ++ t) = utf8 s ++ utf8 t := by
  simp [utf8]

end LispData
