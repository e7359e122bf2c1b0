/-!
# Spans — cutting a list where a class of items ends

A list that starts with items of one class, followed by an item outside the
class or by nothing, is cut apart in one way only (`span_append_inj`). Words are
cut off like this, and so are the bytes of a text in a hash stream.
-/

namespace LispData

variable {α : Type} {p : α → Bool}

/-- The items of a class in front of a list are what is taken while the class
lasts. -/
theorem takeWhile_span_append {w u : List α} (hw : ∀ a ∈ w, p a = true)
    (hu : ∀ a ∈ u.head?, p a = false) : (w ++ u).takeWhile p = w := by
  have hnone : u.takeWhile p = [] := by
    cases u with
    | nil => rfl
    | cons a u => rw [List.takeWhile_cons, hu a rfl]; rfl
  rw [List.takeWhile_append_of_pos hw, hnone, List.append_nil]

/-- **A span and what follows it are cut apart in one way only.** -/
theorem span_append_inj {w w' u u' : List α} (hw : ∀ a ∈ w, p a = true)
    (hw' : ∀ a ∈ w', p a = true) (hu : ∀ a ∈ u.head?, p a = false)
    (hu' : ∀ a ∈ u'.head?, p a = false) (h : w ++ u = w' ++ u') : w = w' ∧ u = u' := by
  have hspan : w = w' := by
    rw [← takeWhile_span_append hw hu, h, takeWhile_span_append hw' hu']
  subst hspan
  exact ⟨rfl, List.append_cancel_left h⟩

end LispData
