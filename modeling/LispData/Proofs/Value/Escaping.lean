import LispData.Proofs.Text.Literal
import LispData.Proofs.Value.ListNotation
/-!
# Escaping — the write form as a display form

The two texts of a value differ in the quote marker and in how its texts are
shown. A value whose texts are replaced by their literals, at every depth, is
displayed as the value itself is written, apart from the marker
(`Value.listed_escaped`). Literals are longer than what they stand for, so the
datum form is at least as long as the display form, and the two are the same
when no text occurs (`Value.write_eq_display_escaped`). A text on its own is
written as its literal, which loses nothing of it and ends where it ends,
whatever follows (`Value.write_text_append`).
-/

namespace LispData

namespace Atom

/-- The atom with a text replaced by its literal. -/
def escaped : Atom → Atom
  | .text t => .text ⟨literal t.content⟩
  | a => a

/-- An atom is displayed with its text escaped as it is shown in a written
list. -/
theorem display_escaped (a : Atom) : a.escaped.display = a.datum := by
  cases a <;> rfl

theorem escaped_eq_empty_iff (a : Atom) : a.escaped = .empty ↔ a = .empty := by
  cases a with
  | text t => exact ⟨fun h => Atom.noConfusion h, fun h => Atom.noConfusion h⟩
  | _ => exact Iff.rfl

/-- Only a text is changed by escaping. -/
theorem escaped_eq_self {a : Atom} (h : a.kind ≠ .string) : a.escaped = a := by
  cases a with
  | text t => exact absurd rfl h
  | _ => rfl

/-- An atom is at least as large in a written list as displayed, in every size in
which literals are larger than their texts. -/
theorem size_display_le {size : String → Nat}
    (hliteral : ∀ s, size s + 2 ≤ size (literal s)) (a : Atom) : size a.display ≤ size a.datum := by
  cases a with
  | text t =>
    have htext : size t.content + 2 ≤ size (literal t.content) := hliteral t.content
    have hdisplay : (Atom.text t).display = t.content := rfl
    have hdatum : (Atom.text t).datum = literal t.content := rfl
    rw [hdisplay, hdatum]
    omega
  | _ => exact Nat.le_refl _

/-- An atom that is no longer in a written list than displayed is no text. -/
theorem kind_ne_string_of_length_le {a : Atom} (h : a.datum.length ≤ a.display.length) :
    a.kind ≠ .string := by
  cases a with
  | text t =>
    have htext := length_add_two_le_length_literal t.content
    have hle : (literal t.content).length ≤ t.content.length := h
    omega
  | _ => simp [kind]

end Atom

namespace Value

/-- The value with every text, at every depth, replaced by its literal. -/
def escaped (v : Value) : Value :=
  v.mapAtoms Atom.escaped

/-- No text occurs in the value. -/
def TextFree (v : Value) : Prop :=
  v.AllAtoms fun a => a.kind ≠ .string

/-- **Escaped texts are displayed as texts are written.** -/
theorem listed_escaped (v : Value) : v.escaped.listed Atom.display = v.listed Atom.datum := by
  rw [escaped, listed_mapAtoms Atom.escaped_eq_empty_iff]
  simp only [Atom.display_escaped]

theorem display_eq_listed (v : Value) : v.display = v.listed Atom.display := by
  rw [display_eq_displayed, displayed, Atom.display_eq_shown]

/-- **The datum form is at least as large as the display form**, in every size
that adds up and in which literals are larger than their texts. -/
theorem size_display_le {size : String → Nat} (hadd : ∀ s t, size (s ++ t) = size s + size t)
    (hliteral : ∀ s, size s + 2 ≤ size (literal s)) (v : Value) :
    size v.display ≤ size (v.listed Atom.datum) := by
  rw [display_eq_listed]
  exact size_listed_le hadd (Atom.size_display_le hliteral) v

/-- **The two forms agree on values without texts**, and on no others: a text
makes the datum form longer. -/
theorem listed_datum_eq_display_iff (v : Value) :
    v.listed Atom.datum = v.display ↔ v.TextFree := by
  have hle : ∀ a : Atom, a.display.length ≤ a.datum.length :=
    Atom.size_display_le length_add_two_le_length_literal
  constructor
  · intro h
    have hlength : (v.listed Atom.datum).length ≤ (v.listed Atom.display).length :=
      Nat.le_of_eq (by rw [h, display_eq_listed])
    have hatoms := allAtoms_of_size_listed_le String.length_append hle (Nat.le_refl _) v hlength
    exact hatoms.imp fun a ha => Atom.kind_ne_string_of_length_le ha
  · intro h
    have hself : v.escaped = v := mapAtoms_eq_self (h.imp fun a ha => Atom.escaped_eq_self ha)
    rw [← listed_escaped, hself, display_eq_listed]

/-- **Writing is displaying with texts escaped**, behind one quote marker when
the value is a symbol, the empty list or a pair. Without the marker the write
form is at least as long as the display form, in characters and in bytes, and it
is the display form exactly when no text occurs. -/
theorem write_eq_display_escaped (v : Value) :
    v.write = (if v.kind = .symbol ∨ v.kind = .null ∨ v.kind = .pair then "'" else "") ++
        v.datumInto "" ∧
      v.datumInto "" = v.escaped.display ∧
      v.display.length ≤ (v.datumInto "").length ∧
      v.display.utf8ByteSize ≤ (v.datumInto "").utf8ByteSize ∧
      (v.datumInto "" = v.display ↔ v.TextFree) := by
  have hdatum : v.datumInto "" = v.listed Atom.datum := by
    rw [datumInto_eq, String.empty_append]
  have hwrite : v.write =
      (if v.kind = .symbol ∨ v.kind = .null ∨ v.kind = .pair then "'" else "") ++
        v.listed Atom.datum := by
    rw [write_eq, quoteMarker]
    simp only [isQuoted_iff]
  rw [hdatum]
  refine ⟨hwrite, ?_, ?_, ?_, listed_datum_eq_display_iff v⟩
  · rw [display_eq_listed, listed_escaped]
  · exact size_display_le String.length_append length_add_two_le_length_literal v
  · exact size_display_le (fun _ _ => String.utf8ByteSize_append)
      utf8ByteSize_add_two_le_utf8ByteSize_literal v

/-! ## Written texts -/

/-- Behind its opening quote a written text goes on with the codes of its
characters, the closing quote and what follows. -/
theorem toList_write_text_append (s u : String) :
    ((Value.text s).write ++ u).toList =
      '"' :: (s.toList.flatMap Literal.code ++ '"' :: u.toList) := by
  have hwrite : (Value.text s).write = literal s := rfl
  rw [String.toList_append, hwrite, literal, toList_delimited, List.cons_append,
    List.append_assoc]
  rfl

/-- **A written text ends itself and loses nothing.** Two written texts with what
follows them are alike only if the texts are and what follows is; and the scanner
that starts behind the opening quote gives back the text and leaves what
follows. -/
theorem write_text_append :
    (∀ s t u z : String,
      (Value.text s).write ++ u = (Value.text t).write ++ z ↔ s = t ∧ u = z) ∧
      ∀ s u : String, ∃ behind, ((Value.text s).write ++ u).toList = '"' :: behind ∧
        Literal.read behind = some (s.toList, u.toList) := by
  refine ⟨fun s t u z => ⟨fun h => ?_, ?_⟩, fun s u => ?_⟩
  · have hchars := congrArg String.toList h
    rw [toList_write_text_append, toList_write_text_append, List.cons.injEq] at hchars
    obtain ⟨htext, hrest⟩ := Literal.codes_append_inj hchars.2
    exact ⟨String.toList_injective htext, String.toList_injective hrest⟩
  · rintro ⟨rfl, rfl⟩
    rfl
  · exact ⟨_, toList_write_text_append s u, Literal.read_flatMap_code s.toList u.toList⟩

end Value

end LispData
