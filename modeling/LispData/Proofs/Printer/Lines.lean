import LispData.Proofs.Printer.SpacedOutput
import LispData.Proofs.Text.Literal
/-!
# Lines — one written value on each

A written value stays on its line: names hold no blanks, literals escape the
line controls, and list notation puts in none (`Value.not_mem_write`). So what a
printer puts out for values printed one by one, each with a newline, falls apart
at its newlines into the write forms and an empty remainder
(`Printer.println_lines`).
-/

namespace LispData

/-- No line control stands inside a word. -/
theorem not_mem_lineControls_of_isWordChar {c : Char} (h : isWordChar c = true) :
    c ∉ lineControls := by
  intro hc
  have hblank : isWordChar c = false := by
    rcases mem_lineControls.1 hc with rfl | rfl | rfl <;> decide
  rw [hblank] at h
  cases h

/-- The datum form of a readable atom holds no line control. -/
theorem Atom.not_mem_lineControls_of_mem_datum {a : Atom} (ha : a.Readable) {c : Char}
    (hc : c ∈ a.datum.toList) : c ∉ lineControls := by
  have hempty : ∀ d ∈ Atom.empty.datum.toList, d ∉ lineControls := by
    simp [toList_datum_empty, lineControls]
  rcases datum_cases ha with ⟨-, hword⟩ | ⟨t, rfl⟩ | rfl
  · exact not_mem_lineControls_of_isWordChar (hword c hc)
  · exact not_mem_lineControls_of_mem_literal hc
  · exact hempty c hc

namespace Value

/-- **A written value stays on its line**, whatever its texts hold. -/
theorem not_mem_write {v : Value} (hv : v.Readable) : ∀ c ∈ lineControls, c ∉ v.write.toList := by
  have hmarks : ∀ m ∈ listMarks, ∀ c ∈ m.toList, c ∉ lineControls := by
    simp [listMarks, lineControls]
  have hmarker : ∀ c ∈ quoteMarker.toList, c ∉ lineControls := by simp [quoteMarker, lineControls]
  have hdatum : ∀ c ∈ (v.listed Atom.datum).toList, c ∉ lineControls :=
    forall_mem_listed hmarks v
      (hv.imp fun a ha c hc => Atom.not_mem_lineControls_of_mem_datum ha hc)
  intro c hc hmem
  rw [write_eq, String.toList_append, List.mem_append] at hmem
  rcases hmem with hmem | hmem
  · split at hmem
    · exact hmarker c hmem hc
    · cases hmem
  · exact hdatum c hmem hc

end Value

namespace Printer

/-- Texts that are ended by a newline each are what newlines join, with nothing
behind the last. -/
theorem bytes_println (mode : Mode) (vs : List Value) :
    Request.bytes mode (vs.map .println) =
      utf8 ("\n".intercalate (vs.map (fun v => v.render mode) ++ [""])) := by
  induction vs with
  | nil => rfl
  | cons v vs ih =>
    have hcons : Request.bytes mode ((v :: vs).map .println) =
        utf8 (v.render mode ++ "\n") ++ Request.bytes mode (vs.map .println) := rfl
    have hmore : vs.map (fun v => v.render mode) ++ [""] ≠ [] := by
      intro h
      cases (List.append_eq_nil_iff.1 h).2
    rw [hcons, ih, List.map_cons, List.cons_append, String.intercalate_cons_of_ne_nil hmore,
      ← utf8_append]

/-- **Written values are framed by lines.** Readable values printed one by one,
each with a newline, are put out; the output splits at its newlines into their
write forms in order and an empty remainder, and no write form holds a newline,
a tab or a carriage return. -/
theorem println_lines (vs : List Value) (hvs : ∀ v ∈ vs, v.Readable) :
    (∀ report ∈ ((inMemory .write).run (vs.map .println)).1, report.result = .ok ()) ∧
      (∃ out : String,
        ((inMemory .write).run (vs.map .println)).2.sink.content.toList = utf8 out ∧
          (out.split '\n').toList.map String.Slice.copy = vs.map Value.write ++ [""]) ∧
      ∀ v ∈ vs, '\n' ∉ v.write.toList ∧ '\t' ∉ v.write.toList ∧ '\r' ∉ v.write.toList := by
  have hrun := run_inMemory .write (vs.map .println)
  have hlines : ∀ line ∈ vs.map Value.write ++ [""], '\n' ∉ line.toList := by
    intro line hline
    rcases List.mem_append.1 hline with hline | hline
    · obtain ⟨v, hv, rfl⟩ := List.mem_map.1 hline
      exact Value.not_mem_write (hvs v hv) '\n' (by decide)
    · obtain rfl := List.mem_singleton.1 hline
      exact List.not_mem_nil
  refine ⟨hrun.1, ⟨"\n".intercalate (vs.map Value.write ++ [""]), ?_, ?_⟩, fun v hv => ?_⟩
  · rw [hrun.2, bytes_println]
    rfl
  · have hsplit := String.toList_split_intercalate hlines
    rwa [if_neg fun h => List.cons_ne_nil _ _ (List.append_eq_nil_iff.1 h).2] at hsplit
  · have hnone := Value.not_mem_write (hvs v hv)
    exact ⟨hnone '\n' (by decide), hnone '\t' (by decide), hnone '\r' (by decide)⟩

/-- A text of two lines inside a list, and a text that is a tab, are on one line
each. -/
theorem println_lines_two :
    (∀ v ∈ [Value.list [.symbol "x", .text "a\nb"], .text "\t"], v.Readable) ∧
      ∃ out : String,
        ((inMemory .write).run ([Value.list [.symbol "x", .text "a\nb"], .text "\t"].map
          .println)).2.sink.content.toList = utf8 out ∧
        (out.split '\n').toList.map String.Slice.copy = ["'(x \"a\\nb\")", "\"\\t\"", ""] := by
  have hreadable : ∀ v ∈ [Value.list [.symbol "x", .text "a\nb"], .text "\t"], v.Readable := by
    intro v hv
    rcases List.mem_cons.1 hv with rfl | hv
    · exact ⟨⟨⟨"x"⟩, rfl⟩, trivial, trivial⟩
    · obtain rfl := List.mem_singleton.1 hv
      trivial
  obtain ⟨-, ⟨out, hout, hsplit⟩, -⟩ := println_lines _ hreadable
  exact ⟨hreadable, out, hout, hsplit.trans (by decide)⟩

end Printer

end LispData
