import LispData.Proofs.Printer.WholeRun
import LispData.Proofs.Value.UniqueReading
/-!
# Spaced output — values written with single spaces between

A printer over a sink without limits puts out the texts of all its requests, and
every request succeeds (`Printer.run_inMemory`). Of values written in one
request the output tells how many there were and what each was written as
(`Printer.spaced_output_eq_iff`), although spaces stand inside lists and texts
too: a written value ends where a word may end, so the space behind it is found
from the left (`Value.spacedChars_inj`).
-/

namespace LispData

/-! ## Printing without limits -/

namespace Limits

/-- Without limits writing gets on. -/
theorem usable_unlimited : ({} : Limits).Usable where
  chunk_pos _ h := by cases h
  full_ne_interrupted _ h := by cases h

/-- Without limits there is always room. -/
theorem not_exceeded_unlimited (n : Nat) : ¬ ({} : Limits).Exceeded n := by
  rintro ⟨capacity, hcapacity, -⟩
  cases hcapacity

end Limits

namespace Printer

/-- A printer over a sink that takes everything. -/
def inMemory (mode : Mode) : Printer :=
  start mode {} 0

variable {p : Printer} {mode : Mode} {done : List Request}

/-- Without limits every request of a run succeeds. -/
theorem ok_of_mem_run (h : p.Asked mode {} done) (rs : List Request) :
    ∀ report ∈ (p.run rs).1, report.result = .ok () := by
  -- by induction on the requests, whatever was done before them
  induction rs generalizing p done with
  | nil =>
    intro report hreport
    cases hreport
  | cons r rs ih =>
    obtain ⟨hasked, hsettled⟩ := perform_settled h Limits.usable_unlimited r
    have hroom : ¬ (r.text mode ≠ "" ∧
        ({} : Limits).Exceeded (Request.bytes mode (done ++ [r])).length) :=
      fun hrefused => Limits.not_exceeded_unlimited _ hrefused.2
    rw [run_cons]
    intro report hreport
    rcases List.mem_cons.1 hreport with rfl | hreport
    · exact (hsettled.flushed hroom).2
    · exact ih hasked report hreport

/-- **What a printer without limits puts out** is the texts of its requests, none
of which fails. -/
theorem run_inMemory (mode : Mode) (rs : List Request) :
    (∀ report ∈ ((inMemory mode).run rs).1, report.result = .ok ()) ∧
      ((inMemory mode).run rs).2.sink.content.toList = Request.bytes mode rs := by
  have hstart := start_asked mode {} 0
  exact ⟨ok_of_mem_run hstart rs, (run_asked hstart Limits.usable_unlimited rs).holds.content_eq⟩

end Printer

/-! ## Written values and spaces -/

namespace Value

/-- The characters behind a written value: each further one behind a space. -/
def spacedChars (vs : List Value) : List Char :=
  vs.flatMap fun v => ' ' :: v.write.toList

theorem spacedChars_cons (v : Value) (vs : List Value) :
    spacedChars (v :: vs) = ' ' :: (v.write.toList ++ spacedChars vs) :=
  List.flatMap_cons

/-- Written values with spaces between are the first and those behind it. -/
theorem toList_intercalate_write (v : Value) (vs : List Value) :
    (" ".intercalate ((v :: vs).map write)).toList = v.write.toList ++ spacedChars vs := by
  induction vs generalizing v with
  | nil => simp [spacedChars]
  | cons w vs ih =>
    rw [List.map_cons, List.map_cons, String.intercalate_cons_cons, String.toList_append,
      String.toList_append, ← List.map_cons, ih, spacedChars_cons, List.append_assoc]
    rfl

/-- What follows a written value ends it. -/
theorem endsWord_spacedChars (vs : List Value) : EndsWord (spacedChars vs) := by
  cases vs with
  | nil => exact endsWord_nil
  | cons v vs =>
    rw [spacedChars_cons]
    exact endsWord_cons (by decide)

/-- **Values behind spaces are told apart** one after the other. -/
theorem spacedChars_inj {vs ws : List Value} (hvs : ∀ v ∈ vs, v.Readable)
    (hws : ∀ w ∈ ws, w.Readable) (h : spacedChars vs = spacedChars ws) :
    vs.map write = ws.map write := by
  -- by induction on one list, for every other; each step cuts off one written value
  induction vs generalizing ws with
  | nil =>
    cases ws with
    | nil => rfl
    | cons w ws =>
      rw [spacedChars_cons] at h
      cases h
  | cons v vs ih =>
    cases ws with
    | nil =>
      rw [spacedChars_cons] at h
      cases h
    | cons w ws =>
      rw [spacedChars_cons, spacedChars_cons] at h
      have hv : v.Readable := hvs v List.mem_cons_self
      have hw : w.Readable := hws w List.mem_cons_self
      obtain ⟨htold, hrest⟩ := write_append_inj hv hw (endsWord_spacedChars vs)
        (endsWord_spacedChars ws) (List.cons.inj h).2
      have hfirst : v.write = w.write := (write_eq_iff hv hw).2 htold
      have hothers : vs.map write = ws.map write :=
        ih (fun x hx => hvs x (List.mem_cons_of_mem v hx))
          (fun x hx => hws x (List.mem_cons_of_mem w hx)) hrest
      rw [List.map_cons, List.map_cons, hfirst, hothers]

/-- **Joined by spaces, written values are told apart**, also from none at all. -/
theorem intercalate_write_inj {vs ws : List Value} (hvs : ∀ v ∈ vs, v.Readable)
    (hws : ∀ w ∈ ws, w.Readable)
    (h : " ".intercalate (vs.map write) = " ".intercalate (ws.map write)) :
    vs.map write = ws.map write := by
  have hsome {v : Value} {vs : List Value} (hv : v.Readable) :
      " ".intercalate ((v :: vs).map write) ≠ "" := by
    intro hempty
    have hchars := toList_intercalate_write v vs
    rw [hempty] at hchars
    exact toList_write_ne_nil hv (List.append_eq_nil_iff.1 hchars.symm).1
  cases vs with
  | nil =>
    cases ws with
    | nil => rfl
    | cons w ws => exact absurd h.symm (hsome (hws w List.mem_cons_self))
  | cons v vs =>
    cases ws with
    | nil => exact absurd h (hsome (hvs v List.mem_cons_self))
    | cons w ws =>
      -- with a space in front of both, the first values are like the others
      have hspaced : spacedChars (v :: vs) = spacedChars (w :: ws) := by
        rw [spacedChars_cons, spacedChars_cons, ← toList_intercalate_write,
          ← toList_intercalate_write, h]
      exact spacedChars_inj hvs hws hspaced

/-- Two lists of values are written alike when they are as long and written alike
place by place. -/
theorem map_write_eq_iff {vs ws : List Value} :
    vs.map write = ws.map write ↔
      vs.length = ws.length ∧
        ∀ (i : Nat) (v w : Value), vs[i]? = some v → ws[i]? = some w → v.write = w.write := by
  constructor
  · intro h
    have hlength : vs.length = ws.length := by
      simpa only [List.length_map] using congrArg List.length h
    refine ⟨hlength, fun i v w hv hw => ?_⟩
    have hplace := congrArg (fun texts => texts[i]?) h
    simpa only [List.getElem?_map, hv, hw, Option.map_some, Option.some.injEq] using hplace
  · rintro ⟨hlength, hplaces⟩
    refine List.ext_getElem? fun i => ?_
    rw [List.getElem?_map, List.getElem?_map]
    rcases Nat.lt_or_ge i vs.length with hi | hi
    · have hi' : i < ws.length := by omega
      rw [List.getElem?_eq_getElem hi, List.getElem?_eq_getElem hi', Option.map_some,
        Option.map_some, hplaces i _ _ (List.getElem?_eq_getElem hi)
          (List.getElem?_eq_getElem hi')]
    · have hi' : ws.length ≤ i := by omega
      rw [List.getElem?_eq_none hi, List.getElem?_eq_none hi']

end Value

namespace Printer

/-- What a request for values puts out is their write forms with spaces
between. -/
theorem content_writeAll (vs : List Value) :
    ((inMemory .write).run [.writeAll vs]).2.sink.content.toList =
      utf8 (" ".intercalate (vs.map Value.write)) := by
  rw [(run_inMemory .write [.writeAll vs]).2, Request.bytes_singleton]
  rfl

/-- **Spaced output is uniquely decodable.** Readable values written in one
request are put out, and the output is that of other readable values exactly
when these are as many and are written alike one by one. -/
theorem spaced_output_eq_iff (vs ws : List Value) (hvs : ∀ v ∈ vs, v.Readable)
    (hws : ∀ w ∈ ws, w.Readable) :
    (∀ report ∈ ((inMemory .write).run [.writeAll vs]).1, report.result = .ok ()) ∧
      (((inMemory .write).run [.writeAll vs]).2.sink.content =
          ((inMemory .write).run [.writeAll ws]).2.sink.content ↔
        vs.length = ws.length ∧
          ∀ (i : Nat) (v w : Value), vs[i]? = some v → ws[i]? = some w → v.write = w.write) := by
  refine ⟨(run_inMemory .write _).1, ?_⟩
  rw [← Value.map_write_eq_iff, ← Array.toList_inj, content_writeAll, content_writeAll]
  constructor
  · intro h
    exact Value.intercalate_write_inj hvs hws (utf8_injective h)
  · intro h
    rw [h]

/-- A text that holds the end of one literal and the start of another is put out
unlike the two. -/
theorem spaced_output_quote_ne :
    (∀ v ∈ [Value.text "a\" \"b"], v.Readable) ∧
      (∀ w ∈ [Value.text "a", .text "b"], w.Readable) ∧
      ((inMemory .write).run [.writeAll [.text "a\" \"b"]]).2.sink.content ≠
        ((inMemory .write).run [.writeAll [.text "a", .text "b"]]).2.sink.content := by
  have hone : ∀ v ∈ [Value.text "a\" \"b"], v.Readable := by
    intro v hv
    obtain rfl := List.mem_singleton.1 hv
    trivial
  have htwo : ∀ w ∈ [Value.text "a", .text "b"], w.Readable := by
    intro w hw
    rcases List.mem_cons.1 hw with rfl | hw
    · trivial
    · obtain rfl := List.mem_singleton.1 hw
      trivial
  refine ⟨hone, htwo, fun h => ?_⟩
  have hlength := ((spaced_output_eq_iff _ _ hone htwo).2.1 h).1
  cases hlength

end Printer

end LispData
