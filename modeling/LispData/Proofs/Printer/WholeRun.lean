import LispData.Printer
import LispData.Proofs.Printer.Writing
import LispData.Proofs.Text.Utf8
/-!
# Whole runs — what a printer leaves behind, step by step

The text of a request is the rendering of its value, with a newline or without,
or the renderings of its values with spaces between (`Request.text`). After any
requests the sink holds as much as it has room for of all their texts
(`Printer.Asked`), however many of them failed; one request carries this on
(`perform_settled`), so a run does (`run_asked`). What a request comes to in a
run follows (`Printer.Settled`): it fails to write, and is not flushed, exactly
when it has a text and the texts so far exceed the room; every other request
flushes once and ends as that flush does.
-/

namespace LispData

/-! ## Texts -/

/-- The bytes of texts with a separator between each and the next. -/
theorem flatMap_utf8_intersperse (separator : String) (texts : List String) :
    (texts.intersperse separator).flatMap utf8 = utf8 (separator.intercalate texts) := by
  induction texts with
  | nil => rfl
  | cons text texts ih =>
    cases texts with
    | nil => simp
    | cons next texts =>
      rw [List.intersperse_cons_cons, List.flatMap_cons, List.flatMap_cons, ih,
        String.intercalate_cons_cons, utf8_append, utf8_append, List.append_assoc]

namespace Request

/-- **The text of a request**: a rendering, a rendering and a newline, or
renderings with single spaces between. -/
def text (mode : Mode) : Request → String
  | .print v => v.render mode
  | .println v => v.render mode ++ "\n"
  | .writeAll vs => " ".intercalate (vs.map fun v => v.render mode)

/-- The texts written for a request are its text in pieces. -/
theorem flatMap_utf8_texts (r : Request) (mode : Mode) :
    (r.texts mode).flatMap utf8 = utf8 (r.text mode) := by
  cases r with
  | print v => simp [texts, values, ending, text]
  | println v => simp [texts, values, ending, text]
  | writeAll vs =>
    show ((vs.map fun v : Value => v.render mode).intersperse " " ++ []).flatMap utf8 = _
    rw [List.append_nil, flatMap_utf8_intersperse]
    rfl

/-- The bytes of the texts of requests. -/
def bytes (mode : Mode) (rs : List Request) : List UInt8 :=
  rs.flatMap fun r => utf8 (r.text mode)

theorem bytes_append (mode : Mode) (rs rs' : List Request) :
    bytes mode (rs ++ rs') = bytes mode rs ++ bytes mode rs' :=
  List.flatMap_append

theorem bytes_singleton (mode : Mode) (r : Request) : bytes mode [r] = utf8 (r.text mode) :=
  List.flatMap_singleton ..

end Request

/-! ## Flushing -/

/-- How the flush with this number ends. -/
def Limits.flushOutcome (l : Limits) (number : Nat) : Except Fault Unit :=
  match l.flushFault with
  | some fault => if l.flushesAllowed < number then .error fault else .ok ()
  | none => .ok ()

namespace Sink

/-- A flush is counted and changes nothing else. -/
theorem flush_eq (s : Sink) :
    s.flush = (s.limits.flushOutcome (s.flushes + 1), { s with flushes := s.flushes + 1 }) := by
  cases hfault : s.limits.flushFault <;> simp only [flush, Limits.flushOutcome, hfault]

end Sink

namespace Printer

/-- The printer that nothing was asked of yet. -/
def start (mode : Mode) (limits : Limits) (interrupts : Nat) : Printer :=
  ⟨mode, { limits, interrupts }⟩

/-- **What is known of a printer** after the requests `done`. -/
structure Asked (p : Printer) (mode : Mode) (limits : Limits) (done : List Request) : Prop where
  mode_eq : p.mode = mode
  holds : p.sink.Holds limits (Request.bytes mode done)

/-- **What comes of a request** after the requests `done`: from the sinks before
and after it, and its report. -/
structure Settled (mode : Mode) (limits : Limits) (done : List Request) (r : Request)
    (before after : Sink) (report : PrintReport) : Prop where
  /-- The sink holds the first bytes of all texts, as many as there is room for. -/
  content_eq : after.content.toList = limits.fitting (Request.bytes mode (done ++ [r]))
  /-- The report counts the flushes. -/
  report_flushes : report.flushes = after.flushes
  /-- Writing fails, with no flush, when there is a text and not room for all. -/
  refused_iff : report.result = .error (.output limits.writeFault) ∧
      after.flushes = before.flushes ↔
    r.text mode ≠ "" ∧ limits.Exceeded (Request.bytes mode (done ++ [r])).length
  /-- Otherwise there is one flush, and the request ends as it does. -/
  flushed : ¬ (r.text mode ≠ "" ∧ limits.Exceeded (Request.bytes mode (done ++ [r])).length) →
    after.flushes = before.flushes + 1 ∧
      report.result = (limits.flushOutcome after.flushes).mapError .output

variable {p : Printer} {mode : Mode} {limits : Limits} {done : List Request} {r : Request}
  {before after : Sink} {report : PrintReport}

/-- A request settles with a failure to write. -/
theorem Settled.of_refused
    (hcontent : after.content.toList = limits.fitting (Request.bytes mode (done ++ [r])))
    (hreport : report.flushes = after.flushes)
    (hrefused : r.text mode ≠ "" ∧ limits.Exceeded (Request.bytes mode (done ++ [r])).length)
    (hflushes : after.flushes = before.flushes)
    (hresult : report.result = .error (.output limits.writeFault)) :
    Settled mode limits done r before after report :=
  ⟨hcontent, hreport, ⟨fun _ => hrefused, fun _ => ⟨hresult, hflushes⟩⟩,
    fun hnot => absurd hrefused hnot⟩

/-- A request settles with a flush, which is why it is no failure to write: those
are not flushed. -/
theorem Settled.of_flushed
    (hcontent : after.content.toList = limits.fitting (Request.bytes mode (done ++ [r])))
    (hreport : report.flushes = after.flushes)
    (hrefused : ¬ (r.text mode ≠ "" ∧
      limits.Exceeded (Request.bytes mode (done ++ [r])).length))
    (hflushes : after.flushes = before.flushes + 1)
    (hresult : report.result = (limits.flushOutcome after.flushes).mapError .output) :
    Settled mode limits done r before after report :=
  ⟨hcontent, hreport, ⟨fun h => by have := h.2; omega, fun h => absurd h hrefused⟩,
    fun _ => ⟨hflushes, hresult⟩⟩

theorem start_asked (mode : Mode) (limits : Limits) (interrupts : Nat) :
    (start mode limits interrupts).Asked mode limits [] := by
  refine ⟨rfl, rfl, ?_⟩
  show [] = limits.fitting []
  rw [Limits.fitting]
  split
  · rw [List.take_nil]
  · rfl

/-- **Delivering texts**: a failure to write comes without a flush; otherwise
there is one flush, and the delivery ends as it does. -/
theorem deliver_outcome {s : Sink} {total : List UInt8} (h : s.Holds limits total)
    (hu : limits.Usable) (texts : List String) :
    (deliver s texts).2.Holds limits (total ++ texts.flatMap utf8) ∧
      match limits.outcome total (texts.flatMap utf8) with
      | .error fault => (deliver s texts).1 = .error fault ∧
          (deliver s texts).2.flushes = s.flushes
      | .ok () => (deliver s texts).2.flushes = s.flushes + 1 ∧
          (deliver s texts).1 = limits.flushOutcome (s.flushes + 1) := by
  have hwritten := h.writeTexts_written hu texts
  rcases hres : s.writeTexts texts with ⟨fault | _, t⟩
  · rw [hres] at hwritten
    rw [deliver, hres, ← hwritten.result_eq]
    exact ⟨hwritten.holds, rfl, hwritten.flushes_eq⟩
  · rw [hres] at hwritten
    rw [deliver, hres, ← hwritten.result_eq]
    show (t.flush).2.Holds _ _ ∧ (t.flush).2.flushes = _ ∧ (t.flush).1 = _
    rw [t.flush_eq, hwritten.flushes_eq, hwritten.holds.limits_eq]
    exact ⟨⟨rfl, hwritten.holds.content_eq⟩, rfl, rfl⟩

/-- **One request settles**, whatever was asked before. -/
theorem perform_settled (h : p.Asked mode limits done) (hu : limits.Usable) (r : Request) :
    (p.perform r).2.Asked mode limits (done ++ [r]) ∧
      Settled mode limits done r p.sink (p.perform r).2.sink (p.perform r).1 := by
  -- the record of calls is cleared first, which changes nothing that is held
  have hclear : p.sink.clearCalls.Holds limits (Request.bytes mode done) :=
    ⟨h.holds.limits_eq, h.holds.content_eq⟩
  have hperform : p.perform r =
      (⟨(deliver p.sink.clearCalls (r.texts p.mode)).1.mapError .output, [p.record r],
          (deliver p.sink.clearCalls (r.texts p.mode)).2.calls,
          (deliver p.sink.clearCalls (r.texts p.mode)).2.flushes⟩,
        { p with sink := (deliver p.sink.clearCalls (r.texts p.mode)).2 }) := rfl
  have htext : utf8 (r.text mode) ≠ [] ↔ r.text mode ≠ "" := not_congr utf8_eq_nil_iff
  obtain ⟨hholds, hdelivered⟩ := deliver_outcome hclear hu (r.texts p.mode)
  rw [h.mode_eq] at hperform hholds hdelivered
  rw [r.flatMap_utf8_texts] at hholds hdelivered
  rw [hperform]
  generalize deliver p.sink.clearCalls (r.texts mode) = delivered at hholds hdelivered ⊢
  have hbytes : Request.bytes mode (done ++ [r]) =
      Request.bytes mode done ++ utf8 (r.text mode) := by
    rw [Request.bytes_append, Request.bytes_singleton]
  rw [← hbytes] at hholds
  refine ⟨⟨rfl, hholds⟩, ?_⟩
  by_cases hrefused : utf8 (r.text mode) ≠ [] ∧
      limits.Exceeded (Request.bytes mode done ++ utf8 (r.text mode)).length
  · rw [Limits.outcome_of_exceeded hrefused.1 hrefused.2] at hdelivered
    obtain ⟨hresult, hflushes⟩ := hdelivered
    rw [htext, ← hbytes] at hrefused
    exact .of_refused hholds.content_eq rfl hrefused hflushes (by rw [hresult]; rfl)
  · rw [Limits.outcome, if_neg hrefused] at hdelivered
    obtain ⟨hflushes, hresult⟩ := hdelivered
    rw [htext, ← hbytes] at hrefused
    exact .of_flushed hholds.content_eq rfl hrefused hflushes (by rw [hresult, hflushes])

/-! ## Runs -/

theorem run_cons (p : Printer) (r : Request) (rest : List Request) :
    p.run (r :: rest) =
      ((p.perform r).1 :: ((p.perform r).2.run rest).1, ((p.perform r).2.run rest).2) := by
  rw [run]

/-- A run in two parts goes on from where the first part left the printer. -/
theorem run_append (p : Printer) (rs rs' : List Request) :
    p.run (rs ++ rs') =
      ((p.run rs).1 ++ ((p.run rs).2.run rs').1, ((p.run rs).2.run rs').2) := by
  induction rs generalizing p with
  | nil => rfl
  | cons r rs ih => rw [List.cons_append, run_cons, run_cons, ih, List.cons_append]

/-- Every request has a report. -/
theorem length_run (p : Printer) (rs : List Request) : (p.run rs).1.length = rs.length := by
  induction rs generalizing p with
  | nil => rfl
  | cons r rs ih =>
    rw [run_cons, List.length_cons, List.length_cons, ih]

/-- The report of a request is that of the printer after the requests before
it. -/
theorem getElem?_run (p : Printer) (done : List Request) (r : Request) (rest : List Request) :
    (p.run (done ++ r :: rest)).1[done.length]? = some ((p.run done).2.perform r).1 := by
  rw [run_append, ← length_run p done, List.getElem?_append_right (Nat.le_refl _), Nat.sub_self]
  rfl

/-- **A run carries on** what is known of a printer. -/
theorem run_asked (h : p.Asked mode limits done) (hu : limits.Usable) (rs : List Request) :
    (p.run rs).2.Asked mode limits (done ++ rs) := by
  -- by induction on the requests, whatever was done before them
  induction rs generalizing p done with
  | nil =>
    rw [List.append_nil]
    exact h
  | cons r rs ih =>
    have hall := ih (perform_settled h hu r).1
    rw [List.append_assoc, List.singleton_append] at hall
    rw [run_cons]
    exact hall

/-- **The law of whole runs.** Of any requests made of a printer, each has a
report and settles: the sink holds the first bytes of all texts so far, as many
as there is room for, and a failure to write comes exactly when there is a text
and no room for all of it. -/
theorem run_settled (mode : Mode) (limits : Limits) (interrupts : Nat) (hu : limits.Usable)
    (done : List Request) (r : Request) (rest : List Request) :
    ∃ report, ((start mode limits interrupts).run (done ++ r :: rest)).1[done.length]? =
        some report ∧
      Settled mode limits done r ((start mode limits interrupts).run done).2.sink
        ((start mode limits interrupts).run (done ++ [r])).2.sink report := by
  have hasked := run_asked (start_asked mode limits interrupts) hu done
  refine ⟨_, getElem?_run _ done r rest, ?_⟩
  rw [run_append]
  exact (perform_settled hasked hu r).2

/-- A sink for three bytes, two at a time, is interrupted once: of a printed
five, its newline and a quoted text there is room up to the first quote. -/
theorem run_settled_three_bytes :
    ({ capacity := some 3, chunk := some 2 } : Limits).Usable ∧
      ∃ report, ((start .write { capacity := some 3, chunk := some 2 } 1).run
          ([.println (.number 5)] ++ .print (.text "x") :: [])).1[1]? = some report ∧
        report.result = .error (.output Sink.stalled) ∧
        ((start .write { capacity := some 3, chunk := some 2 } 1).run
          ([.println (.number 5)] ++ [.print (.text "x")])).2.sink.content.toList =
            utf8 "5\n\"" := by
  have husable : ({ capacity := some 3, chunk := some 2 } : Limits).Usable := by
    refine ⟨?_, ?_⟩
    · rintro size ⟨⟩
      exact Nat.zero_lt_succ 1
    · rintro fault ⟨⟩
  obtain ⟨report, hreport, hsettled⟩ := run_settled .write
    { capacity := some 3, chunk := some 2 } 1 husable [.println (.number 5)] (.print (.text "x")) []
  have hrefused := hsettled.refused_iff.2 ⟨by decide, ⟨3, rfl, by decide⟩⟩
  exact ⟨husable, report, hreport, hrefused.1, hsettled.content_eq.trans (by decide)⟩

end Printer

end LispData
