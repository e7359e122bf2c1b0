import LispData.Proofs.Printer.Blocks
import LispData.Proofs.Printer.WholeRun
/-!
# Call records — every call of a run, in order

What is recorded when a buffer is written can be foreseen (`Sink.foreseen`): the
interruptions that are left, then the answers to the blocks of the buffer. Each
call keeps it (`Sink.foreseen_write`), so writing a buffer records it
(`Sink.recorded_writeAll`), and so do buffers one after the other
(`Sink.Holds.recorded_writeTexts`). The record of a request is that of its
pieces (`Request.pieces`); in a run the first request with a block uses up the
interruptions, so all of them stand in front of the first call that is answered
(`Printer.run_calls`).
-/

namespace LispData

/-! ## Writing -/

namespace Sink

variable {s t u : Sink} {limits : Limits} {total buffer : List UInt8}
  {blocks blocks' : List (List UInt8)}

/-- The room that is left. -/
def room (s : Sink) : Option Nat :=
  s.limits.capacity.map fun capacity => capacity - s.content.size

/-- The interruptions that blocks meet: all that are left, unless there is no
block. -/
def interruptions (s : Sink) (blocks : List (List UInt8)) : List Call :=
  if blocks = [] then [] else List.replicate s.interrupts .interrupted

/-- **The record that is to come** when blocks are written: what is recorded
already, the interruptions, and the answers. -/
def foreseen (s : Sink) (blocks : List (List UInt8)) : List Call :=
  s.calls.toList ++ (s.interruptions blocks ++ s.limits.answers s.room blocks)

/-- **What writing blocks records**: what was foreseen. The first call uses up
the interruptions. -/
structure Recorded (s t : Sink) (blocks : List (List UInt8)) : Prop where
  calls_eq : t.calls.toList = s.foreseen blocks
  interrupts_eq : t.interrupts = if blocks = [] then s.interrupts else 0

theorem interruptions_nil : s.interruptions [] = [] := if_pos rfl

theorem interruptions_of_ne_nil (hne : blocks ≠ []) :
    s.interruptions blocks = List.replicate s.interrupts .interrupted := if_neg hne

theorem interruptions_eq_nil (h : s.interrupts = 0) : s.interruptions blocks = [] := by
  rw [interruptions, h]
  split <;> rfl

theorem foreseen_nil : s.foreseen [] = s.calls.toList := by
  rw [foreseen, interruptions_nil, Limits.answers_nil, List.append_nil, List.append_nil]

/-- Without interruptions to come, only answers are foreseen. -/
theorem foreseen_of_interrupts_eq_zero (h : s.interrupts = 0) :
    s.foreseen blocks = s.calls.toList ++ s.limits.answers s.room blocks := by
  rw [foreseen, interruptions_eq_nil h, List.nil_append]

/-! ### One call -/

/-- A call takes what it may, up to the room. -/
theorem block_eq_take (s : Sink) (buffer : List UInt8) :
    s.block buffer = match s.room with
      | some room => (s.limits.portion buffer).take room
      | none => s.limits.portion buffer := by
  rw [block_eq, room]
  cases s.limits.capacity <;> rfl

/-- A call that takes nothing is the last one foreseen. -/
theorem foreseen_of_block_eq_nil (hu : s.limits.Usable) (hne : buffer ≠ [])
    (hleft : s.interrupts = 0) (hnil : s.block buffer = []) :
    s.foreseen (s.limits.blocks buffer) = s.calls.toList ++ [s.limits.refusal] := by
  have hportion := Limits.portion_ne_nil hu hne
  rw [foreseen_of_interrupts_eq_zero hleft, Limits.blocks_of_ne_nil hu hne]
  rw [block_eq_take] at hnil
  cases hroom : s.room with
  | none =>
    rw [hroom] at hnil
    exact absurd hnil hportion
  | some room =>
    rw [hroom] at hnil
    rcases List.take_eq_nil_iff.1 hnil with rfl | hportion'
    · rw [Limits.answers_of_no_room hportion]
    · exact absurd hportion' hportion

/-- Bytes that are taken leave so much less room. -/
theorem room_of_taken {taken : List UInt8} {calls : Array Call}
    (ht : t = { s with content := s.content ++ taken, calls := calls }) :
    t.room = s.room.map (· - taken.length) := by
  have hsize : (s.content ++ taken).size = s.content.size + taken.length := by
    rw [← Array.length_toList, Array.toList_appendList, List.length_append, Array.length_toList]
  rw [ht, room, room, Option.map_map]
  simp only [Function.comp_def, hsize, Nat.sub_sub]

/-- **A block that is taken leaves foreseen** what was foreseen before. -/
theorem foreseen_of_block_ne_nil (hu : s.limits.Usable) (hne : buffer ≠ [])
    (hleft : s.interrupts = 0) (htook : s.block buffer ≠ [])
    (ht : t = { s with
      content := s.content ++ s.block buffer
      calls := s.calls.push (.took (s.block buffer)) }) :
    t.foreseen (s.limits.blocks (buffer.drop (s.block buffer).length)) =
      s.foreseen (s.limits.blocks buffer) := by
  have hleft' : t.interrupts = 0 := by rw [ht]; exact hleft
  have hlimits : t.limits = s.limits := by rw [ht]
  have hcalls : t.calls.toList = s.calls.toList ++ [.took (s.block buffer)] := by
    rw [ht]
    exact Array.toList_push
  rw [foreseen_of_interrupts_eq_zero hleft', foreseen_of_interrupts_eq_zero hleft, hlimits, hcalls,
    room_of_taken ht, List.append_assoc, List.singleton_append,
    Limits.answers_blocks hu hne (s.block_eq_take buffer) htook]

/-- **A call keeps what is foreseen**: an interruption is one of those foreseen,
a block that is taken is the first one foreseen, and a call that fails is the
last. -/
theorem foreseen_write (hu : s.limits.Usable) (hne : buffer ≠ []) :
    match s.write buffer with
    | (.interrupted, t) => t.limits = s.limits ∧
        t.foreseen (s.limits.blocks buffer) = s.foreseen (s.limits.blocks buffer)
    | (.took (n + 1), t) => t.limits = s.limits ∧ t.interrupts = 0 ∧
        t.foreseen (s.limits.blocks (buffer.drop (n + 1))) = s.foreseen (s.limits.blocks buffer)
    | (_, t) => t.interrupts = 0 ∧ t.calls.toList = s.foreseen (s.limits.blocks buffer) := by
  have hblocks := Limits.blocks_ne_nil hu hne
  rcases s.write_cases buffer with ⟨left, hleft, hwrite⟩ |
    ⟨hleft, hnil, ⟨hfull, hwrite⟩ | ⟨fault, hfull, hwrite⟩⟩ | ⟨hleft, htook, hwrite⟩
  · rw [hwrite]
    refine ⟨rfl, ?_⟩
    show (s.calls.push .interrupted).toList ++ _ = s.calls.toList ++ _
    rw [interruptions_of_ne_nil hblocks, interruptions_of_ne_nil hblocks, hleft,
      List.replicate_succ, Array.toList_push, List.append_assoc]
    rfl
  · rw [hwrite]
    refine ⟨hleft, ?_⟩
    rw [foreseen_of_block_eq_nil hu hne hleft hnil, Limits.refusal, hfull]
    exact Array.toList_push
  · rw [hwrite]
    refine ⟨hleft, ?_⟩
    rw [foreseen_of_block_eq_nil hu hne hleft hnil, Limits.refusal, hfull]
    exact Array.toList_push
  · obtain ⟨n, hlen : _ = n + 1⟩ := Nat.exists_eq_succ_of_ne_zero
      (Nat.ne_of_gt (List.length_pos_iff.2 htook))
    have hforeseen := foreseen_of_block_ne_nil hu hne hleft htook rfl
    rw [hlen] at hforeseen
    rw [hwrite, hlen]
    exact ⟨rfl, hleft, hforeseen⟩

/-! ### Buffers and texts -/

/-- Nothing is recorded for no block. -/
theorem Recorded.nil (s : Sink) : s.Recorded s [] :=
  ⟨foreseen_nil.symm, rfl⟩

/-- **Writing a buffer records its blocks.** -/
theorem recorded_writeAll (hu : s.limits.Usable) (buffer : List UInt8) :
    s.Recorded (s.writeAll buffer).2 (s.limits.blocks buffer) := by
  -- by induction on the calls; each keeps what is foreseen
  fun_induction writeAll s buffer with
  | case1 s =>
    rw [Limits.blocks_nil hu]
    exact .nil s
  | case2 s b rest t hwrite ih =>
    have hcall := foreseen_write hu (List.cons_ne_nil b rest)
    rw [hwrite] at hcall
    obtain ⟨hlimits, hforeseen⟩ := hcall
    rw [hlimits] at ih
    have hblocks := Limits.blocks_ne_nil hu (List.cons_ne_nil b rest)
    have hrest := ih hu
    refine ⟨hrest.calls_eq.trans hforeseen, ?_⟩
    rw [hrest.interrupts_eq, if_neg hblocks, if_neg hblocks]
  | case3 s b rest t hwrite =>
    have hcall := foreseen_write hu (List.cons_ne_nil b rest)
    rw [hwrite] at hcall
    obtain ⟨hleft, hcalls⟩ := hcall
    exact ⟨hcalls, by rw [hleft, if_neg (Limits.blocks_ne_nil hu (List.cons_ne_nil b rest))]⟩
  | case4 s b rest n t hwrite ih =>
    have hcall := foreseen_write hu (List.cons_ne_nil b rest)
    rw [hwrite] at hcall
    obtain ⟨hlimits, hleft, hforeseen⟩ := hcall
    rw [hlimits] at ih
    have hrest := ih hu
    refine ⟨hrest.calls_eq.trans hforeseen, ?_⟩
    rw [hrest.interrupts_eq, hleft, if_neg (Limits.blocks_ne_nil hu (List.cons_ne_nil b rest))]
    split <;> rfl
  | case5 s b rest fault t hwrite =>
    have hcall := foreseen_write hu (List.cons_ne_nil b rest)
    rw [hwrite] at hcall
    obtain ⟨hleft, hcalls⟩ := hcall
    exact ⟨hcalls, by rw [hleft, if_neg (Limits.blocks_ne_nil hu (List.cons_ne_nil b rest))]⟩

/-- **Blocks after blocks**: where the first were all taken, the others are
answered from the sink they leave. -/
theorem Recorded.append (hfirst : s.Recorded t blocks) (hrest : t.Recorded u blocks')
    (hlimits : t.limits = s.limits) (hfits : Limits.Fits s.room blocks.flatten.length)
    (hroom : t.room = s.room.map (· - blocks.flatten.length)) :
    s.Recorded u (blocks ++ blocks') := by
  by_cases hnil : blocks = []
  · -- nothing was called, so everything is as it was
    subst hnil
    have hroom' : t.room = s.room := by
      rw [hroom]
      cases s.room <;> rfl
    have hcalls : t.calls.toList = s.calls.toList := hfirst.calls_eq.trans foreseen_nil
    have hleft : t.interrupts = s.interrupts := hfirst.interrupts_eq
    refine ⟨hrest.calls_eq.trans ?_, ?_⟩
    · rw [List.nil_append, foreseen, foreseen, interruptions, interruptions, hcalls, hleft, hlimits,
        hroom']
    · rw [List.nil_append, hrest.interrupts_eq, hleft]
  · have hboth : blocks ++ blocks' ≠ [] := fun h => hnil (List.append_eq_nil_iff.1 h).1
    have hleft : t.interrupts = 0 := by rw [hfirst.interrupts_eq, if_neg hnil]
    refine ⟨?_, ?_⟩
    · rw [hrest.calls_eq, foreseen_of_interrupts_eq_zero hleft, hfirst.calls_eq, hlimits, hroom,
        foreseen, foreseen, Limits.answers_append_of_fits hfits, interruptions_of_ne_nil hnil,
        interruptions_of_ne_nil hboth]
      simp only [List.append_assoc]
    · rw [hrest.interrupts_eq, hleft, if_neg hboth]
      split <;> rfl

/-- Where the first blocks were not all taken, others are not tried. -/
theorem Recorded.append_of_not_fits (h : s.Recorded t blocks)
    (hfits : ¬ Limits.Fits s.room blocks.flatten.length) : s.Recorded t (blocks ++ blocks') := by
  have hnil : blocks ≠ [] := by
    rintro rfl
    refine hfits ?_
    cases s.room with
    | none => exact trivial
    | some room => exact Nat.zero_le room
  have hboth : blocks ++ blocks' ≠ [] := fun h => hnil (List.append_eq_nil_iff.1 h).1
  refine ⟨?_, ?_⟩
  · rw [h.calls_eq, foreseen, foreseen, Limits.answers_append_of_not_fits hfits,
      interruptions_of_ne_nil hnil, interruptions_of_ne_nil hboth]
  · rw [h.interrupts_eq, if_neg hnil, if_neg hboth]

/-- A sink has left what its capacity exceeds the bytes asked for by. -/
theorem Holds.room_eq (h : s.Holds limits total) : s.room = limits.room total.length := by
  rw [room, Limits.room, h.limits_eq]
  cases hcapacity : limits.capacity with
  | none => rfl
  | some capacity =>
    have hsize := h.size_eq hcapacity
    rw [Option.map_some, Option.map_some, Option.some.injEq]
    omega

/-- **Writing texts records the blocks of all of them**, each text cut on its
own. -/
theorem Holds.recorded_writeTexts (h : s.Holds limits total) (hu : limits.Usable)
    (texts : List String) :
    s.Recorded (s.writeTexts texts).2 (texts.flatMap fun text => limits.blocks (utf8 text)) := by
  induction texts generalizing s total with
  | nil => exact .nil s
  | cons text texts ih =>
    have hwritten := h.writeAll_written hu (utf8 text)
    have hfirst := recorded_writeAll (by rw [h.limits_eq]; exact hu) (utf8 text)
    rw [h.limits_eq] at hfirst
    have hbytes := congrArg List.length (Limits.flatten_blocks hu (utf8 text))
    rw [writeTexts, List.flatMap_cons]
    split
    · next t hok =>
      rw [hok] at hwritten hfirst
      have hfits := Limits.outcome_eq_ok_iff.1 hwritten.result_eq.symm
      rw [← h.room_eq, ← hbytes] at hfits
      refine hfirst.append (ih hwritten.holds) (hwritten.holds.limits_eq.trans h.limits_eq.symm)
        hfits ?_
      rw [hwritten.holds.room_eq, h.room_eq, hbytes, Limits.room, Limits.room, Option.map_map,
        List.length_append]
      simp only [Function.comp_def, Nat.sub_sub]
    · next hfail =>
      refine hfirst.append_of_not_fits fun hfits => ?_
      rw [hbytes, h.room_eq] at hfits
      have hok := hwritten.result_eq.trans (Limits.outcome_eq_ok_iff.2 hfits)
      exact hfail _ (Prod.ext hok rfl)

end Sink

/-! ## Requests -/

namespace Request

/-- **The pieces of a request**: the texts of its values, one space before each
but the first, and a newline last for a line. -/
def pieces (mode : Mode) : Request → List String
  | .print v => [v.render mode]
  | .println v => [v.render mode, "\n"]
  | .writeAll [] => []
  | .writeAll (v :: vs) => v.render mode :: vs.flatMap fun w => [" ", w.render mode]

/-- The blocks of a request are those of its pieces; no block reaches from one
piece into another, and an empty piece has none. -/
def blocks (mode : Mode) (limits : Limits) (r : Request) : List (List UInt8) :=
  (r.pieces mode).flatMap fun piece => limits.blocks (utf8 piece)

/-- What a request writes is its pieces. -/
theorem texts_eq_pieces (mode : Mode) (r : Request) : r.texts mode = r.pieces mode := by
  have hspaced (text : String) (vs : List Value) :
      (text :: vs.map fun v => v.render mode).intersperse " " =
        text :: vs.flatMap fun w => [" ", w.render mode] := by
    induction vs generalizing text with
    | nil => rfl
    | cons v vs ih => rw [List.map_cons, List.intersperse_cons_cons, ih, List.flatMap_cons]; rfl
  cases r with
  | print v => rfl
  | println v => rfl
  | writeAll vs =>
    cases vs with
    | nil => rfl
    | cons v vs => exact (List.append_nil _).trans (hspaced _ vs)

end Request

namespace Printer

variable {p : Printer} {mode : Mode} {limits : Limits} {done : List Request}

/-- **The record of a request**: the interruptions that are left, if it has a
block, and then the answers to its blocks, for which there is the room that the
requests before it left. -/
theorem perform_calls (h : p.Asked mode limits done) (hu : limits.Usable) (r : Request) :
    (p.perform r).1.calls.toList = p.sink.interruptions (r.blocks mode limits) ++
        limits.answers (limits.room (Request.bytes mode done).length) (r.blocks mode limits) ∧
      (p.perform r).2.sink.interrupts =
        if r.blocks mode limits = [] then p.sink.interrupts else 0 := by
  have hclear : p.sink.clearCalls.Holds limits (Request.bytes mode done) :=
    ⟨h.holds.limits_eq, h.holds.content_eq⟩
  have hrecorded := hclear.recorded_writeTexts hu (r.texts p.mode)
  have hdeliver : (deliver p.sink.clearCalls (r.texts p.mode)).2.calls =
        (p.sink.clearCalls.writeTexts (r.texts p.mode)).2.calls ∧
      (deliver p.sink.clearCalls (r.texts p.mode)).2.interrupts =
        (p.sink.clearCalls.writeTexts (r.texts p.mode)).2.interrupts := by
    rw [deliver]
    split
    · next t hok => rw [hok, t.flush_eq]; exact ⟨rfl, rfl⟩
    · exact ⟨rfl, rfl⟩
  have hblocks : (r.texts p.mode).flatMap (fun text => limits.blocks (utf8 text)) =
      r.blocks mode limits := by
    rw [h.mode_eq, Request.texts_eq_pieces, Request.blocks]
  rw [hblocks] at hrecorded
  have hcalls : (p.perform r).1.calls = (deliver p.sink.clearCalls (r.texts p.mode)).2.calls := rfl
  have hleft : (p.perform r).2.sink.interrupts =
      (deliver p.sink.clearCalls (r.texts p.mode)).2.interrupts := rfl
  rw [hcalls, hleft, hdeliver.1, hdeliver.2, hrecorded.calls_eq, hrecorded.interrupts_eq]
  refine ⟨?_, rfl⟩
  rw [Sink.foreseen, hclear.room_eq, hclear.limits_eq]
  rfl

/-- Without its interruptions, the record of a request is the answers to its
blocks. -/
theorem filter_perform_calls (h : p.Asked mode limits done) (hu : limits.Usable) (r : Request) :
    (p.perform r).1.calls.toList.filter Call.isAnswered =
      limits.answers (limits.room (Request.bytes mode done).length) (r.blocks mode limits) := by
  have hinterrupted :
      (p.sink.interruptions (r.blocks mode limits)).filter Call.isAnswered = [] := by
    rw [Sink.interruptions]
    split
    · rfl
    · exact List.filter_replicate_of_neg Bool.false_ne_true
  rw [(perform_calls h hu r).1, List.filter_append, hinterrupted, List.nil_append,
    List.filter_eq_self]
  exact fun c hc => Limits.isAnswered_of_mem_answers hc

/-! ## Runs -/

/-- **All interruptions come first**: in front of the first call that is answered
there are so many, and nowhere else is one; where no call is answered there are
none. -/
def InterruptedFirst (interrupts : Nat) (record : List Call) : Prop :=
  record = (if record.filter Call.isAnswered = [] then [] else
    List.replicate interrupts .interrupted) ++ record.filter Call.isAnswered

/-- Where no interruptions are left, every call is answered. -/
theorem InterruptedFirst.filter_eq {record : List Call} (h : InterruptedFirst 0 record) :
    record.filter Call.isAnswered = record := by
  rw [InterruptedFirst] at h
  split at h
  · exact h.symm
  · exact h.symm

/-- The calls of reports, in order. -/
def allCalls (reports : List PrintReport) : List Call :=
  reports.flatMap fun report => report.calls.toList

/-- **In a run, all interruptions come first**: the first request with a block
uses them up. -/
theorem interruptedFirst_run (h : p.Asked mode limits done) (hu : limits.Usable)
    (rs : List Request) : InterruptedFirst p.sink.interrupts (allCalls (p.run rs).1) := by
  -- by induction on the requests, from whatever was done before them
  induction rs generalizing p done with
  | nil => rfl
  | cons r rs ih =>
    obtain ⟨hcalls, hleft⟩ := perform_calls h hu r
    have hanswers := filter_perform_calls h hu r
    have hrest := ih (perform_settled h hu r).1
    have hcons : allCalls (p.run (r :: rs)).1 =
        (p.perform r).1.calls.toList ++ allCalls ((p.perform r).2.run rs).1 := by
      rw [run_cons]
      exact List.flatMap_cons
    rw [hcons]
    by_cases hnil : r.blocks mode limits = []
    · rw [hnil, Sink.interruptions_nil, Limits.answers_nil, List.append_nil] at hcalls
      rw [hleft, if_pos hnil] at hrest
      rw [hcalls, List.nil_append]
      exact hrest
    · have hanswered : limits.answers (limits.room (Request.bytes mode done).length)
          (r.blocks mode limits) ≠ [] := fun hnone => hnil (Limits.answers_eq_nil_iff.1 hnone)
      rw [hleft, if_neg hnil] at hrest
      rw [InterruptedFirst, List.filter_append, hanswers, hrest.filter_eq, if_neg fun hnone =>
        hanswered (List.append_eq_nil_iff.1 hnone).1, hcalls, Sink.interruptions_of_ne_nil hnil,
        List.append_assoc]

/-- **The record of a run.** Of every request, without interruptions, the record
is the answers to the blocks of its pieces, as there was room for them after the
requests before it; and all interruptions of the run come before the first call
that is answered. -/
theorem run_calls (mode : Mode) (limits : Limits) (interrupts : Nat) (hu : limits.Usable)
    (rs : List Request) :
    (∀ (done : List Request) (r : Request) (rest : List Request), rs = done ++ r :: rest →
      ∃ report, ((start mode limits interrupts).run rs).1[done.length]? = some report ∧
        ((start mode limits interrupts).run done).2.sink.room =
          limits.room (Request.bytes mode done).length ∧
        report.calls.toList.filter Call.isAnswered =
          limits.answers (limits.room (Request.bytes mode done).length)
            (r.blocks mode limits)) ∧
      InterruptedFirst interrupts (allCalls ((start mode limits interrupts).run rs).1) := by
  have hstart := start_asked mode limits interrupts
  refine ⟨?_, interruptedFirst_run hstart hu rs⟩
  rintro done r rest rfl
  have hasked := run_asked hstart hu done
  exact ⟨_, getElem?_run _ done r rest, hasked.holds.room_eq, filter_perform_calls hasked hu r⟩

/-- A sink for five bytes, four at a time, is interrupted twice: of a text printed
after a line it takes what there is room for, up to a part of a character, and
then fails. -/
theorem run_calls_part_of_character :
    ({ capacity := some 5, chunk := some 4, full := some ⟨.brokenPipe, none⟩ } : Limits).Usable ∧
      ∃ report, ((start .write
          { capacity := some 5, chunk := some 4, full := some ⟨.brokenPipe, none⟩ } 2).run
            [.println (.number 5), .print (.text "a€b")]).1[1]? = some report ∧
        report.calls.toList.filter Call.isAnswered = [.took [0x22, 0x61, 0xe2], .failed] := by
  have husable : ({ capacity := some 5, chunk := some 4, full := some ⟨.brokenPipe, none⟩ } :
      Limits).Usable := by
    refine ⟨?_, ?_⟩
    · rintro size ⟨⟩
      exact Nat.zero_lt_succ 3
    · rintro fault ⟨⟩
      decide
  obtain ⟨hsteps, -⟩ := run_calls .write _ 2 husable [.println (.number 5), .print (.text "a€b")]
  obtain ⟨report, hreport, -, hcalls⟩ := hsteps [.println (.number 5)] _ [] rfl
  exact ⟨husable, report, hreport, hcalls.trans rfl⟩

end Printer

end LispData
