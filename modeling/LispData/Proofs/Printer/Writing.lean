import LispData.Sink
/-!
# Writing — what a sink holds after a buffer

A sink keeps as many of the bytes it was asked to take as it has room for
(`Limits.fitting`), in whatever portions it took them and however often it was
interrupted. The invariant speaks of all the bytes asked for so far, taken or
not (`Sink.Holds`): it says what is kept, and decides whether more can be
written (`Limits.outcome`). One call carries it on (`write_cases`), so does
writing a buffer (`writeAll_written`), and so do buffers one after the other
(`writeTexts_written`).
-/

namespace LispData

/-! ## Room -/

namespace Limits

/-- **Limits under which writing gets on**: a call takes at least one byte while
there is room, and a full sink does not report that it was interrupted. -/
structure Usable (l : Limits) : Prop where
  chunk_pos : ∀ size, l.chunk = some size → 0 < size
  /-- A call that reports an interruption is repeated, so writing to a full sink that
  reports one would never end. No proof needs this: `Sink.writeAll` takes every fault
  of a full sink as the end, and only this field tells where that is right. -/
  full_ne_interrupted : ∀ fault, l.full = some fault → fault.kind ≠ .interrupted

/-- As much of a buffer as one call may take. -/
def portion (l : Limits) (buffer : List UInt8) : List UInt8 :=
  match l.chunk with
  | some size => buffer.take size
  | none => buffer

/-- The first of the bytes, as many as there is room for. -/
def fitting (l : Limits) (bytes : List UInt8) : List UInt8 :=
  match l.capacity with
  | some capacity => bytes.take capacity
  | none => bytes

/-- There is no room for so many bytes. -/
def Exceeded (l : Limits) (n : Nat) : Prop :=
  ∃ capacity, l.capacity = some capacity ∧ capacity < n

instance (l : Limits) (n : Nat) : Decidable (l.Exceeded n) :=
  match h : l.capacity with
  | some capacity =>
    decidable_of_iff (capacity < n) ⟨fun hlt => ⟨capacity, h, hlt⟩, fun ⟨c, hc, hlt⟩ => by
      rw [h, Option.some.injEq] at hc
      rwa [hc]⟩
  | none => isFalse fun ⟨c, hc, _⟩ => by rw [h] at hc; cases hc

/-- What is reported when there is no room. -/
def writeFault (l : Limits) : Fault :=
  l.full.getD Sink.stalled

/-- **How writing ends** when `total` was asked for before: it fails if there is
something to write and not room for all of it. -/
def outcome (l : Limits) (total bytes : List UInt8) : Except Fault Unit :=
  if bytes ≠ [] ∧ l.Exceeded (total ++ bytes).length then .error l.writeFault else .ok ()

variable {l : Limits} {total bytes more : List UInt8} {m n : Nat}

theorem portion_prefix (l : Limits) (buffer : List UInt8) : l.portion buffer <+: buffer := by
  rw [portion]
  split
  · exact List.take_prefix _ _
  · exact List.prefix_rfl

/-- A call may take at least one byte. -/
theorem portion_ne_nil (hu : l.Usable) (hne : bytes ≠ []) : l.portion bytes ≠ [] := by
  rw [portion]
  split
  · next size hsize =>
    have hpos := hu.chunk_pos size hsize
    intro hnil
    rcases List.take_eq_nil_iff.1 hnil with hzero | hbytes
    · omega
    · exact hne hbytes
  · exact hne

theorem Exceeded.mono (h : l.Exceeded m) (hmn : m ≤ n) : l.Exceeded n := by
  obtain ⟨capacity, hcapacity, hlt⟩ := h
  exact ⟨capacity, hcapacity, by omega⟩

/-- What there is room for is kept. -/
theorem fitting_of_not_exceeded (h : ¬ l.Exceeded total.length) : l.fitting total = total := by
  rw [fitting]
  split
  · next capacity hcapacity =>
    have hle : total.length ≤ capacity := Nat.le_of_not_lt fun hlt => h ⟨capacity, hcapacity, hlt⟩
    exact List.take_of_length_le hle
  · rfl

/-- Nothing is kept of what comes after there is no room for a byte. -/
theorem fitting_append_of_exceeded (h : l.Exceeded (total.length + 1)) :
    l.fitting (total ++ bytes) = l.fitting total := by
  obtain ⟨capacity, hcapacity, hlt⟩ := h
  have hle : capacity ≤ total.length := by omega
  simp only [fitting, hcapacity, List.take_append_of_le_length hle]

theorem length_fitting {capacity : Nat} (h : l.capacity = some capacity) :
    (l.fitting total).length = min capacity total.length := by
  simp only [fitting, h, List.length_take]

theorem outcome_nil : l.outcome total [] = .ok () :=
  if_neg fun h => h.1 rfl

theorem outcome_of_not_exceeded (h : ¬ l.Exceeded (total ++ bytes).length) :
    l.outcome total bytes = .ok () :=
  if_neg fun h' => h h'.2

theorem outcome_of_exceeded (hne : bytes ≠ []) (h : l.Exceeded (total ++ bytes).length) :
    l.outcome total bytes = .error l.writeFault :=
  if_pos ⟨hne, h⟩

/-- **Bytes after bytes**: writing both fails where writing the first does, or
else where writing the rest does. -/
theorem outcome_append :
    l.outcome total (bytes ++ more) =
      match l.outcome total bytes with
      | .ok () => l.outcome (total ++ bytes) more
      | .error fault => .error fault := by
  by_cases hfirst : bytes ≠ [] ∧ l.Exceeded (total ++ bytes).length
  · have hall : l.Exceeded (total ++ (bytes ++ more)).length :=
      hfirst.2.mono (by simp only [List.length_append]; omega)
    have hne : bytes ++ more ≠ [] := fun h => hfirst.1 (List.append_eq_nil_iff.1 h).1
    rw [outcome_of_exceeded hne hall, outcome_of_exceeded hfirst.1 hfirst.2]
  · have hok : l.outcome total bytes = .ok () := if_neg hfirst
    rw [hok]
    show l.outcome total (bytes ++ more) = l.outcome (total ++ bytes) more
    by_cases hmore : more = []
    · rw [hmore, List.append_nil, hok, outcome_nil]
    · have hne : bytes ++ more ≠ [] := fun h => hmore (List.append_eq_nil_iff.1 h).2
      simp only [outcome, hne, hmore, List.append_assoc, ne_eq, not_false_eq_true, true_and]

end Limits

/-! ## One call -/

namespace Sink

variable {s t : Sink} {limits : Limits} {total bytes more buffer : List UInt8}

theorem block_eq (s : Sink) (buffer : List UInt8) :
    s.block buffer = match s.limits.capacity with
      | some capacity => (s.limits.portion buffer).take (capacity - s.content.size)
      | none => s.limits.portion buffer :=
  rfl

/-- A call takes the bytes from the front. -/
theorem block_prefix (s : Sink) (buffer : List UInt8) : s.block buffer <+: buffer := by
  rw [block_eq]
  split
  · exact (List.take_prefix _ _).trans (s.limits.portion_prefix buffer)
  · exact s.limits.portion_prefix buffer

/-- A call takes no more bytes than there is room for. -/
theorem length_block_le {capacity : Nat} (h : s.limits.capacity = some capacity) :
    (s.block buffer).length ≤ capacity - s.content.size := by
  rw [block_eq, h]
  exact List.length_take_le _ _

/-- A call takes something unless there is no room at all. -/
theorem exceeded_of_block_eq_nil (hu : s.limits.Usable) (hne : buffer ≠ [])
    (h : s.block buffer = []) : s.limits.Exceeded (s.content.size + 1) := by
  have hportion := Limits.portion_ne_nil hu hne
  rw [block_eq] at h
  split at h
  · next capacity hcapacity =>
    rcases List.take_eq_nil_iff.1 h with hzero | hnil
    · exact ⟨capacity, hcapacity, by omega⟩
    · exact absurd hnil hportion
  · exact absurd h hportion

/-- **What a call comes to**: an interruption, a failure with nothing taken, or
a block of bytes taken. -/
theorem write_cases (s : Sink) (buffer : List UInt8) :
    (∃ left, s.interrupts = left + 1 ∧ s.write buffer =
        (.interrupted, { s with interrupts := left, calls := s.calls.push .interrupted })) ∨
      (s.interrupts = 0 ∧ s.block buffer = [] ∧
        ((s.limits.full = none ∧
            s.write buffer = (.took 0, { s with calls := s.calls.push .tookNothing })) ∨
          ∃ fault, s.limits.full = some fault ∧
            s.write buffer = (.refused fault, { s with calls := s.calls.push .failed }))) ∨
      (s.interrupts = 0 ∧ s.block buffer ≠ [] ∧ s.write buffer =
        (.took (s.block buffer).length,
          { s with
            content := s.content ++ s.block buffer
            calls := s.calls.push (.took (s.block buffer)) })) := by
  cases hleft : s.interrupts with
  | succ left => exact .inl ⟨left, rfl, by rw [write, hleft]⟩
  | zero =>
    cases hblock : s.block buffer with
    | nil =>
      refine .inr (.inl ⟨rfl, rfl, ?_⟩)
      cases hfull : s.limits.full with
      | none => exact .inl ⟨rfl, by simp only [write, hleft, hblock, hfull]⟩
      | some fault => exact .inr ⟨fault, rfl, by simp only [write, hleft, hblock, hfull]⟩
    | cons b rest =>
      exact .inr (.inr ⟨rfl, List.cons_ne_nil b rest, by simp only [write, hleft, hblock]⟩)

/-! ## All that was asked for -/

/-- **What a sink holds** when the bytes `total` were asked for so far: those
there was room for. -/
structure Holds (s : Sink) (limits : Limits) (total : List UInt8) : Prop where
  limits_eq : s.limits = limits
  content_eq : s.content.toList = limits.fitting total

/-- **What writing comes to** when `total` was asked for before: the sink that
is left holds what there was room for, nothing was flushed, and the result is
decided by the room. -/
structure Written (s t : Sink) (limits : Limits) (total bytes : List UInt8)
    (result : Except Fault Unit) : Prop where
  holds : t.Holds limits (total ++ bytes)
  flushes_eq : t.flushes = s.flushes
  result_eq : result = limits.outcome total bytes

/-- As many bytes are held as there was room for. -/
theorem Holds.size_eq (h : s.Holds limits total) {capacity : Nat}
    (hcapacity : limits.capacity = some capacity) :
    s.content.size = min capacity total.length := by
  rw [← Array.length_toList, h.content_eq, Limits.length_fitting hcapacity]

/-- A sink without room for a byte was asked for as much as it holds at least. -/
theorem Holds.exceeded (h : s.Holds limits total) (hfull : limits.Exceeded (s.content.size + 1)) :
    limits.Exceeded (total.length + 1) := by
  obtain ⟨capacity, hcapacity, hlt⟩ := hfull
  have hsize := h.size_eq hcapacity
  exact ⟨capacity, hcapacity, by omega⟩

theorem Written.nil (h : s.Holds limits total) : s.Written s limits total [] (.ok ()) where
  holds := by rw [List.append_nil]; exact h
  flushes_eq := rfl
  result_eq := Limits.outcome_nil.symm

/-- Writing may go on where it succeeded. -/
theorem Written.append {u : Sink} {result : Except Fault Unit}
    (hfirst : s.Written t limits total bytes (.ok ()))
    (hrest : t.Written u limits (total ++ bytes) more result) :
    s.Written u limits total (bytes ++ more) result where
  holds := by rw [← List.append_assoc]; exact hrest.holds
  flushes_eq := hrest.flushes_eq.trans hfirst.flushes_eq
  result_eq := by rw [Limits.outcome_append, ← hfirst.result_eq]; exact hrest.result_eq

/-- Where writing failed, it would fail with more to write. -/
theorem Written.append_of_error {fault : Fault}
    (h : s.Written t limits total bytes (.error fault)) :
    s.Written t limits total (bytes ++ more) (.error fault) where
  holds := by
    -- the failure says that there was no room, so there is none for what follows
    have hexceeded : limits.Exceeded ((total ++ bytes).length + 1) := by
      have hresult := h.result_eq
      rw [Limits.outcome] at hresult
      split at hresult
      · next hfails => exact hfails.2.mono (by omega)
      · cases hresult
    refine ⟨h.holds.limits_eq, ?_⟩
    rw [h.holds.content_eq, ← List.append_assoc, Limits.fitting_append_of_exceeded hexceeded]
  flushes_eq := h.flushes_eq
  result_eq := by rw [Limits.outcome_append, ← h.result_eq]

/-- A block of bytes that was taken is written. -/
theorem Holds.written_block (h : s.Holds limits total) (hne : s.block buffer ≠ []) :
    s.Written
      { s with
        content := s.content ++ s.block buffer
        calls := s.calls.push (.took (s.block buffer)) }
      limits total (s.block buffer) (.ok ()) := by
  have hpos : 0 < (s.block buffer).length := List.length_pos_iff.2 hne
  -- something was taken, so the sink was not full and holds all that came before
  have hfits : ¬ limits.Exceeded (total ++ s.block buffer).length := by
    rintro ⟨capacity, hcapacity, hlt⟩
    have hsize := h.size_eq hcapacity
    have hle : (s.block buffer).length ≤ capacity - s.content.size :=
      length_block_le (by rw [h.limits_eq, hcapacity])
    rw [List.length_append] at hlt
    omega
  have hbefore : ¬ limits.Exceeded total.length := fun hover =>
    hfits (hover.mono (by rw [List.length_append]; omega))
  refine ⟨⟨h.limits_eq, ?_⟩, rfl, (Limits.outcome_of_not_exceeded hfits).symm⟩
  rw [Limits.fitting_of_not_exceeded hfits, Array.toList_appendList, h.content_eq,
    Limits.fitting_of_not_exceeded hbefore]

/-- A call for which there was no room is a failure to write anything. -/
theorem Holds.written_none (h : s.Holds limits total) (hu : limits.Usable) (hne : buffer ≠ [])
    (hnil : s.block buffer = []) (ht : t.Holds limits total) (hflushes : t.flushes = s.flushes) :
    s.Written t limits total buffer (.error limits.writeFault) := by
  have hlimits := h.limits_eq
  subst hlimits
  have hfull := h.exceeded (exceeded_of_block_eq_nil hu hne hnil)
  have hpos : 0 < buffer.length := List.length_pos_iff.2 hne
  have hover : s.limits.Exceeded (total ++ buffer).length :=
    hfull.mono (by rw [List.length_append]; omega)
  refine ⟨⟨ht.limits_eq, ?_⟩, hflushes, (Limits.outcome_of_exceeded hne hover).symm⟩
  rw [ht.content_eq, Limits.fitting_append_of_exceeded hfull]

/-- **A call carries on** what a sink holds: an interruption writes nothing, a
block of bytes is the front of the buffer, and a failure is that of the whole
buffer. -/
theorem Holds.written_write (h : s.Holds limits total) (hu : limits.Usable) (hne : buffer ≠ []) :
    match s.write buffer with
    | (.interrupted, t) => s.Written t limits total [] (.ok ())
    | (.took 0, t) => s.Written t limits total buffer (.error stalled)
    | (.took (n + 1), t) => s.Written t limits total (buffer.take (n + 1)) (.ok ())
    | (.refused fault, t) => s.Written t limits total buffer (.error fault) := by
  have hlimits := h.limits_eq
  rcases s.write_cases buffer with ⟨left, -, hwrite⟩ |
    ⟨-, hnil, ⟨hfull, hwrite⟩ | ⟨fault, hfull, hwrite⟩⟩ | ⟨-, htook, hwrite⟩
  · rw [hwrite]
    refine ⟨?_, rfl, Limits.outcome_nil.symm⟩
    rw [List.append_nil]
    exact ⟨hlimits, h.content_eq⟩
  · have hfault : limits.writeFault = stalled := by rw [Limits.writeFault, ← hlimits, hfull]; rfl
    rw [hwrite, ← hfault]
    exact h.written_none hu hne hnil ⟨hlimits, h.content_eq⟩ rfl
  · have hfault : limits.writeFault = fault := by rw [Limits.writeFault, ← hlimits, hfull]; rfl
    rw [hwrite, ← hfault]
    exact h.written_none hu hne hnil ⟨hlimits, h.content_eq⟩ rfl
  · have hblock := h.written_block htook
    have hfront := List.prefix_iff_eq_take.1 (s.block_prefix buffer)
    obtain ⟨n, hlen : _ = n + 1⟩ := Nat.exists_eq_succ_of_ne_zero
      (Nat.ne_of_gt (List.length_pos_iff.2 htook))
    rw [hlen] at hfront
    rw [hwrite, hlen]
    show s.Written _ limits total (buffer.take (n + 1)) (.ok ())
    rw [← hfront]
    exact hblock

/-! ## Buffers -/

/-- **Writing a buffer** asks for its bytes, in whatever calls. -/
theorem Holds.writeAll_written (h : s.Holds limits total) (hu : limits.Usable) (buffer : List UInt8) :
    s.Written (s.writeAll buffer).2 limits total buffer (s.writeAll buffer).1 := by
  -- by induction on the calls; each carries the invariant to what is left of the buffer
  fun_induction writeAll s buffer generalizing total with
  | case1 s => exact .nil h
  | case2 s b rest t hwrite ih =>
    have hstep := h.written_write hu (List.cons_ne_nil b rest)
    rw [hwrite] at hstep
    exact hstep.append (ih hstep.holds)
  | case3 s b rest t hwrite =>
    have hstep := h.written_write hu (List.cons_ne_nil b rest)
    rw [hwrite] at hstep
    exact hstep
  | case4 s b rest n t hwrite ih =>
    have hstep := h.written_write hu (List.cons_ne_nil b rest)
    rw [hwrite] at hstep
    have hall := hstep.append (ih hstep.holds)
    rw [List.take_succ_cons, List.cons_append, List.take_append_drop] at hall
    exact hall
  | case5 s b rest fault t hwrite =>
    have hstep := h.written_write hu (List.cons_ne_nil b rest)
    rw [hwrite] at hstep
    exact hstep

/-- **Writing texts** asks for the bytes of all of them, also of those behind a
failure. -/
theorem Holds.writeTexts_written (h : s.Holds limits total) (hu : limits.Usable)
    (texts : List String) :
    s.Written (s.writeTexts texts).2 limits total (texts.flatMap utf8)
      (s.writeTexts texts).1 := by
  induction texts generalizing s total with
  | nil => exact .nil h
  | cons text texts ih =>
    have hfirst := h.writeAll_written hu (utf8 text)
    rw [writeTexts, List.flatMap_cons]
    split
    · next t hok =>
      rw [hok] at hfirst
      exact hfirst.append (ih hfirst.holds)
    · next hfail =>
      -- the texts that were not tried would fail with the one that did
      rcases hres : s.writeAll (utf8 text) with ⟨_ | fault, t⟩
      · rw [hres] at hfirst
        exact hfirst.append_of_error
      · exact absurd hres (hfail t)

end Sink

end LispData
