import LispData.Error
import LispData.Text.Utf8
/-!
# Sinks — where bytes are written, perhaps a few at a time

A sink takes bytes until it is full, at most so many per call, and may be
interrupted before it takes any. It keeps what it took, a record of the calls
made on it, and a count of flushes; flushing may fail from some flush on.

A whole buffer is written by calling again with what is left (`writeAll`): an
interrupted call is repeated, a call that takes nothing is a failure. Each call
uses up an interruption or some bytes, so this ends.
-/

namespace LispData

/-- What a sink allows. -/
structure Limits where
  /-- How many bytes it takes in all; without bound if absent. -/
  capacity : Option Nat := none
  /-- How many bytes it takes per call; without bound if absent. -/
  chunk : Option Nat := none
  /-- What it reports when it can take nothing; if absent it takes no byte and
  reports that. -/
  full : Option Fault := none
  /-- How many flushes succeed before `flushFault` shows. -/
  flushesAllowed : Nat := 0
  /-- What it reports for the flushes after those; if absent all succeed. -/
  flushFault : Option Fault := none

/-- A call made on a sink, as its record tells it. -/
inductive Call where
  | interrupted
  | tookNothing
  | failed
  | took (bytes : List UInt8)

/-- A sink: what it allows and what happened to it. -/
structure Sink where
  limits : Limits := {}
  /-- How many calls will still be interrupted. -/
  interrupts : Nat := 0
  /-- The bytes taken so far. -/
  content : Array UInt8 := #[]
  /-- The calls since the record was last cleared. -/
  calls : Array Call := #[]
  /-- The flushes so far. -/
  flushes : Nat := 0

/-- How a sink answers a call. -/
inductive Reply where
  | interrupted
  | took (count : Nat)
  | refused (fault : Fault)

namespace Sink

/-- The bytes that the sink would take of `buffer` in one call. -/
def block (s : Sink) (buffer : List UInt8) : List UInt8 :=
  let piece := match s.limits.chunk with
    | some size => buffer.take size
    | none => buffer
  match s.limits.capacity with
  | some capacity => piece.take (capacity - s.content.size)
  | none => piece

/-- One call: the sink is interrupted, or takes a block of the bytes, or has no
room for any. -/
def write (s : Sink) (buffer : List UInt8) : Reply × Sink :=
  match s.interrupts with
  | left + 1 =>
    (.interrupted, { s with interrupts := left, calls := s.calls.push .interrupted })
  | 0 =>
    match s.block buffer, s.limits.full with
    | [], none => (.took 0, { s with calls := s.calls.push .tookNothing })
    | [], some fault => (.refused fault, { s with calls := s.calls.push .failed })
    | b :: rest, _ =>
      (.took (b :: rest).length,
        { s with content := s.content ++ (b :: rest), calls := s.calls.push (.took (b :: rest)) })

/-- An interrupted call uses up one interruption. -/
theorem interrupts_of_write_interrupted {s t : Sink} {buffer : List UInt8}
    (h : s.write buffer = (.interrupted, t)) : t.interrupts + 1 = s.interrupts := by
  unfold write at h
  split at h
  · next left hleft => cases h; exact hleft.symm
  · split at h <;> cases h

/-- A call that takes bytes leaves the interruptions as they are. -/
theorem interrupts_of_write_took {s t : Sink} {buffer : List UInt8} {n : Nat}
    (h : s.write buffer = (.took n, t)) : t.interrupts = s.interrupts := by
  unfold write at h
  split at h
  · cases h
  · split at h <;> cases h <;> rfl

/-- The fault of a call that took nothing although there was something to take. -/
def stalled : Fault :=
  ⟨.writeZero, some "failed to write whole buffer"⟩

/-- **Writes a whole buffer**, by as many calls as it takes. A refusal ends the
writing, and so does a call that takes nothing.

The kind of a refusal is not looked at. A call that reports an interruption is
repeated, so writing to a full sink whose fault is an interruption would never
end. Here it ends with that fault, and such a sink is left out wherever writing is
reasoned about (`Limits.Usable`). -/
def writeAll (s : Sink) (buffer : List UInt8) : Except Fault Unit × Sink :=
  match buffer with
  | [] => (.ok (), s)
  | b :: rest =>
    match _h : s.write (b :: rest) with
    | (.interrupted, t) => t.writeAll (b :: rest)
    | (.took 0, t) => (.error stalled, t)
    | (.took (n + 1), t) => t.writeAll (rest.drop n)
    | (.refused fault, t) => (.error fault, t)
termination_by s.interrupts + buffer.length
decreasing_by
  · have := interrupts_of_write_interrupted _h
    simp only [List.length_cons]
    omega
  · have := interrupts_of_write_took _h
    simp only [List.length_cons, List.length_drop]
    omega

/-- Writes texts one after the other, each as a buffer of its own, up to the
first failure. -/
def writeTexts (s : Sink) : List String → Except Fault Unit × Sink
  | [] => (.ok (), s)
  | t :: rest =>
    match s.writeAll (utf8 t) with
    | (.ok (), s) => s.writeTexts rest
    | failure => failure

/-- Asks the sink to hand on what it took. -/
def flush (s : Sink) : Except Fault Unit × Sink :=
  let s := { s with flushes := s.flushes + 1 }
  match s.limits.flushFault with
  | some fault => (if s.limits.flushesAllowed < s.flushes then .error fault else .ok (), s)
  | none => (.ok (), s)

/-- The sink with its record of calls cleared. -/
def clearCalls (s : Sink) : Sink :=
  { s with calls := #[] }

end Sink

end LispData
