import LispData.SymbolName
import LispData.Text.Extract
import LispData.Value.Debug
import LispData.Value.Identity
import LispData.Value.Narrowing
import LispData.Value.Render
import Std.Data.TreeMap
/-!
# Scripts — steps over named values

A script stores values under names, builds further values from stored ones and
asks about them, one step after the other. The registers are kept in the order
of their names. A step that names an empty register or is refused says so and
changes nothing (`Step.perform_of_error`); the script goes on.
-/

namespace LispData

/-- Values under names, in ascending order of the names. -/
abbrev Registers := Std.TreeMap String Value

namespace Script

/-- How a step comes by a value to store. Operands are names of registers. -/
inductive Construction where
  | value (v : Value)
  | cons (left right : String)
  | list (items : List String)
  | copy (operand : String)
  | car (operand : String)
  | cdr (operand : String)
  /-- The symbol of a checked name. -/
  | parse (name : String)
  /-- The symbol named by the display form of a value. -/
  | internDisplay (operand : String)
  /-- The text that is the write form of a value. -/
  | stringOfWrite (operand : String)

/-- What a step asks about stored values. -/
inductive Question where
  | display (operand : String)
  | write (operand : String)
  | debug (operand : String)
  | kind (operand : String)
  /-- The write form in brief. -/
  | extract (operand : String)
  | truthy (operand : String)
  /-- Whether the pair starts a proper list, and how many elements it has. -/
  | chain (operand : String)
  | expect (operand : String) (wanted : Value.Wanted)
  | identify (left right : String)

/-- One step of a script. -/
inductive Step where
  | store (name : String) (how : Construction)
  | drop (name : String)
  | ask (question : Question)

/-- Why a step came to nothing. -/
inductive Failure where
  /-- Nothing is stored under the name. -/
  | unbound (name : String)
  /-- The operation was refused. -/
  | refused (e : Error)

/-- What a step answers. -/
inductive Answer where
  | stored (kind : Kind)
  /-- The names in use after a removal, in order. -/
  | names (names : List String)
  | text (s : String)
  | extract (x : Extract)
  | truth (b : Bool)
  | chain (isList : Bool) (count : Nat)
  | narrowed (x : Value.Narrowed)
  | identity (report : IdentityReport)
  | failed (f : Failure)

/-- The value under a name, or the failure that there is none. -/
def read (r : Registers) (name : String) : Except Failure Value :=
  match r[name]? with
  | some v => .ok v
  | none => .error (.unbound name)

/-- The pair under a name. -/
def readPair (r : Registers) (name : String) : Except Failure Pair := do
  (← read r name).expectPair.mapError .refused

/-- Builds a value from stored ones, reading the operands in order. -/
def Construction.build (r : Registers) : Construction → Except Failure Value
  | .value v => .ok v
  | .cons left right => do return .pair (← read r left) (← read r right)
  | .list items => do return Value.list (← items.mapM (read r))
  | .copy operand => read r operand
  | .car operand => do return (← readPair r operand).car
  | .cdr operand => do return (← readPair r operand).cdr
  | .parse name => ((Symbol.parse name).result.map fun s => .atom (.symbol s)).mapError .refused
  | .internDisplay operand => do return .symbol (← read r operand).display
  | .stringOfWrite operand => do return .text (← read r operand).write

/-- Answers a question about stored values. -/
def Question.answer (r : Registers) : Question → Except Failure Answer
  | .display operand => do return .text (← read r operand).display
  | .write operand => do return .text (← read r operand).write
  | .debug operand => do return .text (← read r operand).debug
  | .kind operand => do return .text (← read r operand).kind.name
  | .extract operand => do return .extract (Extract.ofString (← read r operand).write)
  | .truthy operand => do return .truth (← read r operand).isTruthy
  | .chain operand => do
    let p ← readPair r operand
    return .chain p.isList p.elements.length
  | .expect operand wanted => do
    return .narrowed (← ((← read r operand).expect wanted).mapError .refused)
  | .identify left right => do return .identity ((← read r left).identify (← read r right))

namespace Step

/-- The outcome of a step: its answer, and the registers after it. -/
def outcome (r : Registers) : Step → Except Failure (Answer × Registers)
  | .store name how => do
    let v ← how.build r
    return (.stored v.kind, r.insert name v)
  | .drop name => do
    let _ ← read r name
    let rest := r.erase name
    return (.names rest.keys, rest)
  | .ask question => do return (← question.answer r, r)

/-- Carries out a step; one that fails leaves the registers as they are. -/
def perform (r : Registers) (s : Step) : Answer × Registers :=
  match s.outcome r with
  | .ok done => done
  | .error f => (.failed f, r)

/-- A step that does not fail is carried out. -/
theorem perform_of_ok {r : Registers} {s : Step} {done : Answer × Registers}
    (h : s.outcome r = .ok done) : s.perform r = done := by
  simp [perform, h]

/-- **A step that fails changes nothing.** -/
theorem perform_of_error {r : Registers} {s : Step} {f : Failure} (h : s.outcome r = .error f) :
    s.perform r = (.failed f, r) := by
  simp [perform, h]

end Step

/-- Carries out steps in order and collects their answers. -/
def run (r : Registers) : List Step → List Answer
  | [] => []
  | s :: rest =>
    let (answer, r) := s.perform r
    answer :: run r rest

end Script

end LispData
