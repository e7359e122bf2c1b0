import LispData.Log
import LispData.Sink
import LispData.Value.Render
/-!
# Printers — values written to a sink

A printer renders values in one of the two forms and writes them to its sink.
A request renders all its values, leaves one trace record, writes the texts one
after the other and flushes; the first failure ends it. Whatever a request came
to, the printer goes on from the sink as it was left.
-/

namespace LispData

/-- Which of the two texts of a value is printed. -/
inductive Mode where
  | display
  | write
  deriving DecidableEq

namespace Mode

/-- The name of a mode in trace records. -/
def name : Mode → String
  | .display => "Display"
  | .write => "Write"

end Mode

/-- The text of a value in a mode. -/
def Value.render (v : Value) : Mode → String
  | .display => v.display
  | .write => v.write

/-- What a printer is asked to print. -/
inductive Request where
  /-- One value. -/
  | print (v : Value)
  /-- One value and a newline. -/
  | println (v : Value)
  /-- Values with one space between each and the next. -/
  | writeAll (vs : List Value)

namespace Request

/-- The values of a request. -/
def values : Request → List Value
  | .print v => [v]
  | .println v => [v]
  | .writeAll vs => vs

/-- What follows the values of a request. -/
def ending : Request → List String
  | .println _ => ["\n"]
  | _ => []

/-- The texts that a request writes, in order. -/
def texts (r : Request) (mode : Mode) : List String :=
  (r.values.map fun v => v.render mode).intersperse " " ++ r.ending

end Request

/-- A printer: a mode and a sink. -/
structure Printer where
  mode : Mode
  sink : Sink := {}

/-- What came of one request. -/
structure PrintReport where
  result : Except Error Unit
  log : List TraceRecord
  /-- The calls made on the sink by this request. -/
  calls : Array Call
  /-- The flushes of the sink so far, this request included. -/
  flushes : Nat

namespace Printer

/-- The trace record of a request. -/
def record (p : Printer) (r : Request) : TraceRecord :=
  ⟨.printing,
    "printing " ++ r.values.length.repr ++ " value(s) in " ++ p.mode.name ++ " mode"⟩

/-- Writes texts and, if nothing failed, flushes. -/
def deliver (s : Sink) (texts : List String) : Except Fault Unit × Sink :=
  match s.writeTexts texts with
  | (.ok (), s) => s.flush
  | failure => failure

/-- **Carries out one request.** -/
def perform (p : Printer) (r : Request) : PrintReport × Printer :=
  let (result, sink) := deliver p.sink.clearCalls (r.texts p.mode)
  (⟨result.mapError .output, [p.record r], sink.calls, sink.flushes⟩, { p with sink })

/-- Carries out requests in order, whatever comes of each. -/
def run (p : Printer) : List Request → List PrintReport × Printer
  | [] => ([], p)
  | r :: rest =>
    let (report, p) := p.perform r
    let (reports, p) := p.run rest
    (report :: reports, p)

end Printer

end LispData
