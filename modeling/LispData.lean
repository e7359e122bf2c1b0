import LispData.Printer
import LispData.Script
import LispData.Value.Cursor
import LispData.Value.Datum
import LispData.Proofs.Printer.WholeRun
import LispData.Proofs.Printer.Writing
import LispData.Proofs.Text.Span
import LispData.Proofs.Text.Utf8
import LispData.Proofs.Text.Word
import LispData.Proofs.Value.Equality
import LispData.Proofs.Value.HashBytes
import LispData.Proofs.Value.HashCollision
import LispData.Proofs.Value.HashMarks
import LispData.Proofs.Value.ListText
import LispData.Proofs.Value.Rereading
import LispData.Proofs.Value.UniqueReading
import LispData.Proofs.Text.Delimited
import LispData.Proofs.Text.Quoted
import LispData.Proofs.Value.DebugReading
import LispData.Proofs.Value.ListNotation
import LispData.Proofs.Printer.SpacedOutput
import LispData.Proofs.Value.Identity
import LispData.Proofs.Text.Literal
import LispData.Proofs.Printer.Lines
import LispData.Proofs.Value.Escaping
import LispData.Proofs.Value.CursorPosition
import LispData.Proofs.Value.Building
import LispData.Proofs.Printer.Blocks
import LispData.Proofs.Printer.CallRecord
import LispData.Proofs.Value.HashDecoding
import LispData.Proofs.Layout.Collapse
import LispData.Proofs.Layout.Indentation
import LispData.Proofs.Value.Pretty
import LispData.Proofs.Script.Failures
import LispData.Proofs.Symbol.Refusal
