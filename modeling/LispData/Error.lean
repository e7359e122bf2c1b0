import LispData.Layout
import LispData.Text.Quoted
/-!
# Errors — why an operation was refused

Three things go wrong: a name is no readable symbol name, a value is not of the
kind that was asked for, or the outside world refuses output. The outside
reports a fault of some sort, perhaps in words of its own.
-/

namespace LispData

/-- The sorts of faults that the outside reports. -/
inductive FaultKind where
  | notFound
  | permissionDenied
  | brokenPipe
  | wouldBlock
  | invalidInput
  | invalidData
  | timedOut
  | writeZero
  | interrupted
  | unexpectedEof
  | other
  deriving DecidableEq

namespace FaultKind

/-- The name of a sort of fault. -/
def name : FaultKind → String
  | .notFound => "NotFound"
  | .permissionDenied => "PermissionDenied"
  | .brokenPipe => "BrokenPipe"
  | .wouldBlock => "WouldBlock"
  | .invalidInput => "InvalidInput"
  | .invalidData => "InvalidData"
  | .timedOut => "TimedOut"
  | .writeZero => "WriteZero"
  | .interrupted => "Interrupted"
  | .unexpectedEof => "UnexpectedEof"
  | .other => "Other"

/-- What is said of a fault that has no words of its own. -/
def description : FaultKind → String
  | .notFound => "entity not found"
  | .permissionDenied => "permission denied"
  | .brokenPipe => "broken pipe"
  | .wouldBlock => "operation would block"
  | .invalidInput => "invalid input parameter"
  | .invalidData => "invalid data"
  | .timedOut => "timed out"
  | .writeZero => "write zero"
  | .interrupted => "operation interrupted"
  | .unexpectedEof => "unexpected end of file"
  | .other => "other error"

/-- Every sort of fault. -/
def all : List FaultKind :=
  [.notFound, .permissionDenied, .brokenPipe, .wouldBlock, .invalidInput, .invalidData, .timedOut,
    .writeZero, .interrupted, .unexpectedEof, .other]

/-- The sort of fault of a given name. -/
def ofName? (name : String) : Option FaultKind :=
  all.find? fun k => k.name == name

end FaultKind

/-- A fault that the outside reports, with words of its own or without. -/
structure Fault where
  kind : FaultKind
  words : Option String
  deriving DecidableEq

namespace Fault

/-- What a fault says of itself. -/
def message (f : Fault) : String :=
  match f.words with
  | some words => words
  | none => f.kind.description

/-- The pieces of a fault in the debug form. -/
def pieces (f : Fault) : List Piece :=
  match f.words with
  | some words => Piece.record "Custom" [("kind", f.kind.name), ("error", quoted words)]
  | none => Piece.tagged "Kind" [.text f.kind.name]

end Fault

/-- **Why an operation was refused.** -/
inductive Error where
  /-- The name is no readable symbol name, for the reason given. -/
  | invalidSymbolName (name reason : String)
  /-- A value of one kind was expected and one of another kind was there. -/
  | typeError (expected got : String)
  /-- Output failed. -/
  | output (fault : Fault)
  deriving DecidableEq

namespace Error

/-- What an error says to people. -/
def message : Error → String
  | .invalidSymbolName name reason => "invalid symbol name " ++ quoted name ++ ": " ++ reason
  | .typeError expected got => "type error: expected " ++ expected ++ ", got " ++ got
  | .output fault => "output failed: " ++ fault.message

/-- The pieces of an error in the debug form. -/
def pieces : Error → List Piece
  | .invalidSymbolName name reason =>
    Piece.record "InvalidSymbolName" [("name", quoted name), ("reason", quoted reason)]
  | .typeError expected got =>
    Piece.record "TypeError" [("expected", quoted expected), ("got", quoted got)]
  | .output fault => Piece.tagged "Output" fault.pieces

/-- The debug form of an error. -/
def debug (e : Error) : String :=
  onOneLine e.pieces

/-- The fault behind an error, if it has one. -/
def source? : Error → Option Fault
  | .output fault => some fault
  | _ => none

end Error

end LispData
