/-!
# Trace records — what an operation leaves in the log

Two activities leave trace records: refusing a symbol name, and printing. An
operation that may leave some returns them beside its result.
-/

namespace LispData

/-- The activities that leave trace records. -/
inductive Activity where
  | naming
  | printing
  deriving DecidableEq

/-- One record of the log. -/
structure TraceRecord where
  activity : Activity
  message : String
  deriving DecidableEq

/-- A result together with the records that were made on the way to it. -/
structure Logged (α : Type) where
  result : α
  log : List TraceRecord

end LispData
