import LispData.Error
import LispData.Value.Kind
/-!
# Narrowing — a value asked to be of one kind

A caller that needs a symbol, a number, a text or a pair asks the value for it
and gets a type error that names both kinds when the value is of another one.
Comparing two numbers is the first use: both values are narrowed, the left one
first.
-/

namespace LispData

namespace Value

/-- The type error for a value that is not of the expected kind. -/
def mismatch (v : Value) (expected : Kind) : Error :=
  .typeError expected.name v.kind.name

/-- The datum that was looked for, or the type error. -/
def orMismatch {α : Type} (v : Value) (expected : Kind) : Option α → Except Error α
  | some x => .ok x
  | none => .error (v.mismatch expected)

/-- The symbol that the value has to be. -/
def expectSymbol (v : Value) : Except Error Symbol :=
  v.orMismatch .symbol v.asSymbol?

/-- The number that the value has to be. -/
def expectNumber (v : Value) : Except Error Number :=
  v.orMismatch .number v.asNumber?

/-- The text that the value has to be. -/
def expectText (v : Value) : Except Error Text :=
  v.orMismatch .string v.asText?

/-- The pair that the value has to be. -/
def expectPair (v : Value) : Except Error Pair :=
  v.orMismatch .pair v.asPair?

/-- The kinds that a value can be narrowed to. -/
inductive Wanted where
  | symbol
  | number
  | text
  | pair
  deriving DecidableEq

/-- The datum of one kind that a value was narrowed to. -/
inductive Narrowed where
  | symbol (s : Symbol)
  | number (n : Number)
  | text (t : Text)
  | pair (p : Pair)

/-- Narrows a value to the wanted kind. -/
def expect (v : Value) : Wanted → Except Error Narrowed
  | .symbol => v.expectSymbol.map .symbol
  | .number => v.expectNumber.map .number
  | .text => v.expectText.map .text
  | .pair => v.expectPair.map .pair

end Value

namespace Number

/-- The order of two numbers. -/
def order (a b : Number) : Ordering :=
  compare a.val.toInt b.val.toInt

/-- The larger of two numbers. -/
def larger (a b : Number) : Number :=
  if a.order b == .gt then a else b

end Number

/-- How two numbers compare. -/
structure Comparison where
  order : Ordering
  less : Bool
  larger : Number

/-- Compares two values that have to be numbers. -/
def Value.compareNumbers (a b : Value) : Except Error Comparison := do
  let x ← a.expectNumber
  let y ← b.expectNumber
  return ⟨x.order y, x.order y == .lt, x.larger y⟩

end LispData
