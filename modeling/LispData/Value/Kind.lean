import LispData.Value.Basic
/-!
# Kinds — which sort of datum a value is

The kind of a value, its name, the tests for one kind, and the narrowings to
the data of one kind. Truth is a matter of kind too: only the false boolean is
not true.
-/

namespace LispData

/-- The sorts of data that a value can be. -/
inductive Kind where
  | symbol
  | number
  | string
  | boolean
  | null
  | pair
  | void
  deriving DecidableEq

namespace Kind

/-- The name under which a kind is reported. -/
def name : Kind → String
  | .symbol => "symbol"
  | .number => "number"
  | .string => "string"
  | .boolean => "boolean"
  | .null => "null"
  | .pair => "pair"
  | .void => "void"

end Kind

/-- The kind of an atom; the empty list has a kind of its own. -/
def Atom.kind : Atom → Kind
  | .symbol _ => .symbol
  | .number _ => .number
  | .text _ => .string
  | .boolean _ => .boolean
  | .empty => .null
  | .void => .void

/-- Two atoms of one kind. -/
inductive Atom.SameKind : Atom → Atom → Prop where
  | symbol (s t : Symbol) : SameKind (.symbol s) (.symbol t)
  | number (m n : Number) : SameKind (.number m) (.number n)
  | text (s t : Text) : SameKind (.text s) (.text t)
  | boolean (p q : Bool) : SameKind (.boolean p) (.boolean q)
  | empty : SameKind .empty .empty
  | void : SameKind .void .void

/-- Atoms whose kinds agree are two of one kind. -/
theorem Atom.sameKind_of_kind_eq {a b : Atom} (h : a.kind = b.kind) : SameKind a b := by
  cases a <;> cases b <;> first | constructor | cases h

namespace Value

/-- The kind of a value. -/
def kind : Value → Kind
  | .atom a => a.kind
  | .pair _ _ => .pair

/-- Whether the value is of kind `k`. -/
def hasKind (k : Kind) (v : Value) : Bool :=
  v.kind == k

/-- Only the false boolean is not true. -/
def isTruthy : Value → Bool
  | .boolean b => b
  | _ => true

/-- The symbol that the value is, if it is one. -/
def asSymbol? : Value → Option Symbol
  | .atom (.symbol s) => some s
  | _ => none

/-- The number that the value is, if it is one. -/
def asNumber? : Value → Option Number
  | .atom (.number n) => some n
  | _ => none

/-- The text that the value is, if it is one. -/
def asText? : Value → Option Text
  | .atom (.text t) => some t
  | _ => none

/-- The pair that the value is, if it is one. -/
def asPair? : Value → Option Pair
  | .pair a d => some ⟨a, d⟩
  | _ => none

end Value

end LispData
