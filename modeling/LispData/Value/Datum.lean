import LispData.Value.Debug
import LispData.Value.Equality
import LispData.Value.Render
/-!
# Data — what every kind of datum can do

Symbols, numbers, texts and pairs, and values as such, share one interface:
each knows its kind, recognises itself among values, has the two texts and the
debug form, compares itself with a value, and becomes a value.
-/

namespace LispData

/-- **The interface of a datum.** -/
class Datum (α : Type) where
  /-- The kind of the datum. -/
  kind : α → Kind
  /-- Whether a value is a datum of this type. -/
  recognises : Value → Bool
  /-- The display form. -/
  display : α → String
  /-- The write form. -/
  write : α → String
  /-- The pieces of the debug form. -/
  pieces : α → List Piece
  /-- Structural equality with a value. -/
  equals : α → Value → Bool
  /-- The datum as a value. -/
  toValue : α → Value

instance : Datum Symbol where
  kind _ := .symbol
  recognises := Value.hasKind .symbol
  display := Symbol.display
  write := Symbol.write
  pieces := Symbol.pieces
  equals := Symbol.equals
  toValue s := .atom (.symbol s)

instance : Datum Number where
  kind _ := .number
  recognises := Value.hasKind .number
  display := Number.display
  write := Number.write
  pieces := Number.pieces
  equals := Number.equals
  toValue n := .atom (.number n)

instance : Datum Text where
  kind _ := .string
  recognises := Value.hasKind .string
  display := Text.display
  write := Text.write
  pieces := Text.pieces
  equals := Text.equals
  toValue t := .atom (.text t)

instance : Datum Pair where
  kind _ := .pair
  recognises := Value.hasKind .pair
  display := Pair.display
  write := Pair.write
  pieces := Pair.pieces
  equals := Pair.equals
  toValue := Pair.toValue

instance : Datum Value where
  kind := Value.kind
  recognises _ := true
  display := Value.display
  write := Value.write
  pieces := Value.pieces
  equals := Value.equals
  toValue v := v

/-- What a datum says of itself, and of another value. -/
structure Profile where
  kind : Kind
  display : String
  write : String
  debug : String
  recognisesOther : Bool
  equalsOther : Bool
  equalsSelf : Bool
  value : Value

/-- The profile of a datum beside another value. -/
def profile {α : Type} [Datum α] (x : α) (other : Value) : Profile where
  kind := Datum.kind x
  display := Datum.display x
  write := Datum.write x
  debug := onOneLine (Datum.pieces x)
  recognisesOther := @Datum.recognises α _ other
  equalsOther := Datum.equals x other
  equalsSelf := Datum.equals x (Datum.toValue x)
  value := Datum.toValue x

/-- The profile of the symbol, number, text or pair that a value is; a value of
another kind answers as a value. -/
def Value.profile (v other : Value) : Profile :=
  match v with
  | .atom (.symbol s) => LispData.profile s other
  | .atom (.number n) => LispData.profile n other
  | .atom (.text t) => LispData.profile t other
  | .pair a d => LispData.profile (Pair.mk a d) other
  | v => LispData.profile v other

/-- A datum of which it is not known whether it is one of ours. -/
inductive Foreign where
  | symbol (s : Symbol)
  | value (v : Value)
  | other

/-- Whether an unknown datum is a symbol, on its own or as a value. -/
def Foreign.isSymbol : Foreign → Bool
  | .symbol _ => true
  | .value v => v.hasKind .symbol
  | .other => false

end LispData
