import LispData.Value.Kind
/-!
# Structural equality — one datum against a value

Each kind of datum compares itself with any value: it asks whether the value is
of its own kind and then compares the contents. Pairs are compared element by
element along their chains, and the endings last. This is the same relation as
`==` on values, which walks both trees at once.
-/

namespace LispData

/-- A symbol equals the symbols of the same name, and no text. -/
def Symbol.equals (s : Symbol) (v : Value) : Bool :=
  match v.asSymbol? with
  | some t => s.name == t.name
  | none => false

/-- A number equals the numbers of the same integer. -/
def Number.equals (n : Number) (v : Value) : Bool :=
  match v.asNumber? with
  | some m => n.val == m.val
  | none => false

/-- A text equals the texts of the same characters, and no symbol. -/
def Text.equals (t : Text) (v : Value) : Bool :=
  match v.asText? with
  | some u => t.content == u.content
  | none => false

/-- An atom equals the atoms of its kind with the same content. -/
def Atom.equals (a : Atom) (v : Value) : Bool :=
  match a with
  | .symbol s => s.equals v
  | .number n => n.equals v
  | .text t => t.equals v
  | .boolean b =>
    match v with
    | .boolean c => b == c
    | _ => false
  | .empty => v.hasKind .null
  | .void => v.hasKind .void

/-- **Structural equality**, decided from the side of the first value. -/
def Value.equals : Value → Value → Bool
  | .atom a, w => a.equals w
  | .pair a d, .pair b e => a.equals b && d.equals e
  | .pair _ _, .atom _ => false

/-- A pair equals the pairs with equal elements and equal endings. -/
def Pair.equals (p : Pair) (v : Value) : Bool :=
  match v with
  | .pair b e => p.car.equals b && p.cdr.equals e
  | .atom _ => false

end LispData
