import LispData.Value.Equality
import LispData.Value.Hash
/-!
# Identity — the ways in which two values are found to be the same

Values are identified by structural equality from either side, by `==`, and by
their hash streams. A report puts the answers side by side; a table does so for
every two of several values.
-/

namespace LispData

/-- What each relation says of two values. -/
structure IdentityReport where
  /-- Structural equality, from the side of the first value. -/
  structural : Bool
  /-- Structural equality, from the side of the second value. -/
  reverse : Bool
  /-- Whether `==` holds. -/
  same : Bool
  /-- Whether `!=` holds. -/
  different : Bool
  /-- Whether the hash streams are the same. -/
  sameHash : Bool

namespace Value

/-- Whether two values have the same hash stream. -/
def sameHash (v w : Value) : Bool :=
  v.hashInto .empty == w.hashInto .empty

/-- What each relation says of `v` and `w`. -/
def identify (v w : Value) : IdentityReport where
  structural := v.equals w
  reverse := w.equals v
  same := v == w
  different := v != w
  sameHash := v.sameHash w

/-- The table of a relation on every two of several values, row by row. -/
def table (related : Value → Value → Bool) (values : List Value) : List (List Bool) :=
  values.map fun v => values.map fun w => related v w

end Value

/-- Which of the values, taken in order, were not among those before them. -/
def freshness (values : List Value) : List Bool :=
  go [] values
where
  /-- The same, after the values in `seen`. -/
  go (seen : List Value) : List Value → List Bool
    | [] => []
    | v :: rest => if seen.contains v then false :: go seen rest else true :: go (v :: seen) rest

end LispData
