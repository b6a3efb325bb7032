/-!
# Binary64 — finite double-precision numbers

A finite double is a whole multiple of `2^-1074`, the smallest subnormal.  A number is kept as its sign and that
multiple, so order and equality are those of the integers and every rounding is exact arithmetic on naturals.  Zero has
two spellings that differ only when written.
-/
namespace ProductQuery

/-- A finite double: a sign, and its magnitude counted in units of `2^-1074`. -/
structure Binary64 where
  negative : Bool
  units : Nat
  deriving DecidableEq, Repr, Inhabited

namespace Binary64

/-- The units in one. -/
def one : Nat := Nat.pow 2 1074

/-- The units in `2^1024`, the first magnitude out of range. -/
def bound : Nat := Nat.pow 2 2098

/-- The integer nearest to `n / d`; a half goes to the even neighbour. -/
def divNearest (n d : Nat) : Nat :=
  let q := n / d
  let r := n % d
  if 2 * r < d then q else if d < 2 * r then q + 1 else q + q % 2

/-- How many low bits of a count are dropped to leave 53 significant ones. -/
def excess (u : Nat) : Nat := Nat.log2 u - 52

/-- The count nearest to `n / d` among those with at most 53 significant bits. -/
def round (n d : Nat) : Nat :=
  let e := excess (n / d)
  divNearest n (d * Nat.pow 2 e) * Nat.pow 2 e

/-- The signed count of units: what order and equality look at. -/
def value (x : Binary64) : Int := if x.negative then -(x.units : Int) else x.units

/-- The double nearest to an integer. -/
def ofInt (n : Int) : Binary64 := ⟨decide (n < 0), round (n.natAbs * one) 1⟩

/-- Equality of values: both zeros are equal. -/
def eq (x y : Binary64) : Bool := decide (x.value = y.value)

def lt (x y : Binary64) : Bool := decide (x.value < y.value)

def le (x y : Binary64) : Bool := decide (x.value ≤ y.value)

def order (x y : Binary64) : Ordering := compare x.value y.value

/-- The rounded product of two magnitudes. -/
def mulUnits (u v : Nat) : Nat := round (u * v) one

/-- The rounded quotient of two magnitudes. -/
def divUnits (u v : Nat) : Nat := round (u * one) v

end Binary64
end ProductQuery
