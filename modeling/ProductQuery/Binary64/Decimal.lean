import ProductQuery.Binary64
import ProductQuery.Text.Symbol
/-!
# Binary64.Decimal — doubles and decimal digits

Two readings of `significand * 10^exponent`: `scaled`, which rounds the significand, then multiplies or divides by a
rounded power of ten, and `nearest`, which rounds once.  One writing: `shortest`, the fewest decimal digits that read
back, and of those the nearest to the number.
-/
namespace ProductQuery
namespace Binary64

/-- The units of `10^k`, rounded. -/
def powerOfTen (k : Nat) : Nat := round (Nat.pow 10 k * one) 1

def maxPower : Nat := 308

/-- Divides by powers of ten until the exponent is not below `-308`; zero stays zero. -/
def scaleDown (u : Nat) (e : Int) : Nat × Int :=
  if _h : u = 0 then (0, 0)
  else if _h : -(maxPower : Int) ≤ e then (u, e)
  else scaleDown (divUnits u (powerOfTen maxPower)) (e + maxPower)
termination_by (-e).toNat
decreasing_by simp only [maxPower] at *; omega

/-- A magnitude times a power of ten, rounded at each step; `none` out of range. -/
def scaled (significand : Nat) (exponent : Int) : Option Nat :=
  let (u, e) := scaleDown (round (significand * one) 1) exponent
  if e < 0 then some (divUnits u (powerOfTen e.natAbs))
  else if e.toNat ≤ maxPower then
    let v := mulUnits u (powerOfTen e.toNat)
    if v < bound then some v else none
  else if u = 0 then some 0 else none

/-- The magnitude nearest to `significand * 10^exponent`; `none` out of range.  A magnitude of more than 400 integer
digits is out of range, one with 400 zeros behind the point is zero. -/
def nearest (significand : Nat) (exponent : Int) : Option Nat :=
  let size : Int := Nat.log2 significand / 3
  if significand = 0 then some 0
  else if 400 < exponent then none
  else if exponent + size < -400 then some 0
  else
    let u := if exponent < 0 then round (significand * one) (Nat.pow 10 exponent.natAbs)
      else round (significand * Nat.pow 10 exponent.toNat * one) 1
    if u < bound then some u else none

/-- The exponent behind the digits of a number: a letter, a sign perhaps, and digits. -/
def readExponent : List Char → Option Int
  | [] => some 0
  | c :: rest =>
    let (negative, digits) := match rest with
      | '-' :: digits => (true, digits)
      | '+' :: digits => (false, digits)
      | digits => (false, digits)
    if (c = 'e' ∨ c = 'E') ∧ digits ≠ [] ∧ digits.all Char.isDigit then
      some (if negative then -(ofDecimalDigits digits : Int) else ofDecimalDigits digits)
    else none

/-- The double nearest to a decimal text; nothing if it is no number or out of range. -/
def ofText? (text : String) : Option Binary64 :=
  let (negative, body) := match text.toList with
    | '-' :: body => (true, body)
    | '+' :: body => (false, body)
    | body => (false, body)
  let (whole, rest) := body.span Char.isDigit
  let (fraction, rest) := match rest with
    | '.' :: rest => rest.span Char.isDigit
    | rest => ([], rest)
  if whole = [] ∧ fraction = [] then none
  else do
    let exponent ← readExponent rest
    let u ← nearest (ofDecimalDigits (whole ++ fraction)) (exponent - fraction.length)
    return ⟨negative, u⟩

/-- Is `u` units at least `10^t`? -/
def atLeastPower (u : Nat) (t : Int) : Bool :=
  if t < 0 then one ≤ u * Nat.pow 10 t.natAbs else Nat.pow 10 t.toNat * one ≤ u

/-- The decimal exponent of a positive magnitude: the greatest `t` with `10^t ≤ u`.  The estimate from the bit length
is off by one at most. -/
def decimalExponent (u : Nat) : Int :=
  let t : Int := ((Nat.log2 u : Int) - 1074) * 30103 / 100000
  if atLeastPower u (t + 1) then t + 1 else if atLeastPower u t then t else t - 1

/-- Half units between which every real rounds to `u`, and whether the ends do too. -/
def roundingInterval (u : Nat) : Nat × Nat × Bool :=
  let e := excess u
  let gap := Nat.pow 2 e
  let below := if e ≠ 0 ∧ u = Nat.pow 2 (52 + e) then gap / 2 else gap
  (2 * u - below, 2 * u + gap, (u / gap) % 2 = 0)

/-- The multiple of `10^k` next to `u` from either side that rounds to `u`, the nearer of two, the even one of two
equally near. -/
def onGrid (u : Nat) (k : Int) : Option Nat :=
  -- everything in half units, scaled by `10^-k` where `k` is negative
  let up := if k < 0 then Nat.pow 10 k.natAbs else 1
  let step := 2 * one * (if k < 0 then 1 else Nat.pow 10 k.toNat)
  let (lo, hi, closed) := roundingInterval u
  let v := 2 * u * up
  let d := v / step
  let inside (m : Nat) : Bool :=
    let x := m * step
    if closed then lo * up ≤ x ∧ x ≤ hi * up else lo * up < x ∧ x < hi * up
  let down := d
  let above := d + 1
  match decide (0 < down) && inside down, inside above with
  | true, true =>
    let a := v - down * step
    let b := above * step - v
    some (if a < b then down else if b < a then above else if down % 2 = 0 then down else above)
  | true, false => some down
  | false, true => some above
  | false, false => none

/-- The first of the grids of `n`, `n + 1`, … digits with a number that reads back. -/
def shortestFrom (u : Nat) (t : Int) : Nat → Nat → Nat × Int
  | _, 0 => (u, 0)
  | n, left + 1 =>
    let k := t - n
    match onGrid u k with
    | some d => (d, k)
    | none => shortestFrom u t (n + 1) left

/-- Moves the zeros at the end of a digit string into the exponent. -/
def dropZeros : Nat → Nat → Int → Nat × Int
  | 0, d, k => (d, k)
  | left + 1, d, k => if d % 10 = 0 ∧ d ≠ 0 then dropZeros left (d / 10) (k + 1) else (d, k)

/-- The fewest digits that read back, as a number `d` and an exponent `k` with `d * 10^k` near `u`. -/
def shortest (u : Nat) : Nat × Int :=
  if u = 0 then (0, 0)
  else
    let (d, k) := shortestFrom u (decimalExponent u) 0 17
    dropZeros 20 d k

/-- How a decimal is laid out: the decimal exponents written positionally. -/
structure Layout where
  least : Int
  most : Int
  deriving Repr

/-- Writes a double: positionally with at least one digit behind the point, or as digits and a signed exponent. -/
def text (layout : Layout) (x : Binary64) : String :=
  let (d, k) := shortest x.units
  let digits := (Nat.toDigits 10 d)
  let n := digits.length
  let e : Int := if x.units = 0 then 0 else k + n - 1
  let body : List Char :=
    if layout.least ≤ e ∧ e ≤ layout.most then
      if e < 0 then '0' :: '.' :: (List.replicate (e.natAbs - 1) '0' ++ digits)
      else
        let whole := e.toNat + 1
        if n ≤ whole then digits ++ List.replicate (whole - n) '0' ++ ['.', '0']
        else digits.take whole ++ '.' :: digits.drop whole
    else
      let mantissa := match digits with
        | [] => []
        | [c] => [c]
        | c :: rest => c :: '.' :: rest
      mantissa ++ 'e' :: (if e < 0 then '-' else '+') :: Nat.toDigits 10 e.natAbs
  String.ofList (if x.negative then '-' :: body else body)

end Binary64
end ProductQuery
