import ProductQuery.Json.Node
/-!
# Json.Numeral — numbers in JSON text

The digits of a number fill a 64-bit significand from the left.  Once the next digit would not fit, the remaining
integer digits only raise the exponent and the remaining fraction digits are dropped.  A number without fraction and
exponent whose digits all fit stays an integer if its range allows; every other number is a double.
-/
namespace ProductQuery
namespace Json

structure Numeral where
  negative : Bool
  whole : List Nat
  fraction : Option (List Nat)
  exponent : Option (Bool × List Nat)
  deriving Repr

def digit? : Symbol → Option Nat
  | some c => if '0' ≤ c ∧ c ≤ '9' then some (c.toNat - '0'.toNat) else none
  | none => none

/-- The digits at the front, and what follows them. -/
def digits : List Symbol → List Nat × List Symbol
  | [] => ([], [])
  | s :: rest =>
    match digit? s with
    | some d => (d :: (digits rest).1, (digits rest).2)
    | none => ([], s :: rest)

namespace Numeral

/-- A number that the end of the text cuts short is an invalid number to a reader that skips it. -/
def cutShort : List Symbol → Fault
  | [] => ⟨.eofValue, some .invalidNumber⟩
  | _ => .hard .invalidNumber

/-- The digits behind the exponent sign: one at least. -/
def readExponent (negative : Bool) (text : List Symbol) : Except Fault ((Bool × List Nat) × List Symbol) :=
  match digits text with
  | ([], _) => .error (cutShort text)
  | (ds, rest) => .ok ((negative, ds), rest)

def exponentPart : List Symbol → Except Fault (Option (Bool × List Nat) × List Symbol)
  | some 'e' :: some '-' :: rest => (readExponent true rest).map (fun r => (some r.1, r.2))
  | some 'e' :: some '+' :: rest => (readExponent false rest).map (fun r => (some r.1, r.2))
  | some 'E' :: some '-' :: rest => (readExponent true rest).map (fun r => (some r.1, r.2))
  | some 'E' :: some '+' :: rest => (readExponent false rest).map (fun r => (some r.1, r.2))
  | some 'e' :: rest => (readExponent false rest).map (fun r => (some r.1, r.2))
  | some 'E' :: rest => (readExponent false rest).map (fun r => (some r.1, r.2))
  | text => .ok (none, text)

/-- The digits behind the point, if there is one: one at least. -/
def fractionPart : List Symbol → Except Fault (Option (List Nat) × List Symbol)
  | some '.' :: text =>
    match digits text with
    | ([], _) => .error (cutShort text)
    | (ds, rest) => .ok (some ds, rest)
  | text => .ok (none, text)

/-- The integer digits: a zero alone, or digits that do not begin with zero. -/
def wholePart (text : List Symbol) : Except Fault (List Nat × List Symbol) :=
  match digits text with
  | ([], _) => .error (cutShort text)
  | (0 :: _ :: _, _) => .error (.hard .invalidNumber)
  | (ds, rest) => .ok (ds, rest)

/-- Reads the number at the front, behind its sign. -/
def read (negative : Bool) (text : List Symbol) : Except Fault (Numeral × List Symbol) := do
  let (whole, text) ← wholePart text
  let (fraction, text) ← fractionPart text
  let (exponent, text) ← exponentPart text
  return (⟨negative, whole, fraction, exponent⟩, text)

/-- A significand under construction: digits taken, and the power of ten of the last of them. -/
structure Significand where
  value : Nat
  exponent : Int
  full : Bool

/-- An integer digit: taken while it fits, counted afterwards. -/
def Significand.pushWhole (s : Significand) (d : Nat) : Significand :=
  if s.full ∨ 0x10000000000000000 ≤ s.value * 10 + d then ⟨s.value, s.exponent + 1, true⟩
  else ⟨s.value * 10 + d, s.exponent, false⟩

/-- A fraction digit: taken while it fits, dropped afterwards. -/
def Significand.pushFraction (s : Significand) (d : Nat) : Significand :=
  if s.full ∨ 0x10000000000000000 ≤ s.value * 10 + d then { s with full := true }
  else ⟨s.value * 10 + d, s.exponent - 1, false⟩

def ofDigits (ds : List Nat) : Nat := ds.foldl (fun n d => n * 10 + d) 0

/-- The double of a significand and a power of ten. -/
def float (negative : Bool) (s : Nat) (e : Int) : Option Number :=
  (Binary64.scaled s e).map (fun u => .float ⟨negative, u⟩)

/-- The number that a numeral spells; `none` if it is out of the range of doubles. -/
def number? (n : Numeral) : Option Number :=
  let whole := n.whole.foldl Significand.pushWhole ⟨0, 0, false⟩
  let power : Int := match n.exponent with
    | none => 0
    | some (true, ds) => -(ofDigits ds : Int)
    | some (false, ds) => ofDigits ds
  match n.fraction, n.exponent with
  | none, none =>
    if whole.full then float n.negative whole.value whole.exponent
    else
      let v : Int := if n.negative then -(whole.value : Int) else whole.value
      if h : (-0x8000000000000000 ≤ v ∧ v < 0x10000000000000000) ∧ ¬(n.negative = true ∧ v = 0) then
        some (.int ⟨v, h.1⟩)
      else float n.negative whole.value 0
  | none, some _ => float n.negative whole.value (whole.exponent + power)
  | some ds, _ =>
    let s := ds.foldl Significand.pushFraction { whole with full := false }
    float n.negative s.value (s.exponent + power)

end Numeral
end Json
end ProductQuery
