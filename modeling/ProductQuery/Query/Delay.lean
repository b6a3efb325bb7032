/-!
# Query.Delay — waiting before a query

A service may answer more slowly than it could.  Durations count microseconds.  A random delay is drawn from 64-bit
numbers, so its bounds lose what is beyond 64 bits, and there is nothing to draw if no number is left between them.
-/
namespace ProductQuery

/-- A source of random numbers: it gives a number from the first bound up to, and without, the second. -/
structure Draw where
  pick : UInt64 → UInt64 → UInt64
  within : ∀ least most, least < most → least ≤ pick least most ∧ pick least most < most

/-- Always the least number. -/
def Draw.least : Draw := ⟨fun least _ => least, fun _ _ h => ⟨UInt64.le_refl _, h⟩⟩

inductive Delay where
  | none
  | fixed (duration : Nat)
  | random (least most : Nat)
  deriving DecidableEq, Repr

namespace Delay

/-- The delay that is used where no other is named: from 300 to 1000 milliseconds. -/
def standard : Delay := .random 300000 1000000

/-- The next duration; nothing if there is none to draw. -/
def next? (d : Delay) (draw : Draw) : Option Nat :=
  match d with
  | .none => some 0
  | .fixed duration => some duration
  | .random least most =>
    if most ≤ least then some least
    else
      let a := UInt64.ofNat least
      let b := UInt64.ofNat most
      if a < b then some (draw.pick a b).toNat else Option.none

end Delay
end ProductQuery
