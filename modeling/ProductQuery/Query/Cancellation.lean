import ProductQuery.Query.Refusal
/-!
# Query.Cancellation — giving up a query

A signal that is set stays set, so all that matters of its history is the first moment of the run at which it is set.  A
query looks at its signal at some of these moments and is cancelled if it finds it set.
-/
namespace ProductQuery

/-- The moments of a run, in their order. -/
inductive Moment where
  | beforeDelay
  | duringDelay
  | endOfDelay
  | beforeFilter
  | afterFilter
  | afterSort
  deriving DecidableEq, Repr

/-- The place of a moment among the moments. -/
def Moment.rank : Moment → Nat
  | .beforeDelay => 0
  | .duringDelay => 1
  | .endOfDelay => 2
  | .beforeFilter => 3
  | .afterFilter => 4
  | .afterSort => 5

/-- A signal that is set from a moment of the run on, or never. -/
structure Signal where
  since : Option Moment
  deriving DecidableEq, Repr

/-- What ends a delay when it has run out and the signal is set at the same time. -/
inductive Winner where
  | timer
  | signal
  deriving DecidableEq, Repr

namespace Signal

def never : Signal := ⟨none⟩

/-- Set before the run. -/
def always : Signal := ⟨some .beforeDelay⟩

def isSetAt (s : Signal) (m : Moment) : Bool := s.since.any (fun first => first.rank ≤ m.rank)

/-- Goes on unless the signal is set. -/
def check (s : Signal) (m : Moment) : Except Refusal Unit := if s.isSetAt m then .error .cancelled else .ok ()

/-- Waits until the delay has run out or the signal is set. -/
def waitOut (s : Signal) (winner : Winner) : Except Refusal Unit :=
  if s.isSetAt .duringDelay || (s.isSetAt .endOfDelay && winner = .signal) then .error .cancelled else .ok ()

end Signal
end ProductQuery
