import ProductQuery.Query.Engine
/-!
# Query.Handle — signals that are shared

A signal is reached through handles, which are numbered in the order in which they are made.  A copy of a handle is on
the same signal, so whoever holds a handle sets the signal for all copies of it.  While a query runs others go on making,
copying and using handles; what the query sees is what its own handle says at each moment of the run.
-/
namespace ProductQuery

/-- The signal of each handle, and whether each signal is set. -/
structure Handles where
  signals : List Nat
  flags : List Bool
  inRange : ∀ i ∈ signals, i < flags.length

namespace Handles

/-- No handle was made. -/
def empty : Handles := ⟨[], [], fun _ h => by cases h⟩

/-- A handle on a new signal. -/
def make (s : Handles) : Handles where
  signals := s.signals ++ [s.flags.length]
  flags := s.flags ++ [false]
  inRange := by
    intro i hi
    rw [List.length_append, List.length_singleton]
    rcases List.mem_append.1 hi with hi | hi
    · exact Nat.lt_succ_of_lt (s.inRange i hi)
    · rw [List.mem_singleton.1 hi]
      exact Nat.lt_succ_self _

/-- Another handle on the signal of a handle. -/
def copy (s : Handles) (h : Nat) : Handles where
  signals := s.signals ++ s.signals[h]?.toList
  flags := s.flags
  inRange := by
    intro i hi
    rcases List.mem_append.1 hi with hi | hi
    · exact s.inRange i hi
    · exact s.inRange i (List.mem_of_getElem? (Option.mem_toList.1 hi))

def setSignal (s : Handles) (i : Nat) : Handles where
  signals := s.signals
  flags := s.flags.set i true
  inRange := by
    intro j hj
    rw [List.length_set]
    exact s.inRange j hj

def cancel (s : Handles) (h : Nat) : Handles :=
  match s.signals[h]? with
  | some i => s.setSignal i
  | none => s

def isCancelled (s : Handles) (h : Nat) : Bool := s.signals[h]?.any (fun i => s.flags[i]? == some true)

inductive Action where
  | make
  | copy (h : Nat)
  | cancel (h : Nat)
  deriving DecidableEq, Repr

def act (s : Handles) : Action → Handles
  | .make => s.make
  | .copy h => s.copy h
  | .cancel h => s.cancel h

def after (s : Handles) (actions : List Action) : Handles := actions.foldl act s

end Handles

/-- The moments of a run, in their order. -/
def Moment.all : List Moment := [.beforeDelay, .duringDelay, .endOfDelay, .beforeFilter, .afterFilter, .afterSort]

def Moment.upTo (m : Moment) : List Moment := Moment.all.take (m.rank + 1)

/-- What is done with handles while a query runs: what there is at its start, and what is done before each moment. -/
structure Course where
  start : Handles
  actions : Moment → List Handles.Action

namespace Course

def handles (c : Course) (m : Moment) : Handles := c.start.after (m.upTo.flatMap c.actions)

/-- What the run sees of the signal of a handle. -/
def signal (c : Course) (h : Nat) : Signal := ⟨Moment.all.find? (fun m => (c.handles m).isCancelled h)⟩

end Course

/-- Answers a request in the course of what others do; the client may hold a handle to give the query up. -/
def Engine.queryDuring {R F K : Type} [Queryable R F K] (e : Engine R) (q : Request F) (delayed : Bool) (c : Course)
    (handle : Option Nat) (winner : Winner) : Except Refusal (Page R) :=
  e.query q delayed (handle.elim .never c.signal) winner

end ProductQuery
