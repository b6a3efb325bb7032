import Mathlib.Logic.Function.Basic
/-!
# Query.Token — waiting for a signal to be set

Any number of waiters and cancellers share a flag and the notifications that are sent.  A waiter asks to be notified, then
reads the flag, and then returns if the flag was set; else it blocks until a notification is sent after it asked, and
begins again.  A canceller first sets the flag and then notifies all who asked before.  No step touches what is shared
more than once, and the steps of the parties mix in any order.
-/
namespace ProductQuery
namespace Token

/-- How far a waiter is.  `asked` counts the notifications sent before it asked for one. -/
inductive Waiter where
  | start
  | asking (asked : Nat)
  /-- It has read the flag. -/
  | checked (asked : Nat) (seen : Bool)
  | blocked (asked : Nat)
  | returned
  deriving DecidableEq, Repr

inductive Canceller where
  | start
  | flagSet
  | finished
  deriving DecidableEq, Repr

structure State where
  flag : Bool
  /-- How many notifications were sent. -/
  sent : Nat
  waiters : Nat → Waiter
  cancellers : Nat → Canceller

/-- Nobody has done anything. -/
def State.initial : State := ⟨false, 0, fun _ => .start, fun _ => .start⟩

/-- Who makes a step. -/
inductive Party where
  | waiter (i : Nat)
  | canceller (i : Nat)
  deriving DecidableEq, Repr

namespace State

open Function (update)

/-- What a step makes of a waiter. -/
def wait (s : State) : Waiter → Waiter
  | .start => .asking s.sent
  | .asking n => .checked n s.flag
  | .checked _ true => .returned
  | .checked n false => .blocked n
  | .blocked n => if n < s.sent then .start else .blocked n
  | .returned => .returned

def act (s : State) : Party → State
  | .waiter i => { s with waiters := update s.waiters i (s.wait (s.waiters i)) }
  | .canceller i =>
    match s.cancellers i with
    | .start => { s with flag := true, cancellers := update s.cancellers i .flagSet }
    | .flagSet => { s with sent := s.sent + 1, cancellers := update s.cancellers i .finished }
    | .finished => s

def after (s : State) (schedule : List Party) : State := schedule.foldl act s

/-- A canceller has set the flag and sent its notification. -/
def isCancelled (s : State) : Prop := ∃ c, s.cancellers c = .finished

/-- A waiter is blocked, and no notification was sent since it asked for one. -/
def isStuck (s : State) (i : Nat) : Prop := ∃ n, s.waiters i = .blocked n ∧ ¬n < s.sent

end State

/-- The parties make their steps in the order of a schedule. -/
def run (schedule : List Party) : State := State.initial.after schedule

end Token
end ProductQuery
