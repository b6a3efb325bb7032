import ProductQuery.Service.Router
/-!
# Service.Concurrency — requests handled at the same time

Each request has a handler of its own, and the steps of the handlers mix in any order.  The handler of a query draws the
delay of what it received, waits until that is over, and then counts the query, logs it and answers it.  It ends without
an answer if there is no delay to draw, or if its client goes away while it waits.  A report reads the counters one after
the other and is answered with what it read.  Any other request is answered in one step.
-/
namespace ProductQuery

namespace Counters

/-- The counters in the order in which a report reads them. -/
def values (c : Counters) : List UInt64 := [c.executed, c.rejected, c.cancelled, c.failed]

def ofValues? : List UInt64 → Option Counters
  | [executed, rejected, cancelled, failed] => some ⟨executed, rejected, cancelled, failed⟩
  | _ => none

end Counters

namespace Concurrency

/-- A request, and what is left to chance while it is handled. -/
structure Call where
  request : HttpRequest
  chance : Chance

namespace Call

def isReport (c : Call) : Bool :=
  Route.ofTarget? c.request.target = some .metrics ∧ (Route.methods .metrics).contains c.request.method

def wait? (s : Service) (c : Call) : Option Bool := s.wait? c.chance.draw c.request

/-- What comes of the delay of a request that gets beyond it. -/
def timing (s : Service) (c : Call) : Timing := ⟨(c.wait? s).getD false, c.chance.duration⟩

end Call

inductive Stage where
  | received
  | waiting
  /-- The delay of a query is over. -/
  | ready
  | counted
  | logged
  /-- Some of the counters were read. -/
  | reading (seen : List UInt64)
  | answered (r : Response)
  /-- The handler has ended without an answer. -/
  | lost

structure Handler where
  call : Call
  stage : Stage

/-- What the handlers share, and the handlers in the order in which their requests came in. -/
structure State where
  counters : Counters
  log : List Log.Entry
  handlers : List Handler

def State.initial : State := ⟨.zero, [], []⟩

inductive Action where
  | receive (c : Call)
  | advance (i : Nat)
  /-- The client of a request goes away. -/
  | leave (i : Nat)

/-- Where the handling of a request begins. -/
def Call.begin (s : Service) (k : Counters) (c : Call) : Stage :=
  if c.request.queried?.isSome then .received
  else if c.isReport then .reading []
  else .answered (s.handle (c.timing s) k c.request).response

/-- Where a query gets to when its delay is drawn. -/
def Stage.drawn : Option Bool → Stage
  | none => .lost
  | some true => .waiting
  | some false => .ready

/-- Where a handler gets to when its client goes away: it is dropped if it waits, and else goes on to its end. -/
def Stage.left : Stage → Stage
  | .waiting => .lost
  | stage => stage

/-- Where one step of a handler gets it, with the counters as they are. -/
def Handler.next (s : Service) (k : Counters) (h : Handler) : Stage :=
  let response (k : Counters) := (s.handle (h.call.timing s) k h.call.request).response
  match h.stage with
  | .received => .drawn (h.call.wait? s)
  | .waiting => .ready
  | .ready => .counted
  | .counted => .logged
  | .logged => .answered (response k)
  | .reading seen =>
    match Counters.ofValues? seen with
    | some read => .answered (response read)
    | none => .reading (seen ++ (k.values.drop seen.length).take 1)
  | .answered r => .answered r
  | .lost => .lost

namespace State

/-- A handler that has the place `i` gets to a stage. -/
def move (st : State) (i : Nat) (h : Handler) (stage : Stage) : State :=
  { st with handlers := st.handlers.set i { h with stage := stage } }

/-- One step of a handler, which has the place `i`. -/
def advance (s : Service) (st : State) (i : Nat) (h : Handler) : State :=
  let handled := s.handle (h.call.timing s) st.counters h.call.request
  let moved := st.move i h (h.next s st.counters)
  match h.stage with
  | .ready => { moved with counters := handled.counters }
  | .counted => { moved with log := st.log ++ handled.log }
  | _ => moved

/-- The client of a handler, which has the place `i`, goes away. -/
def leave (st : State) (i : Nat) (h : Handler) : State := st.move i h h.stage.left

def act (s : Service) (st : State) : Action → State
  | .receive c => { st with handlers := st.handlers ++ [⟨c, c.begin s st.counters⟩] }
  | .advance i => st.handlers[i]?.elim st (st.advance s i)
  | .leave i => st.handlers[i]?.elim st (st.leave i)

end State

def run (s : Service) (actions : List Action) : State := actions.foldl (State.act s) .initial

end Concurrency
end ProductQuery
