import ProductQuery.Log.Event
import ProductQuery.Query.Engine
import ProductQuery.Service.Counters
/-!
# Service.Outcome — what becomes of a query

A query sent to a service is answered with a page, refused with a code, or fails.  What a failure is about goes into the
log and not to the client.  A query that is in order draws a delay and waits; if there is none to draw nothing becomes of
it at all.
-/
namespace ProductQuery

/-- Why a query sent to a service has no page. -/
inductive ServiceError where
  | query (e : QueryError)
  | refused (r : Refusal)
  | internal (collection : Collection) (reason : String)
  deriving Repr

namespace ServiceError

def status : ServiceError → Nat
  | .query _ => 400
  | .refused r => if r.isCancelled then 503 else 400
  | .internal _ _ => 500

def code? : ServiceError → Option String
  | .query e => some e.code
  | .refused r => some r.code
  | .internal _ _ => none

/-- What the client is told. -/
def message : ServiceError → String
  | .query e => e.message
  | .refused r => r.message
  | .internal collection _ => s!"Failed to process {collection.name} query"

def toJson (e : ServiceError) : Json :=
  .object (("error", .string e.message) :: (e.code?.map (fun c => ("code", Json.string c))).toList)

def ending : ServiceError → QueryEnd
  | .refused .cancelled => .cancelled
  | .internal _ _ => .failed
  | _ => .rejected

def entry (collection : Collection) : ServiceError → Log.Entry
  | .refused .cancelled => ⟨.queryCancelled, [("collection", collection.name)]⟩
  | .internal c reason => ⟨.requestFailed, [("collection", c.name), ("reason", reason)]⟩
  | e => ⟨.queryRejected, [("collection", collection.name), ("code", e.code?.getD ""), ("message", e.message)]⟩

end ServiceError

/-- What is left to chance when a request is handled: the delay that is drawn for it, and the milliseconds that a clock
shows when it is done. -/
structure Chance where
  draw : Draw
  duration : UInt64

/-- What came of the delay of a query, and of the clock: whether it had to wait, and the milliseconds it took. -/
structure Timing where
  delayed : Bool
  duration : UInt64
  deriving Repr

/-- The page of a query, or why there is none. -/
abbrev Outcome (R : Type) := Except ServiceError (Page R)

namespace Outcome

variable {R F K : Type} [Queryable R F K]

/-- Does the query in a body have to wait?  What is no request does not; nothing if there is no delay to draw. -/
def wait? (e : Engine R) (delay : Delay) (draw : Draw) (body : List UInt8) : Option Bool :=
  match Request.ofBody (Queryable.readFilter R) body with
  | .error _ => some false
  | .ok q => e.wait? q delay draw .never

/-- What becomes of the query in a body once its delay is over. -/
def ofBody (e : Engine R) (t : Timing) (body : List UInt8) : Outcome R :=
  match Request.ofBody (Queryable.readFilter R) body with
  | .error (.malformed fault) => .error (.internal (Queryable.collection R) fault.message)
  | .error (.invalid fault) => .error (.query fault)
  | .ok q => (e.query q t.delayed .never .timer).mapError .refused

def ending : Outcome R → QueryEnd
  | .ok _ => .executed
  | .error e => e.ending

def entry (t : Timing) : Outcome R → Log.Entry
  | .ok p => ⟨.queryExecuted, [("collection", (Queryable.collection R).name), ("total", toString p.total),
      ("returned", toString p.data.length), ("duration_ms", toString t.duration.toNat)]⟩
  | .error e => e.entry (Queryable.collection R)

def status : Outcome R → Nat
  | .ok _ => 200
  | .error e => e.status

def toJson (t : Timing) : Outcome R → Json
  | .ok p => p.toJson t.duration
  | .error e => e.toJson

end Outcome
end ProductQuery
