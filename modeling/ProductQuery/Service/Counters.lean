import ProductQuery.Json.Writer
/-!
# Service.Counters — how many queries ended how

Each handled query adds one to one of four counters, which wrap at 64 bits.
-/
namespace ProductQuery

inductive QueryEnd where
  | executed
  | rejected
  | cancelled
  | failed
  deriving DecidableEq, Repr

structure Counters where
  executed : UInt64
  rejected : UInt64
  cancelled : UInt64
  failed : UInt64
  deriving DecidableEq, Repr

namespace Counters

def zero : Counters := ⟨0, 0, 0, 0⟩

def count (c : Counters) : QueryEnd → Counters
  | .executed => { c with executed := c.executed + 1 }
  | .rejected => { c with rejected := c.rejected + 1 }
  | .cancelled => { c with cancelled := c.cancelled + 1 }
  | .failed => { c with failed := c.failed + 1 }

def toJson (c : Counters) : Json :=
  .object [("queries_executed", .number (.ofUInt64 c.executed)), ("queries_rejected", .number (.ofUInt64 c.rejected)),
    ("queries_cancelled", .number (.ofUInt64 c.cancelled)), ("queries_failed", .number (.ofUInt64 c.failed))]

end Counters
end ProductQuery
