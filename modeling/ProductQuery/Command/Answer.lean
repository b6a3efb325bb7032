import ProductQuery.Query.Engine
/-!
# Command.Answer — one request, answered

A request that is no JSON has no answer.  One that is refused is answered all the same, with the reason.
-/
namespace ProductQuery

/-- The answer to a request that is refused. -/
def refusal (code message : String) : Json :=
  .object [("code", .string code), ("message", .string message), ("status", .string "error")]

namespace Engine

variable {R F K : Type} [Queryable R F K]

/-- Answers a body, with the milliseconds that it took. -/
def answer (e : Engine R) (duration : UInt64) (body : List UInt8) : Except Json.SyntaxError Json :=
  match Request.ofBody (Queryable.readFilter R) body with
  | .error (.malformed fault) => .error fault
  | .error (.invalid fault) => .ok (refusal fault.code fault.message)
  | .ok q =>
    match e.execute q .never with
    | .ok p => .ok (p.toJson duration).ordered
    | .error r => .ok (refusal r.code r.message)

end Engine

/-- Answers a body from the collection that it is about. -/
def answerFrom (products : Engine Product) (attributes : Engine Definition) (c : Collection) (duration : UInt64)
    (body : List UInt8) : Except Json.SyntaxError Json :=
  match c with
  | .products => products.answer duration body
  | .attributes => attributes.answer duration body

end ProductQuery
