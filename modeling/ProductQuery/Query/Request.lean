import ProductQuery.Filter.Grammar
import ProductQuery.Json.Decode
import ProductQuery.Query.Order
/-!
# Query.Request — what a client asks for

A request is an object with the members `filter`, `sort` and `pagination`, none of which must occur.  No body, a body of
blanks and `null` are the empty request.  The shapes of `sort` and `pagination` are looked at before the filter.
-/
namespace ProductQuery

/-- The field to sort by, as named by the client, and the direction. -/
structure Sorting where
  field : String
  order : SortOrder
  deriving DecidableEq, Repr

/-- The page asked for, as given by the client. -/
structure Pagination where
  offset : Int64
  limit : Int64
  deriving DecidableEq, Repr

namespace Pagination

/-- The first twenty-five records. -/
def standard : Pagination := ⟨0, 25⟩

def toJson (p : Pagination) : Json :=
  .object [("offset", .number (.ofInt64 p.offset)), ("limit", .number (.ofInt64 p.limit))]

def shape : Json.Shape := ⟨"struct PaginationSpec", ["offset", "limit"]⟩

def decode (source : Json.Source) : Json.Decoder Pagination := Json.Decode.record source shape fun r =>
  Pagination.mk <$> r.defaulted shape "offset" standard.offset Json.Decode.int64
    <*> r.defaulted shape "limit" standard.limit Json.Decode.int64

end Pagination

def SortOrder.all : List SortOrder := [.asc, .desc]

def SortOrder.decode (source : Json.Source) : Json.Decoder SortOrder :=
  Json.Decode.choice source (SortOrder.all.map (fun o => (o.name, o)))

namespace Sorting

def toJson (s : Sorting) : Json := .object [("field", .string s.field), ("order", .string s.order.name)]

def shape : Json.Shape := ⟨"struct SortSpec", ["field", "order"]⟩

def decode (source : Json.Source) : Json.Decoder Sorting := Json.Decode.record source shape fun r =>
  Sorting.mk <$> r.required shape "field" Json.Decode.string <*> r.required shape "order" (SortOrder.decode source)

end Sorting

/-- A request whose filter has type `F`. -/
structure Request (F : Type) where
  filter : Option F
  sort : Option Sorting
  pagination : Option Pagination
  deriving Repr

inductive RequestFault where
  | notAnObject
  | invalid (e : Json.DecodeError)
  | stated (reason : String)
  deriving Repr

def RequestFault.message : RequestFault → String
  | .notAnObject => "Request body must be a JSON object"
  | .invalid e => s!"Invalid request: {e.message}"
  | .stated reason => reason

inductive QueryError where
  | request (fault : RequestFault)
  | filter (e : FilterError)
  deriving Repr

namespace QueryError

def code : QueryError → String
  | .request _ => "CATALOG_INVALID_REQUEST"
  | .filter _ => "CATALOG_INVALID_FILTER"

def message : QueryError → String
  | .request fault => fault.message
  | .filter e => s!"Invalid filter at '{e.path}': {e.fault.message}"

/-- The part of the filter that is not in order. -/
def path? : QueryError → Option String
  | .request _ => none
  | .filter e => some e.path

def display (e : QueryError) : String := e.code ++ ": " ++ e.message

end QueryError

/-- Why a body is no query: it is no JSON, or JSON of another shape. -/
inductive BodyError where
  | malformed (e : Json.SyntaxError)
  | invalid (e : QueryError)
  deriving Repr

namespace Request

/-- The members of a request before its filter is read. -/
structure Envelope where
  filter : Option Json
  sort : Option Sorting
  pagination : Option Pagination

def Envelope.shape : Json.Shape := ⟨"struct RawRequest", ["filter", "sort", "pagination"]⟩

def Envelope.decode : Json.Decoder Envelope := Json.Decode.record .value shape fun r =>
  Envelope.mk <$> r.optional shape "filter" (fun n => .ok n.value)
    <*> r.optional shape "sort" (Sorting.decode .value)
    <*> r.optional shape "pagination" (Pagination.decode .value)

variable {F : Type}

def empty : Request F := ⟨none, none, none⟩

def page (r : Request F) : Pagination := r.pagination.getD .standard

def read (readFilter : Json → FilterRead F) : Json → Except QueryError (Request F)
  | .null => .ok empty
  | .object members =>
    match Envelope.decode (.ofJson (.object members)) with
    | .error e => .error (.request (.invalid e))
    | .ok envelope =>
      match envelope.filter with
      | none => .ok ⟨none, envelope.sort, envelope.pagination⟩
      | some f =>
        match readFilter f with
        | .error e => .error (.filter e)
        | .ok filter => .ok ⟨some filter, envelope.sort, envelope.pagination⟩
  | _ => .error (.request .notAnObject)

/-- The blanks of ASCII, one more than those of JSON. -/
def isBlankByte (b : UInt8) : Bool := b = 0x20 || b = 0x09 || b = 0x0A || b = 0x0C || b = 0x0D

def ofBody (readFilter : Json → FilterRead F) (body : List UInt8) : Except BodyError (Request F) :=
  if body.all isBlankByte then .ok empty
  else
    match Json.read (Symbol.ofBytes body) with
    | .error e => .error (.malformed e)
    | .ok v => (read readFilter v).mapError .invalid

end Request
end ProductQuery
