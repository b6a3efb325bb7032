import ProductQuery.Query.Window
/-!
# Query.Refusal — why a query is not answered

A query that is in order as JSON may still be refused: it names what the collection does not have, asks for a page that
does not exist, or was cancelled.
-/
namespace ProductQuery

inductive Collection where
  | products
  | attributes
  deriving DecidableEq, Repr

def Collection.name : Collection → String
  | .products => "products"
  | .attributes => "attributes"

inductive Refusal where
  | unknownFilterField (collection field : String)
  | unknownSortField (collection field : String)
  | invalidPagination (p : Pagination)
  | cancelled
  deriving DecidableEq, Repr

namespace Refusal

def code : Refusal → String
  | .unknownFilterField _ _ => "CATALOG_UNKNOWN_FILTER_FIELD"
  | .unknownSortField _ _ => "CATALOG_UNKNOWN_SORT_FIELD"
  | .invalidPagination _ => "CATALOG_INVALID_PAGINATION"
  | .cancelled => "CATALOG_QUERY_CANCELLED"

def isCancelled : Refusal → Bool
  | .cancelled => true
  | _ => false

/-- A request is rejected; a query that its client gave up is aborted. -/
def severity (r : Refusal) : String := if r.isCancelled then "ABORT" else "REJECT"

def message : Refusal → String
  | .unknownFilterField collection field => s!"Unknown filter field '{field}' for {collection}"
  | .unknownSortField collection field => s!"Unknown sort field '{field}' for {collection}"
  | .invalidPagination p =>
    s!"Pagination offset and limit must be non-negative (offset={p.offset.toInt}, limit={p.limit.toInt})"
  | .cancelled => "Query cancelled"

/-- The field that the collection does not have. -/
def field? : Refusal → Option String
  | .unknownFilterField _ field => some field
  | .unknownSortField _ field => some field
  | _ => none

def display (r : Refusal) : String := s!"[{r.severity}] {r.code}: {r.message}"

end Refusal
end ProductQuery
