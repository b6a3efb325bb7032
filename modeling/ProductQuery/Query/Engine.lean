import ProductQuery.Filter.Matching
import ProductQuery.Query.Cancellation
import ProductQuery.Query.Delay
/-!
# Query.Engine — answering a request

A request is first checked against the collection: the page, then the field to sort by, then the fields of the filter.
What passes may have to wait, and is then answered in three steps, each on the result of the one before: the records that
satisfy the filter, in the order asked for, inside the window.  Sorting is stable, so records that tie keep the order of
the collection.
-/
namespace ProductQuery

/-- A kind of record that can be queried. -/
class Queryable (R : Type) (Filter SortKey : outParam Type) where
  collection : Collection
  readFilter : Json → FilterRead Filter
  /-- The names in a filter that no field has, in increasing order. -/
  unknownFields : Filter → List String
  satisfies : R → Filter → Bool
  /-- What a name in a request sorts by. -/
  sortKey? : String → Option SortKey
  sortValue : R → SortKey → FieldValue
  toJson : R → Json

/-- What products sort by: a fixed field, or an attribute as it stands. -/
inductive ProductKey where
  | field (f : ProductField)
  | attribute (key : String)
  deriving DecidableEq, Repr

namespace ProductKey

/-- The key of an attribute, if a name has one. -/
def attributeOf? (name : String) : Option String :=
  let lead := "attributes.".toList
  if lead.isPrefixOf name.toList then some (String.ofList (name.toList.drop lead.length)) else none

def ofName? (name : String) : Option ProductKey :=
  match attributeOf? name with
  | some key => some (.attribute key)
  | none => (ProductField.ofName? name).map .field

end ProductKey

instance : Queryable Product ProductFilter ProductKey where
  collection := .products
  readFilter := ProductFilter.read
  unknownFields := ProductFilter.unknownFields
  satisfies := Product.satisfies
  sortKey? := ProductKey.ofName?
  sortValue
    | p, .field f => p.field f
    | p, .attribute key => p.attributeValue key
  toJson := Product.toJson

instance : Queryable Definition DefinitionFilter DefinitionField where
  collection := .attributes
  readFilter := DefinitionFilter.read
  unknownFields := DefinitionFilter.unknownFields
  satisfies := Definition.satisfies
  sortKey? := DefinitionField.ofName?
  sortValue := Definition.field
  toJson := Definition.toJson

/-- A page of records, the number of all that satisfy the filter, and the window it was cut with. -/
structure Page (R : Type) where
  data : List R
  total : Nat
  window : Window
  deriving Repr

namespace Page

variable {R : Type}

def hasMore (p : Page R) : Bool := p.window.hasMore p.total

/-- The answer to a client, with the milliseconds that the query took. -/
def toJson {F K : Type} [Queryable R F K] (p : Page R) (duration : UInt64) : Json :=
  .object [("data", .array (p.data.map Queryable.toJson)), ("total", .number (.ofNat p.total)),
    ("pagination", .object [("offset", .number (.ofUInt64 p.window.offset)),
      ("limit", .number (.ofUInt64 p.window.limit)), ("hasMore", .bool p.hasMore)]),
    ("debugInfo", .object [("duration", .number (.ofUInt64 duration))])]

end Page

/-- A collection and the policy under which it is queried. -/
structure Engine (R : Type) where
  records : List R
  policy : Policy

/-- What is left of a request once it is checked. -/
structure Plan (K : Type) where
  window : Window
  sort : Option (K × SortOrder)
  /-- The filter names a field that no record has, and that is no error. -/
  excludesAll : Bool
  deriving Repr

namespace Engine

variable {R F K : Type} [Queryable R F K]

def window (policy : Policy) (p : Pagination) : Except Refusal Window :=
  match Window.ofPagination? policy p with
  | some w => .ok w
  | none => .error (.invalidPagination p)

variable (R) in
def sorting (policy : Policy) : Option Sorting → Except Refusal (Option (K × SortOrder))
  | none => .ok none
  | some s =>
    match Queryable.sortKey? (R := R) s.field, policy with
    | some key, _ => .ok (some (key, s.order))
    | none, .strict => .error (.unknownSortField (Queryable.collection R).name s.field)
    | none, .lenient => .ok none

variable (R) in
/-- Does the filter exclude every record because no record has one of its fields? -/
def exclusion (policy : Policy) (filter : Option F) : Except Refusal Bool :=
  match (filter.elim [] (Queryable.unknownFields R)).head?, policy with
  | none, _ => .ok false
  | some field, .strict => .error (.unknownFilterField (Queryable.collection R).name field)
  | some _, .lenient => .ok true

variable (R) in
def plan (policy : Policy) (q : Request F) : Except Refusal (Plan K) := do
  let w ← window policy q.page
  let s ← sorting R policy q.sort
  let x ← exclusion R policy q.filter
  return ⟨w, s, x⟩

/-- The records that satisfy the filter, in the order of the collection. -/
def matching (records : List R) (excludesAll : Bool) (filter : Option F) : List R :=
  if excludesAll then []
  else
    match filter with
    | none => records
    | some f => records.filter (Queryable.satisfies · f)

/-- Records in order; those that tie stay as they are. -/
def sortBy (key : K) (order : SortOrder) (records : List R) : List R :=
  records.mergeSort (fun a b =>
    (FieldValue.compareBy order (Queryable.sortValue a key) (Queryable.sortValue b key)).isLE)

def run (e : Engine R) (q : Request F) (p : Plan K) (signal : Signal) : Except Refusal (Page R) := do
  signal.check .beforeFilter
  let found := matching e.records p.excludesAll q.filter
  signal.check .afterFilter
  match p.sort with
  | none => return ⟨p.window.slice found, found.length, p.window⟩
  | some (key, order) =>
    let sorted := sortBy key order found
    signal.check .afterSort
    return ⟨p.window.slice sorted, sorted.length, p.window⟩

def execute (e : Engine R) (q : Request F) (signal : Signal) : Except Refusal (Page R) := do
  let p ← plan R e.policy q
  e.run q p signal

/-- What a query comes to before it may have to wait: a plan, unless it is refused or given up. -/
def prepare (e : Engine R) (q : Request F) (signal : Signal) : Except Refusal (Plan K) := do
  let p ← plan R e.policy q
  signal.check .beforeDelay
  return p

/-- Does a query have to wait?  A delay is drawn for what is in order; nothing if there is none to draw. -/
def wait? (e : Engine R) (q : Request F) (delay : Delay) (draw : Draw) (signal : Signal) : Option Bool :=
  match e.prepare q signal with
  | .error _ => some false
  | .ok _ => (delay.next? draw).map (fun duration => duration != 0)

/-- Answers a request, which may have to wait first. -/
def query (e : Engine R) (q : Request F) (delayed : Bool) (signal : Signal) (winner : Winner) :
    Except Refusal (Page R) := do
  let p ← e.prepare q signal
  if delayed then signal.waitOut winner
  e.run q p signal

end Engine
end ProductQuery
