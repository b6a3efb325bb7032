import ProductQuery.Record.Value
/-!
# Query.Order — how values sort

Absent values come first in ascending and last in descending order, and tie with each other.  Values of one type have
their natural order, arrays item by item and then by length, measures tie.  Values of different types go by type: truth
values, numbers, texts, arrays, measures.
-/
namespace ProductQuery

inductive SortOrder where
  | asc
  | desc
  deriving DecidableEq, Repr

def SortOrder.name : SortOrder → String
  | .asc => "ASC"
  | .desc => "DESC"

def SortOrder.apply : SortOrder → Ordering → Ordering
  | .asc, o => o
  | .desc, o => o.swap

namespace Scalar

def rank : Scalar → Nat
  | .null => 0
  | .bool _ => 1
  | .number _ => 2
  | .string _ => 3

/-- The order of items: null first, then by type, then by value. -/
def order : Scalar → Scalar → Ordering
  | .null, .null => .eq
  | .bool a, .bool b => compare a b
  | .number a, .number b => a.toBinary64.order b.toBinary64
  | .string a, .string b => compare a b
  | a, b => compare a.rank b.rank

/-- Item by item, then by length. -/
def orderAll : List Scalar → List Scalar → Ordering
  | [], [] => .eq
  | [], _ :: _ => .lt
  | _ :: _, [] => .gt
  | a :: as, b :: bs => (a.order b).then (orderAll as bs)

end Scalar

namespace FieldValue

def rank : FieldValue → Nat
  | .undefined => 0
  | .null => 0
  | .bool _ => 1
  | .number _ => 2
  | .string _ => 3
  | .array _ => 4
  | .structured _ => 5

/-- The ascending order. -/
def order : FieldValue → FieldValue → Ordering
  | .bool a, .bool b => compare a b
  | .number a, .number b => Binary64.order a b
  | .string a, .string b => compare a b
  | .array a, .array b => Scalar.orderAll a b
  | a, b => compare a.rank b.rank

def compareBy (o : SortOrder) (a b : FieldValue) : Ordering := o.apply (a.order b)

end FieldValue
end ProductQuery
