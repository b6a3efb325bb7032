import ProductQuery.Record.Value
/-!
# Record.Product — products

A product has four fixed fields and a list of attributes.  In a catalog no two attributes of one product have the same
key, so the first attribute of a key is the only one.
-/
namespace ProductQuery

structure Attribute where
  key : String
  value : AttributeValue
  deriving Repr

/-- A product; its timestamps count milliseconds. -/
structure Product where
  id : String
  skuId : String
  createdAt : Int64
  updatedAt : Int64
  attributes : List Attribute
  deriving Repr

/-- The fixed fields of a product that a query can name. -/
inductive ProductField where
  | id
  | skuId
  | createdAt
  | updatedAt
  deriving DecidableEq, Repr

namespace ProductField

def all : List ProductField := [.id, .skuId, .createdAt, .updatedAt]

def name : ProductField → String
  | .id => "id"
  | .skuId => "skuId"
  | .createdAt => "createdAt"
  | .updatedAt => "updatedAt"

def ofName? (s : String) : Option ProductField := all.find? (·.name = s)

end ProductField

namespace Attribute

def toJson (a : Attribute) : Json := .object [("key", .string a.key), ("value", a.value.toJson)]

end Attribute

namespace Product

def attribute? (p : Product) (key : String) : Option Attribute := p.attributes.find? (·.key = key)

/-- The key of the first attribute whose key an earlier one has. -/
def repeatedKeyFrom : List String → List Attribute → Option String
  | _, [] => none
  | seen, a :: rest => if seen.contains a.key then some a.key else repeatedKeyFrom (a.key :: seen) rest

def repeatedKey? (p : Product) : Option String := repeatedKeyFrom [] p.attributes

def field (p : Product) : ProductField → FieldValue
  | .id => .string p.id
  | .skuId => .string p.skuId
  | .createdAt => .ofInt64 p.createdAt
  | .updatedAt => .ofInt64 p.updatedAt

/-- The value of an attribute as it stands, undefined if there is no such attribute. -/
def attributeValue (p : Product) (key : String) : FieldValue :=
  (p.attribute? key).elim .undefined (fun a => .ofAttribute a.value)

def toJson (p : Product) : Json :=
  .object [("id", .string p.id), ("skuId", .string p.skuId), ("createdAt", .number (.ofInt64 p.createdAt)),
    ("updatedAt", .number (.ofInt64 p.updatedAt)), ("attributes", .array (p.attributes.map Attribute.toJson))]

end Product
end ProductQuery
