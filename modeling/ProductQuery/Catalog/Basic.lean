import ProductQuery.Query.Engine
/-!
# Catalog.Basic — the records of a catalog

A catalog holds products and attribute definitions, each in the order of its document.  No product has two attributes of
one key.
-/
namespace ProductQuery

structure Catalog where
  products : List Product
  attributes : List Definition
  unique : ∀ p ∈ products, p.repeatedKey? = none

namespace Catalog

/-- The first product with a repeated key, by its id, and that key. -/
def repeatedKey? (products : List Product) : Option (String × String) :=
  products.findSome? (fun p => p.repeatedKey?.map (fun key => (p.id, key)))

theorem repeatedKey?_eq_none {products : List Product} (h : repeatedKey? products = none) :
    ∀ p ∈ products, p.repeatedKey? = none := fun p hp => by
  have := List.findSome?_eq_none_iff.1 h p hp
  simpa using this

/-- A catalog of records, or a product and its repeated key. -/
def ofRecords (products : List Product) (attributes : List Definition) : Except (String × String) Catalog :=
  match h : repeatedKey? products with
  | some repeated => .error repeated
  | none => .ok ⟨products, attributes, repeatedKey?_eq_none h⟩

def productEngine (c : Catalog) (policy : Policy) : Engine Product := ⟨c.products, policy⟩

def attributeEngine (c : Catalog) (policy : Policy) : Engine Definition := ⟨c.attributes, policy⟩

end Catalog
end ProductQuery
