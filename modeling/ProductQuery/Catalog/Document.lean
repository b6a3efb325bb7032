import ProductQuery.Catalog.Basic
import ProductQuery.Record.Decode
import ProductQuery.Storage.File
/-!
# Catalog.Document — catalogs out of documents

A catalog is kept in two documents, one of products and one of attribute definitions, each an object with one list.  The
products are read first, and repeated keys are looked for once both documents are in order.
-/
namespace ProductQuery

open Json (Decoder)

inductive CatalogError where
  | unreadable (path : String) (fault : ReadFault)
  | invalid (path : String) (e : Json.DecodeError)
  | repeatedKey (product key : String)
  deriving Repr

def CatalogError.message : CatalogError → String
  | .unreadable path fault => s!"Failed to read {path}: {fault.message}"
  | .invalid path e => s!"Invalid JSON in {path}: {e.message}"
  | .repeatedKey product key => s!"Product '{product}' has duplicate attribute key '{key}'"

namespace Catalog

def productsShape : Json.Shape := ⟨"struct ProductsDocument", ["products"]⟩

def decodeProducts : Decoder (List Product) := Json.Decode.record .text productsShape fun r =>
  r.required productsShape "products" (Json.Decode.list Product.decode)

def attributesShape : Json.Shape := ⟨"struct AttributesDocument", ["attributes"]⟩

def decodeAttributes : Decoder (List Definition) := Json.Decode.record .text attributesShape fun r =>
  r.required attributesShape "attributes" (Json.Decode.list Definition.decode)

def readDocument {α : Type} (decode : Decoder α) (path : String) (contents : Contents) : Except CatalogError α :=
  match contents.symbols with
  | .error fault => .error (.unreadable path fault)
  | .ok symbols => (Json.Decode.text decode symbols).mapError (.invalid path)

def build (products : List Product) (attributes : List Definition) : Except CatalogError Catalog :=
  (ofRecords products attributes).mapError (fun r => .repeatedKey r.1 r.2)

/-- Reads a catalog from its two documents, which errors call by their paths. -/
def load (productsPath : String) (products : Contents) (attributesPath : String) (attributes : Contents) :
    Except CatalogError Catalog := do
  let ps ← readDocument decodeProducts productsPath products
  let ds ← readDocument decodeAttributes attributesPath attributes
  build ps ds

def productsDocument (c : Catalog) : Json := .object [("products", .array (c.products.map Product.toJson))]

/-- The document of attribute definitions. -/
def attributesDocument (c : Catalog) : Json := .object [("attributes", .array (c.attributes.map Definition.toJson))]

end Catalog
end ProductQuery
