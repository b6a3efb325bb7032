import ProductQuery.Filter.Evaluate
import ProductQuery.Filter.Grammar
/-!
# Filter.Matching — records that satisfy a filter

All parts of a filter must hold.  A product without an attribute satisfies only the exact demand that the attribute be
absent.
-/
namespace ProductQuery

namespace AttributeFilter

/-- Does a filter of components hold of a measure? -/
def holdsOf (value unit : Option Condition) (m : Measure) : Bool :=
  value.all (·.holds (.ofOption m.value)) && unit.all (·.holds (.ofOption m.unit))

/-- Does the filter hold of an attribute value? -/
def holds (f : AttributeFilter) (v : AttributeValue) : Bool :=
  match f, v with
  | .plain c, v => c.holdsWithin (.ofAttribute v)
  | .structured value unit, .structured m => holdsOf value unit m
  | .structured _ _, _ => false

/-- Does the filter hold where there is no attribute? -/
def holdsOfMissing : AttributeFilter → Bool
  | .plain c => c.isNotExists
  | .structured _ _ => false

end AttributeFilter

namespace Product

/-- Does a product satisfy the filter of one attribute? -/
def attributeSatisfies (p : Product) (key : String) (f : AttributeFilter) : Bool :=
  match p.attribute? key with
  | some a => f.holds a.value
  | none => f.holdsOfMissing

def satisfies (p : Product) (f : ProductFilter) : Bool :=
  f.fields.all (fun e => e.2.holds (p.field e.1)) &&
    f.attributes.all (·.all (fun e => p.attributeSatisfies e.1 e.2))

end Product

namespace Definition

def satisfies (d : Definition) (f : DefinitionFilter) : Bool := f.fields.all (fun e => e.2.holds (d.field e.1))

end Definition
end ProductQuery
