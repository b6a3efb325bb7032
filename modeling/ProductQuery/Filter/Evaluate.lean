import ProductQuery.Filter.Operator
import ProductQuery.Record.Value
/-!
# Filter.Evaluate — when a condition holds of a value

Equality compares scalars by type and value.  Arrays and measures equal nothing, and neither does a field that is not
there.  Ranges compare numbers.
-/
namespace ProductQuery

/-- Equality of type and value. -/
def FieldValue.strictEq : FieldValue → Json → Bool
  | .null, .null => true
  | .bool a, .bool b => a = b
  | .number a, .number b => a.eq b.toBinary64
  | .string a, .string b => a = b
  | _, _ => false

/-- A comparison of numbers; it fails on anything else. -/
def FieldValue.comparesTo (target : FieldValue) (operand : Json) (holds : Binary64 → Binary64 → Bool) : Bool :=
  match target, operand with
  | .number a, .number b => holds a b.toBinary64
  | _, _ => false

namespace Operator

def holds (target : FieldValue) : Operator → Bool
  | .eq operand => target.strictEq operand
  | .ne operand => !target.strictEq operand
  | .gt operand => target.comparesTo operand (fun a b => b.lt a)
  | .gte operand => target.comparesTo operand (fun a b => b.le a)
  | .lt operand => target.comparesTo operand (fun a b => a.lt b)
  | .lte operand => target.comparesTo operand (fun a b => a.le b)
  | .among (.array candidates) => candidates.any target.strictEq
  | .among _ => false
  | .exists (.bool expected) => (!target.isAbsent) = expected
  | .exists _ => false
  | .regex pattern =>
    match target, pattern with
    | .string s, some p => p.matchesIn s
    | _, _ => false
  | .unrecognized _ operand => target.strictEq operand

end Operator

namespace Condition

def holds (c : Condition) (target : FieldValue) : Bool := c.operators.all (·.holds target)

/-- Does the condition hold of a value or, if that is a measure, of one of its components? -/
def holdsWithin (c : Condition) (target : FieldValue) : Bool :=
  c.holds target ||
    match target with
    | .structured m => m.components.any (fun s => c.holds (.ofScalar s))
    | _ => false

end Condition
end ProductQuery
