import ProductQuery.Json.Writer
/-!
# Record.Value — what an attribute holds

An attribute holds a scalar, an array of scalars, or a measure: an object whose members `value` and `unit` are scalars
and whose other members are kept as they are.  Filters and sorts see a record through its `FieldValue`s, where a field
that does not occur differs from one that is null.
-/
namespace ProductQuery

inductive Scalar where
  | null
  | bool (b : Bool)
  | number (n : Number)
  | string (s : String)
  deriving DecidableEq, Repr

namespace Scalar

def ofInt64 (n : Int64) : Scalar := .number (.ofInt64 n)

/-- A double, or null for what is no number. -/
def ofFloat (x : Option Binary64) : Scalar := x.elim .null (fun x => .number (.float x))

def isNull (s : Scalar) : Bool := s = .null

def display : Scalar → String
  | .null => "null"
  | .bool true => "true"
  | .bool false => "false"
  | .number n => n.text
  | .string s => s

def toJson : Scalar → Json
  | .null => .null
  | .bool b => .bool b
  | .number n => .number n
  | .string s => .string s

end Scalar

/-- An object: a magnitude and its unit, either of which may be missing, and the other members in order. -/
structure Measure where
  value : Option Scalar
  unit : Option Scalar
  extra : List (String × Json)
  deriving Repr

namespace Measure

def memberOf (name : String) (s : Option Scalar) : List (String × Json) := s.elim [] (fun v => [(name, v.toJson)])

def toJson (m : Measure) : Json := .object (memberOf "value" m.value ++ memberOf "unit" m.unit ++ m.extra)

def components (m : Measure) : List Scalar := m.value.toList ++ m.unit.toList

end Measure

inductive AttributeValue where
  | scalar (s : Scalar)
  | array (items : List Scalar)
  | structured (m : Measure)
  deriving Repr

namespace AttributeValue

def toJson : AttributeValue → Json
  | .scalar s => s.toJson
  | .array items => .array (items.map Scalar.toJson)
  | .structured m => m.toJson

def cell : AttributeValue → String
  | .scalar .null => "-"
  | .scalar (.bool b) => if b then "Yes" else "No"
  | .scalar s => s.display
  | .array items => ", ".intercalate (items.map Scalar.display)
  | .structured ⟨some v, some u, []⟩ => v.display ++ " " ++ u.display
  | .structured m => m.toJson.text

end AttributeValue

/-- A field of a record, as filters and sorts see it. -/
inductive FieldValue where
  | undefined
  | null
  | bool (b : Bool)
  | number (x : Binary64)
  | string (s : String)
  | array (items : List Scalar)
  | structured (m : Measure)
  deriving Repr

namespace FieldValue

/-- Null, or not there at all. -/
@[simp]
def isAbsent : FieldValue → Bool
  | .undefined => true
  | .null => true
  | _ => false

def ofScalar : Scalar → FieldValue
  | .null => .null
  | .bool b => .bool b
  | .number n => .number n.toBinary64
  | .string s => .string s

def ofOption (s : Option Scalar) : FieldValue := s.elim .undefined ofScalar

def ofText (s : Option String) : FieldValue := s.elim .undefined .string

/-- A timestamp is seen as the nearest double. -/
def ofInt64 (n : Int64) : FieldValue := .number (Binary64.ofInt n.toInt)

def ofAttribute : AttributeValue → FieldValue
  | .scalar s => ofScalar s
  | .array items => .array items
  | .structured m => .structured m

end FieldValue
end ProductQuery
