import ProductQuery.Json.Basic
import ProductQuery.Pattern.Search
/-!
# Filter.Operator — the operators of the filter language

An operand is any JSON value.  One that does not suit its operator is no error: the operator then never holds.  A
pattern is compiled when its operator is read, and a name that is no operator stands for equality.

Their names are read (`OperatorName.ofName?`), written (`OperatorName.name`) and listed, to tell them from other keys
(`operatorNames`).
-/
namespace ProductQuery

/-- The operators with a meaning of their own. -/
inductive OperatorName where
  | eq
  | ne
  | gt
  | gte
  | lt
  | lte
  | among
  | exists
  | regex
  deriving DecidableEq, Repr

namespace OperatorName

def name : OperatorName → String
  | .eq => "$eq"
  | .ne => "$ne"
  | .gt => "$gt"
  | .gte => "$gte"
  | .lt => "$lt"
  | .lte => "$lte"
  | .among => "$in"
  | .exists => "$exists"
  | .regex => "$regex"

def ofName? : String → Option OperatorName
  | "$eq" => some .eq
  | "$ne" => some .ne
  | "$gt" => some .gt
  | "$gte" => some .gte
  | "$lt" => some .lt
  | "$lte" => some .lte
  | "$in" => some .among
  | "$exists" => some .exists
  | "$regex" => some .regex
  | _ => none

end OperatorName

def operatorNames : List String := ["$eq", "$ne", "$gt", "$gte", "$lt", "$lte", "$in", "$exists", "$regex"]

def isOperatorName (s : String) : Bool := operatorNames.contains s

inductive Operator where
  | eq (operand : Json)
  | ne (operand : Json)
  | gt (operand : Json)
  | gte (operand : Json)
  | lt (operand : Json)
  | lte (operand : Json)
  | among (operand : Json)
  | exists (operand : Json)
  /-- A pattern; `none` if the operand is no text or the text no pattern. -/
  | regex (pattern : Option Pattern)
  | unrecognized (name : String) (operand : Json)
  deriving Repr

namespace Operator

def pattern? : Json → Option Pattern
  | .string s => Pattern.ofText? s
  | _ => none

/-- The operator of a member of a filter. -/
def ofMember (name : String) (operand : Json) : Operator :=
  match OperatorName.ofName? name with
  | some .eq => .eq operand
  | some .ne => .ne operand
  | some .gt => .gt operand
  | some .gte => .gte operand
  | some .lt => .lt operand
  | some .lte => .lte operand
  | some .among => .among operand
  | some .exists => .exists operand
  | some .regex => .regex (pattern? operand)
  | none => .unrecognized name operand

def name : Operator → String
  | .eq _ => OperatorName.eq.name
  | .ne _ => OperatorName.ne.name
  | .gt _ => OperatorName.gt.name
  | .gte _ => OperatorName.gte.name
  | .lt _ => OperatorName.lt.name
  | .lte _ => OperatorName.lte.name
  | .among _ => OperatorName.among.name
  | .exists _ => OperatorName.exists.name
  | .regex _ => OperatorName.regex.name
  | .unrecognized name _ => name

end Operator

/-- Operators that must all hold of one value; none at all hold of every value. -/
structure Condition where
  operators : List Operator
  deriving Repr

namespace Condition

def ofMembers (members : List (String × Json)) : Condition := ⟨members.map (fun m => Operator.ofMember m.1 m.2)⟩

def isEmpty (c : Condition) : Bool := c.operators.isEmpty

/-- Is this exactly the demand that the value be absent? -/
def isNotExists (c : Condition) : Bool :=
  match c.operators with
  | [.exists (.bool false)] => true
  | _ => false

end Condition
end ProductQuery
