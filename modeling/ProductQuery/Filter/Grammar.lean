import ProductQuery.Filter.Operator
import ProductQuery.Record.Definition
import ProductQuery.Record.Product
/-!
# Filter.Grammar — filters out of JSON

A filter is an object.  Members that name a field of the record hold a condition; other members are collected as unknown
fields and not looked into.  A filter of products may hold conditions on attributes, each on the value as a whole or on
the components of a measure.
-/
namespace ProductQuery

inductive FilterFault where
  | expectedOperators
  | expectedObject
  | operatorAmongKeys (name : String)
  | stated (reason : String)
  deriving DecidableEq, Repr

def FilterFault.message : FilterFault → String
  | .expectedOperators => "expected an object of operators"
  | .expectedObject => "expected an object"
  | .operatorAmongKeys name => s!"expected attribute keys, found operator '{name}'"
  | .stated reason => reason

/-- A fault and the path to the part of the filter that has it. -/
structure FilterError where
  path : String
  fault : FilterFault
  deriving DecidableEq, Repr

abbrev FilterRead := Except FilterError

namespace Condition

def read (path : String) : Json → FilterRead Condition
  | .object members => .ok (ofMembers members)
  | _ => .error ⟨path, .expectedOperators⟩

end Condition

def Json.membersAt (path : String) : Json → FilterRead (List (String × Json))
  | .object members => .ok members
  | _ => .error ⟨path, .expectedObject⟩

/-- A condition on an attribute: on its value, or on the components of a measure. -/
inductive AttributeFilter where
  | plain (c : Condition)
  | structured (value unit : Option Condition)
  deriving Repr

namespace AttributeFilter

/-- The condition on a component, if there is one. -/
def readComponent (path name : String) (members : List (String × Json)) : FilterRead (Option Condition) :=
  match Json.member? name members with
  | none => .ok none
  | some v => (Condition.read (path ++ "." ++ name) v).map some

/-- An entry is about components if it names one and names no operator. -/
def isStructured (members : List (String × Json)) : Bool :=
  members.any (fun m => m.1 = "value" || m.1 = "unit") && !members.any (fun m => isOperatorName m.1)

def read (path : String) (entry : Json) : FilterRead AttributeFilter := do
  let members ← entry.membersAt path
  if isStructured members then
    return .structured (← readComponent path "value" members) (← readComponent path "unit" members)
  else return .plain (.ofMembers members)

end AttributeFilter

structure DefinitionFilter where
  fields : List (DefinitionField × Condition)
  unknownFields : List String
  deriving Repr

namespace DefinitionFilter

def readMembers : List (String × Json) → FilterRead DefinitionFilter
  | [] => .ok ⟨[], []⟩
  | (name, entry) :: rest =>
    match DefinitionField.ofName? name with
    | some field => do
      let c ← Condition.read name entry
      let f ← readMembers rest
      return { f with fields := (field, c) :: f.fields }
    | none => do
      let f ← readMembers rest
      return { f with unknownFields := name :: f.unknownFields }

def read (filter : Json) : FilterRead DefinitionFilter := do readMembers (← filter.membersAt "filter")

end DefinitionFilter

structure ProductFilter where
  fields : List (ProductField × Condition)
  attributes : Option (List (String × AttributeFilter))
  unknownFields : List String
  deriving Repr

namespace ProductFilter

/-- Reads the entries for attributes in order. -/
def readEntries : List (String × Json) → FilterRead (List (String × AttributeFilter))
  | [] => .ok []
  | (key, entry) :: rest => do
    let f ← AttributeFilter.read ("attributes." ++ key) entry
    return (key, f) :: (← readEntries rest)

/-- Reads the conditions on attributes: no key may be the name of an operator. -/
def readAttributes (filter : Json) : FilterRead (List (String × AttributeFilter)) := do
  let members ← filter.membersAt "attributes"
  match members.find? (fun m => isOperatorName m.1) with
  | some (name, _) => .error ⟨"attributes", .operatorAmongKeys name⟩
  | none => readEntries members

def readMembers : List (String × Json) → FilterRead ProductFilter
  | [] => .ok ⟨[], none, []⟩
  | (name, entry) :: rest =>
    if name = "attributes" then do
      let entries ← readAttributes entry
      let f ← readMembers rest
      return { f with attributes := some (f.attributes.getD entries) }
    else
      match ProductField.ofName? name with
      | some field => do
        let c ← Condition.read name entry
        let f ← readMembers rest
        return { f with fields := (field, c) :: f.fields }
      | none => do
        let f ← readMembers rest
        return { f with unknownFields := name :: f.unknownFields }

def read (filter : Json) : FilterRead ProductFilter := do readMembers (← filter.membersAt "filter")

end ProductFilter
end ProductQuery
