import ProductQuery.Record.Value
/-!
# Record.Definition — attribute definitions

A definition describes one attribute: how it is entered, where it is shown, and what input it admits.  The admitted
input is returned with the record, but no query can name it.
-/
namespace ProductQuery

/-- How an attribute is entered. -/
inductive InputType where
  | text
  | longText
  | richText
  | number
  | measure
  | price
  | dropdown
  | multiSelect
  deriving DecidableEq, Repr

namespace InputType

def all : List InputType := [.text, .longText, .richText, .number, .measure, .price, .dropdown, .multiSelect]

def name : InputType → String
  | .text => "TEXT"
  | .longText => "LONG_TEXT"
  | .richText => "RICH_TEXT"
  | .number => "NUMBER"
  | .measure => "MEASURE"
  | .price => "PRICE"
  | .dropdown => "DROPDOWN"
  | .multiSelect => "MULTI_SELECT"

end InputType

/-- The section in which an attribute is shown. -/
inductive Group where
  | basicInfo
  | variants
  | specifications
  | pricingAndInventory
  deriving DecidableEq, Repr

namespace Group

def all : List Group := [.basicInfo, .variants, .specifications, .pricingAndInventory]

def name : Group → String
  | .basicInfo => "BASIC_INFO"
  | .variants => "VARIANTS"
  | .specifications => "SPECIFICATIONS"
  | .pricingAndInventory => "PRICING_AND_INVENTORY"

end Group

structure Constraints where
  required : Option Bool
  order : Option Int64
  maxLength : Option UInt64
  minLength : Option UInt64
  regex : Option String
  maximum : Option Binary64
  minimum : Option Binary64
  integer : Option Bool
  unitList : Option (List String)
  selection : Option (List String)
  currency : Option String
  disabled : Option Bool
  deriving DecidableEq, Repr

/-- A definition; its timestamps count milliseconds. -/
structure Definition where
  id : String
  key : String
  name : String
  inputType : InputType
  group : Option Group
  description : Option String
  placeHolder : Option String
  option : Option Constraints
  createdAt : Int64
  updatedAt : Int64
  deriving DecidableEq, Repr

/-- The fields of a definition that a query can name. -/
inductive DefinitionField where
  | id
  | key
  | name
  | inputType
  | group
  | placeHolder
  | description
  | createdAt
  | updatedAt
  deriving DecidableEq, Repr

namespace DefinitionField

def all : List DefinitionField :=
  [.id, .key, .name, .inputType, .group, .placeHolder, .description, .createdAt, .updatedAt]

/-- The name of a field in queries and documents. -/
def wireName : DefinitionField → String
  | .id => "id"
  | .key => "key"
  | .name => "name"
  | .inputType => "type"
  | .group => "group"
  | .placeHolder => "placeHolder"
  | .description => "description"
  | .createdAt => "createdAt"
  | .updatedAt => "updatedAt"

def ofName? (s : String) : Option DefinitionField := all.find? (·.wireName = s)

end DefinitionField

/-- A member that is left out where it has no value. -/
def Json.optionalMember {α : Type} (name : String) (toJson : α → Json) (v : Option α) : List (String × Json) :=
  v.elim [] (fun a => [(name, toJson a)])

namespace Constraints

def toJson (c : Constraints) : Json :=
  let flag := fun (b : Bool) => Json.bool b
  let length := fun (n : UInt64) => Json.number (.ofUInt64 n)
  let float := fun (x : Binary64) => Json.number (.float x)
  let texts := fun (l : List String) => Json.array (l.map Json.string)
  .object (Json.optionalMember "required" flag c.required ++
    Json.optionalMember "order" (fun n => .number (.ofInt64 n)) c.order ++
    Json.optionalMember "maxLength" length c.maxLength ++
    Json.optionalMember "minLength" length c.minLength ++
    Json.optionalMember "regex" Json.string c.regex ++
    Json.optionalMember "maximum" float c.maximum ++
    Json.optionalMember "minimum" float c.minimum ++
    Json.optionalMember "integer" flag c.integer ++
    Json.optionalMember "unitList" texts c.unitList ++
    Json.optionalMember "selection" texts c.selection ++
    Json.optionalMember "currency" Json.string c.currency ++
    Json.optionalMember "disabled" flag c.disabled)

end Constraints

namespace Definition

/-- A definition without any of the optional members. -/
def plain (id key name : String) (inputType : InputType) (createdAt updatedAt : Int64) : Definition :=
  ⟨id, key, name, inputType, none, none, none, none, createdAt, updatedAt⟩

def field (d : Definition) : DefinitionField → FieldValue
  | .id => .string d.id
  | .key => .string d.key
  | .name => .string d.name
  | .inputType => .string d.inputType.name
  | .group => .ofText (d.group.map Group.name)
  | .placeHolder => .ofText d.placeHolder
  | .description => .ofText d.description
  | .createdAt => .ofInt64 d.createdAt
  | .updatedAt => .ofInt64 d.updatedAt

def toJson (d : Definition) : Json :=
  .object ([("id", .string d.id), ("key", .string d.key), ("name", .string d.name),
      ("type", .string d.inputType.name)] ++
    Json.optionalMember "group" (fun (g : Group) => .string g.name) d.group ++
    Json.optionalMember "description" Json.string d.description ++
    Json.optionalMember "placeHolder" Json.string d.placeHolder ++
    Json.optionalMember "option" Constraints.toJson d.option ++
    [("createdAt", .number (.ofInt64 d.createdAt)), ("updatedAt", .number (.ofInt64 d.updatedAt))])

end Definition
end ProductQuery
