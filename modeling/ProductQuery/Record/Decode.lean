import ProductQuery.Json.Decode
import ProductQuery.Record.Definition
import ProductQuery.Record.Product
/-!
# Record.Decode — records out of documents

An attribute value has no tag: its shape tells which kind it is, once the whole of it has been read.  A product without
attributes and an attribute without a value are complete; the other members of records must occur, unless they are
optional.
-/
namespace ProductQuery

open Json

/-- Reads a node that must be free of faults before its shape is looked at. -/
def Json.Decode.whole {α : Type} (decode : Decoder α) : Decoder α := fun n =>
  match n.readError? with
  | some e => .error (.syntaxError e)
  | none => decode n

namespace Scalar

def ofNode? : Node → Option Scalar
  | .null => some .null
  | .bool b => some (.bool b)
  | .number n => some (.number n)
  | .string s => some (.string s)
  | _ => none

def decode : Decoder Scalar := Decode.whole fun n =>
  match ofNode? n with
  | some s => .ok s
  | none => .error (.noVariant "Scalar")

end Scalar

namespace Measure

/-- The members with a meaning of their own. -/
def shape : Shape := ⟨"struct Measure", ["value", "unit"]⟩

/-- The other members: all of them must be readable. -/
def extraPart (ms : List (String × Node)) : Piece (List (String × Json)) :=
  let others := ms.zipIdx.filter (fun m => !shape.fields.contains m.1.1)
  match others.find? (fun m => m.1.2.readError?.isSome) with
  | some ((_, n), i) => .fault i (.syntaxError (n.readError?.getD .expectedValue))
  | none => .ok (orderMembers (others.map (fun m => (m.1.1, m.1.2.value))))

def endPart (ms : List (String × Node)) (ending : Option SyntaxError) : Piece Unit :=
  match ending with
  | none => .ok ()
  | some e => .fault ms.length (.syntaxError e)

/-- A measure is an object; no array stands for it. -/
def decode : Decoder Measure
  | .object ms ending _ =>
    let r := Record.members ms ending
    (Piece.both (fun m _ => m)
      (Measure.mk <$> r.optional shape "value" Scalar.decode <*> r.optional shape "unit" Scalar.decode <*> extraPart ms)
      (endPart ms ending)).toDecoded
  | n => .error (n.mismatch shape.name)

end Measure

namespace AttributeValue

/-- The value of a node without faults, if it has the shape of one. -/
def ofNode? : Node → Option AttributeValue
  | .array items _ _ => (items.mapM Scalar.ofNode?).map .array
  | .object ms ending fault => (Measure.decode (.object ms ending fault)).toOption.map .structured
  | n => (Scalar.ofNode? n).map .scalar

def decode : Decoder AttributeValue := Decode.whole fun n =>
  match ofNode? n with
  | some v => .ok v
  | none => .error (.noVariant "AttributeValue")

end AttributeValue

namespace Attribute

def shape : Shape := ⟨"struct ProductAttribute", ["key", "value"]⟩

def decode : Decoder Attribute := Decode.record .text shape fun r =>
  Attribute.mk <$> r.required shape "key" Decode.string
    <*> r.defaulted shape "value" (.scalar .null) AttributeValue.decode

end Attribute

namespace Product

def shape : Shape := ⟨"struct Product", ["id", "skuId", "createdAt", "updatedAt", "attributes"]⟩

def decode : Decoder Product := Decode.record .text shape fun r =>
  Product.mk <$> r.required shape "id" Decode.string
    <*> r.required shape "skuId" Decode.string
    <*> r.required shape "createdAt" Decode.int64
    <*> r.required shape "updatedAt" Decode.int64
    <*> r.defaulted shape "attributes" [] (Decode.list Attribute.decode)

end Product

namespace InputType

def decode : Decoder InputType := Decode.choice .text (all.map (fun t => (t.name, t)))

end InputType

namespace Group

def decode : Decoder Group := Decode.choice .text (all.map (fun g => (g.name, g)))

end Group

namespace Constraints

def shape : Shape := ⟨"struct AttributeOption", ["required", "order", "maxLength", "minLength", "regex", "maximum",
  "minimum", "integer", "unitList", "selection", "currency", "disabled"]⟩

def decode : Decoder Constraints := Decode.record .text shape fun r =>
  Constraints.mk <$> r.optional shape "required" Decode.bool
    <*> r.optional shape "order" Decode.int64
    <*> r.optional shape "maxLength" Decode.uint64
    <*> r.optional shape "minLength" Decode.uint64
    <*> r.optional shape "regex" Decode.string
    <*> r.optional shape "maximum" Decode.float
    <*> r.optional shape "minimum" Decode.float
    <*> r.optional shape "integer" Decode.bool
    <*> r.optional shape "unitList" (Decode.list Decode.string)
    <*> r.optional shape "selection" (Decode.list Decode.string)
    <*> r.optional shape "currency" Decode.string
    <*> r.optional shape "disabled" Decode.bool

end Constraints

namespace Definition

def shape : Shape := ⟨"struct AttributeDefinition", ["id", "key", "name", "type", "group", "description", "placeHolder",
  "option", "createdAt", "updatedAt"]⟩

def decode : Decoder Definition := Decode.record .text shape fun r =>
  Definition.mk <$> r.required shape "id" Decode.string
    <*> r.required shape "key" Decode.string
    <*> r.required shape "name" Decode.string
    <*> r.required shape "type" InputType.decode
    <*> r.optional shape "group" Group.decode
    <*> r.optional shape "description" Decode.string
    <*> r.optional shape "placeHolder" Decode.string
    <*> r.optional shape "option" Constraints.decode
    <*> r.required shape "createdAt" Decode.int64
    <*> r.required shape "updatedAt" Decode.int64

end Definition
end ProductQuery
