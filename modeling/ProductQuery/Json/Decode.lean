import ProductQuery.Json.Reader
import ProductQuery.Text.Quoted
/-!
# Json.Decode — records out of JSON

A record is an object with known members, or the array of their values.  Members may stand in any order and unknown
ones are skipped.  Of several faults the one that stands first in the text is reported; what is missing is noticed at
the end.  So the parts of a record are read each for itself, as a `Piece`, and parts put together keep the earlier
fault.
-/
namespace ProductQuery
namespace Json

/-- Where a tree comes from.  A value that was read before words a few errors in another way than text does. -/
inductive Source where
  | text
  | value
  deriving DecidableEq

/-- What stands where something else was expected. -/
inductive Found where
  | null
  | bool (b : Bool)
  | number (n : Number)
  | string (s : String)
  | sequence
  | map
  deriving Repr

def Found.describe : Found → String
  | .null => "null"
  | .bool b => s!"boolean `{b}`"
  | .number (.int n) => s!"integer `{n.val}`"
  | .number (.float x) => s!"floating point `{x.text Number.layout}`"
  | .string s => "string " ++ Quoted.text s
  | .sequence => "sequence"
  | .map => "map"

/-- Why a tree is not the record it should be. -/
inductive DecodeError where
  | syntaxError (e : SyntaxError)
  | invalidType (found : Found) (expected : String)
  | invalidValue (found : Found) (expected : String)
  | invalidLength (length : Nat) (expected : String)
  | missingField (name : String)
  | duplicateField (name : String)
  | unknownVariant (name : String) (known : List String)
  | noVariant (type : String)
  deriving Repr

def oneOf : List String → String
  | [] => ""
  | [a] => s!"`{a}`"
  | [a, b] => s!"`{a}` or `{b}`"
  | names => "one of " ++ ", ".intercalate (names.map (fun n => s!"`{n}`"))

def DecodeError.message : DecodeError → String
  | .syntaxError e => e.message
  | .invalidType found expected => s!"invalid type: {found.describe}, expected {expected}"
  | .invalidValue found expected => s!"invalid value: {found.describe}, expected {expected}"
  | .invalidLength n expected => s!"invalid length {n}, expected {expected}"
  | .missingField name => s!"missing field `{name}`"
  | .duplicateField name => s!"duplicate field `{name}`"
  | .unknownVariant name known => s!"unknown variant `{name}`, expected {oneOf known}"
  | .noVariant type => s!"data did not match any variant of untagged enum {type}"

abbrev Decoded := Except DecodeError

abbrev Decoder (α : Type) := Node → Decoded α

/-- The error where something else was expected: a fault of the text comes first. -/
def Node.mismatch (n : Node) (expected : String) : DecodeError :=
  match n with
  | .refused _ f => .syntaxError f.read
  | .null => .invalidType .null expected
  | .bool b => .invalidType (.bool b) expected
  | .number v => .invalidType (.number v) expected
  | .string s => .invalidType (.string s) expected
  | .array _ _ _ => .invalidType .sequence expected
  | .object _ _ _ => .invalidType .map expected

namespace Decode

def string : Decoder String
  | .string s => .ok s
  | n => .error (n.mismatch "a string")

def bool : Decoder Bool
  | .bool b => .ok b
  | n => .error (n.mismatch "a boolean")

/-- An integer of a range, which has a name. -/
def integer (least most : Int) (name : String) : Decoder Int
  | .number (.int n) =>
    if least ≤ n.val ∧ n.val ≤ most then .ok n.val else .error (.invalidValue (.number (.int n)) name)
  | n => .error (n.mismatch name)

def int64 : Decoder Int64 := fun n => (integer (-0x8000000000000000) 0x7FFFFFFFFFFFFFFF "i64" n).map Int64.ofInt

def uint64 : Decoder UInt64 := fun n => (integer 0 0xFFFFFFFFFFFFFFFF "u64" n).map (fun i => UInt64.ofNat i.toNat)

def uint16 : Decoder UInt16 := fun n => (integer 0 0xFFFF "u16" n).map (fun i => UInt16.ofNat i.toNat)

def float : Decoder Binary64
  | .number n => .ok n.toBinary64
  | n => .error (n.mismatch "f64")

/-- Nothing for `null`, else a value. -/
def optional {α : Type} (decode : Decoder α) : Decoder (Option α)
  | .null => .ok none
  | .refused (some 'n') f => .error (.syntaxError f.read)
  | n => (decode n).map some

def list {α : Type} (decode : Decoder α) : Decoder (List α)
  | .array items ending _ => do
    let values ← items.mapM decode
    match ending with
    | none => .ok values
    | some e => .error (.syntaxError e)
  | n => .error (n.mismatch "a sequence")

/-- The value of `null` alone. -/
def unit : Decoder Unit
  | .null => .ok ()
  | n => .error (n.mismatch "unit")

/-- Looks a name up among the names of a choice. -/
def variant {α : Type} (choices : List (String × α)) (name : String) : Decoded α :=
  match choices.lookup name with
  | some a => .ok a
  | none => .error (.unknownVariant name (choices.map Prod.fst))

/-- One of several names: as a string, or as the one member, with the value `null`, of an object. -/
def choice {α : Type} (source : Source) (choices : List (String × α)) : Decoder α
  | .string s => variant choices s
  | .object members ending _ =>
    match source, members with
    | .text, [] =>
      match ending with
      | none => .error (.syntaxError .expectedValue)
      | some .eofObject => .error (.syntaxError .eofValue)
      | some e => .error (.syntaxError (if e = .keyMustBeString then .expectedValue else e))
    | .text, (name, n) :: rest => do
      let a ← variant choices name
      unit n
      match rest, ending with
      | [], none => .ok a
      | [], some .eofObject => .error (.syntaxError .eofObject)
      | _, _ => .error (.syntaxError .expectedValue)
    | .value, [(name, n)] => do
      let a ← variant choices name
      unit n
      .ok a
    | .value, _ => .error (.invalidValue .map "map with a single key")
  | .refused start f =>
    .error (.syntaxError (if start = none ∨ start = some '"' ∨ start = some '\x7b' then f.read else .expectedValue))
  | n =>
    match source with
    | .text => .error (.syntaxError .expectedValue)
    | .value => .error (n.mismatch "string or map")

end Decode

/-! ## Records -/

/-- A part of a record: its value, or a fault and its place among the members. -/
inductive Piece (α : Type) where
  | ok (a : α)
  | fault (place : Nat) (e : DecodeError)

namespace Piece

def ofDecoded {α : Type} (place : Nat) : Decoded α → Piece α
  | .ok a => .ok a
  | .error e => .fault place e

def toDecoded {α : Type} : Piece α → Decoded α
  | .ok a => .ok a
  | .fault _ e => .error e

def map {α β : Type} (f : α → β) : Piece α → Piece β
  | .ok a => .ok (f a)
  | .fault p e => .fault p e

/-- Two parts; of two faults the earlier stays, and the first of two in the same place. -/
def both {α β γ : Type} (f : α → β → γ) : Piece α → Piece β → Piece γ
  | .ok a, .ok b => .ok (f a b)
  | .ok _, .fault p e => .fault p e
  | .fault p e, .ok _ => .fault p e
  | .fault p e, .fault q e' => if q < p then .fault q e' else .fault p e

end Piece

instance : Applicative Piece where
  pure := .ok
  map := Piece.map
  seq f x := Piece.both (fun g a => g a) f (x ())

/-- The name of a kind of record and the names of its members, as an array would list their values. -/
structure Shape where
  name : String
  fields : List String

/-- What an error calls the array of a record. -/
def Shape.asArray (s : Shape) : String :=
  let n := s.fields.length
  s!"{s.name} with {n} element" ++ (if n = 1 then "" else "s")

/-- A record under reading. -/
inductive Record where
  | members (ms : List (String × Node)) (ending : Option SyntaxError)
  | items (ns : List Node) (ending : Option SyntaxError)

namespace Record

def places (name : String) (ms : List (String × Node)) : List (Nat × Node) :=
  (ms.zipIdx.filter (fun m => m.1.1 = name)).map (fun m => (m.2, m.1.2))

/-- A member of a record.  `missing` is its value where it does not occur, if it has one; a second occurrence is a
fault. -/
def field {α : Type} (r : Record) (shape : Shape) (name : String) (missing : Option α) (decode : Decoder α) : Piece α :=
  match r with
  | .members ms _ =>
    match places name ms with
    | [] =>
      match missing with
      | some a => .ok a
      | none => .fault (ms.length + 1) (.missingField name)
    | (i, n) :: rest =>
      match decode n, rest with
      | .error e, _ => .fault i (e)
      | .ok a, [] => .ok a
      | .ok _, (j, _) :: _ => .fault j (.duplicateField name)
  | .items ns _ =>
    let i := shape.fields.idxOf name
    match ns[i]?, missing with
    | some n, _ => .ofDecoded i (decode n)
    | none, some a => .ok a
    | none, none => .fault (ns.length + 1) (.invalidLength i shape.asArray)

/-- A member that must occur. -/
def required {α : Type} (r : Record) (shape : Shape) (name : String) (decode : Decoder α) : Piece α :=
  r.field shape name none decode

/-- A member with a value where it does not occur. -/
def defaulted {α : Type} (r : Record) (shape : Shape) (name : String) (value : α) (decode : Decoder α) : Piece α :=
  r.field shape name (some value) decode

/-- A member that may be missing or `null`. -/
def optional {α : Type} (r : Record) (shape : Shape) (name : String) (decode : Decoder α) : Piece (Option α) :=
  r.field shape name (some none) (Decode.optional decode)

/-- The first fault met in skipping the members that are not known. -/
def skipFault (known : List String) (ms : List (String × Node)) : Piece Unit :=
  match ms.zipIdx.find? (fun m => !known.contains m.1.1 && m.1.2.skipError?.isSome) with
  | some ((_, n), i) => .fault i (.syntaxError (n.skipError?.getD .expectedValue))
  | none => .ok ()

/-- What closing a record behind its last known item meets. -/
def closingError : SyntaxError → SyntaxError
  | .trailingComma => .trailingComma
  | .eofList => .eofList
  | _ => .trailingCharacters

/-- The end of a record: unknown members can be skipped, nothing is too much, and the text closes it. -/
def closed (r : Record) (source : Source) (shape : Shape) : Piece Unit :=
  match r with
  | .members ms ending =>
    let skipped := skipFault shape.fields ms
    match ending with
    | none => skipped
    | some e => Piece.both (fun _ a => a) skipped (.fault ms.length (.syntaxError e))
  | .items ns ending =>
    let n := shape.fields.length
    if n < ns.length then
      .fault n (match source with
        | .text => .syntaxError .trailingCharacters
        | .value => .invalidLength ns.length "fewer elements in array")
    else
      match ending with
      | none => .ok ()
      | some e => if ns.length < n then .fault ns.length (.syntaxError e) else .fault n (.syntaxError (closingError e))

end Record

namespace Decode

def record {α : Type} (source : Source) (shape : Shape) (parts : Record → Piece α) : Decoder α
  | .object ms ending _ =>
    let r := Record.members ms ending
    (Piece.both (fun a _ => a) (parts r) (r.closed source shape)).toDecoded
  | .array ns ending _ =>
    let r := Record.items ns ending
    (Piece.both (fun a _ => a) (parts r) (r.closed source shape)).toDecoded
  | n => .error (n.mismatch shape.name)

def text {α : Type} (decode : Decoder α) (symbols : List Symbol) : Decoded α := do
  let d := Document.read symbols
  let a ← decode d.root
  if d.trailing then .error (.syntaxError .trailingCharacters) else .ok a

end Decode
end Json
end ProductQuery
