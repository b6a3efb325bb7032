import ProductQuery.Json.Basic
import ProductQuery.Text.Symbol
/-!
# Json.Node — JSON text as a tree of what can be read

A `Node` is JSON text read as far as it goes.  Members keep their order and their repetitions, and a place where reading
stops is a node of its own, so a decoder that walks the tree in order meets the faults of the text and the faults of its
shape in the order in which they stand.

Reading a value and skipping it differ: a skipped number may be out of range, a skipped string may hold half a surrogate
pair, skipped containers nest without limit, and some errors have another name.  A `Fault` records both outcomes.
-/
namespace ProductQuery
namespace Json

inductive SyntaxError where
  | eofValue
  | eofList
  | eofObject
  | eofString
  | expectedValue
  | expectedIdent
  | expectedColon
  | expectedCommaOrBracket
  | expectedCommaOrBrace
  | keyMustBeString
  | trailingComma
  | trailingCharacters
  | invalidNumber
  | outOfRange
  | invalidEscape
  | brokenSurrogatePair
  | loneSurrogate
  | invalidCodePoint
  | controlCharacter
  | tooDeep
  deriving DecidableEq, Repr, Inhabited

def SyntaxError.message : SyntaxError → String
  | .eofValue => "EOF while parsing a value"
  | .eofList => "EOF while parsing a list"
  | .eofObject => "EOF while parsing an object"
  | .eofString => "EOF while parsing a string"
  | .expectedValue => "expected value"
  | .expectedIdent => "expected ident"
  | .expectedColon => "expected `:`"
  | .expectedCommaOrBracket => "expected `,` or `]`"
  | .expectedCommaOrBrace => "expected `,` or `\x7d`"
  | .keyMustBeString => "key must be a string"
  | .trailingComma => "trailing comma"
  | .trailingCharacters => "trailing characters"
  | .invalidNumber => "invalid number"
  | .outOfRange => "number out of range"
  | .invalidEscape => "invalid escape"
  | .brokenSurrogatePair => "unexpected end of hex escape"
  | .loneSurrogate => "lone leading surrogate in hex escape"
  | .invalidCodePoint => "invalid unicode code point"
  | .controlCharacter => "control character (\\u0000-\\u001F) found while parsing a string"
  | .tooDeep => "recursion limit exceeded"

/-- Where reading a value stops, and where skipping it does, if it stops. -/
structure Fault where
  read : SyntaxError
  skip : Option SyntaxError
  deriving DecidableEq, Repr

/-- A fault that skipping meets as well. -/
def Fault.hard (e : SyntaxError) : Fault := ⟨e, some e⟩

/-- A value as far as its text can be read.  `ending` is what keeps a container from being closed, `fault` the first
fault in the whole of it. -/
inductive Node where
  | null
  | bool (b : Bool)
  | number (n : Number)
  | string (s : String)
  | array (items : List Node) (ending : Option SyntaxError) (fault : Option Fault)
  | object (members : List (String × Node)) (ending : Option SyntaxError) (fault : Option Fault)
  /-- No value; `start` is the character it would begin with. -/
  | refused (start : Symbol) (fault : Fault)
  deriving Inhabited

namespace Node

/-- The first fault inside a node. -/
def fault? : Node → Option Fault
  | .array _ _ f => f
  | .object _ _ f => f
  | .refused _ f => some f
  | _ => none

/-- What reading the whole node stops at. -/
def readError? (n : Node) : Option SyntaxError := n.fault?.map Fault.read

/-- What skipping the node stops at. -/
def skipError? (n : Node) : Option SyntaxError := n.fault?.bind Fault.skip

mutual
/-- The free value of a node: members in order, the last of one key. -/
def value : Node → Json
  | .null => .null
  | .bool b => .bool b
  | .number n => .number n
  | .string s => .string s
  | .array items _ _ => .array (itemValues items)
  | .object members _ _ => .object (orderMembers (memberValues members))
  | .refused _ _ => .null

def itemValues : List Node → List Json
  | [] => []
  | n :: rest => n.value :: itemValues rest

def memberValues : List (String × Node) → List (String × Json)
  | [] => []
  | (k, n) :: rest => (k, n.value) :: memberValues rest
end

mutual
def ofJson : Json → Node
  | .null => .null
  | .bool b => .bool b
  | .number n => .number n
  | .string s => .string s
  | .array items => .array (ofItems items) none none
  | .object members => .object (ofMembers members) none none

def ofItems : List Json → List Node
  | [] => []
  | v :: rest => ofJson v :: ofItems rest

def ofMembers : List (String × Json) → List (String × Node)
  | [] => []
  | (k, v) :: rest => (k, ofJson v) :: ofMembers rest
end

end Node
end Json
end ProductQuery
