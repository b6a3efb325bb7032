import ProductQuery.Json.Numeral
/-!
# Json.Reader — JSON text read into nodes

`Document.read` reads a whole text: blanks, one value, blanks.  Containers nest 127 deep; a deeper one is refused.  The
recursion is bounded by the length of the text, since every step of it passes a character.
-/
namespace ProductQuery
namespace Json

def isBlank : Symbol → Bool
  | some ' ' => true
  | some '\n' => true
  | some '\t' => true
  | some '\r' => true
  | _ => false

def skipBlanks (text : List Symbol) : List Symbol := text.dropWhile isBlank

/-- The character of a one-letter escape. -/
def simpleEscape? : Symbol → Option Char
  | some '"' => some '"'
  | some '\\' => some '\\'
  | some '/' => some '/'
  | some 'b' => some '\x08'
  | some 'f' => some '\x0c'
  | some 'n' => some '\n'
  | some 'r' => some '\r'
  | some 't' => some '\t'
  | _ => none

/-- The number of four hexadecimal digits. -/
def hexQuad? (a b c d : Symbol) : Option Nat :=
  ([a, b, c, d].mapM (fun (s : Symbol) => s.bind hexDigit?)).map ofHexDigits

/-- Fewer than four symbols are too few for four digits; whether the text ends or they are wrong depends on their
bytes. -/
def shortQuad (text : List Symbol) : SyntaxError :=
  if text.foldl (fun n s => n + s.width) 0 < 4 then .eofString else .invalidEscape

def isHighSurrogate (n : Nat) : Bool := 0xD800 ≤ n ∧ n ≤ 0xDBFF

def isLowSurrogate (n : Nat) : Bool := 0xDC00 ≤ n ∧ n ≤ 0xDFFF

def ofSurrogates (high low : Nat) : Char := Char.ofNat ((high - 0xD800) * 0x400 + (low - 0xDC00) + 0x10000)

/-- Reads a string behind its opening quote.  `high` is a leading surrogate whose partner must follow at once; `strays`
tells whether a byte outside every character was met, which counts only when the string is closed. -/
def readString (high : Option Nat) (strays : Bool) (done : List Char) :
    List Symbol → Except SyntaxError (String × List Symbol)
  | [] => .error .eofString
  | [some '\\'] => .error .eofString
  | some '\\' :: some 'u' :: a :: b :: c :: d :: rest =>
    match hexQuad? a b c d, high with
    | none, _ => .error .invalidEscape
    | some n, some h =>
      if isLowSurrogate n then readString none strays (ofSurrogates h n :: done) rest else .error .loneSurrogate
    | some n, none =>
      if isLowSurrogate n then .error .loneSurrogate
      else if isHighSurrogate n then readString (some n) strays done rest
      else readString none strays (Char.ofNat n :: done) rest
  | some '\\' :: some 'u' :: text => .error (shortQuad text)
  | some '\\' :: e :: rest =>
    match high, simpleEscape? e with
    | some _, _ => .error .brokenSurrogatePair
    | none, some c => readString none strays (c :: done) rest
    | none, none => .error .invalidEscape
  | s :: rest =>
    match high, s with
    | some _, _ => .error .brokenSurrogatePair
    | none, some '"' =>
      if strays then .error .invalidCodePoint else .ok (String.ofList done.reverse, rest)
    | none, some c => if c.toNat < 0x20 then .error .controlCharacter else readString none strays (c :: done) rest
    | none, none => readString none true done rest

/-- Skips a string behind its opening quote. -/
def skipString : List Symbol → Except SyntaxError (List Symbol)
  | [] => .error .eofString
  | [some '\\'] => .error .eofString
  | some '\\' :: some 'u' :: a :: b :: c :: d :: rest =>
    if (hexQuad? a b c d).isSome then skipString rest else .error .invalidEscape
  | some '\\' :: some 'u' :: text => .error (shortQuad text)
  | some '\\' :: e :: rest => if (simpleEscape? e).isSome then skipString rest else .error .invalidEscape
  | some '"' :: rest => .ok rest
  | some c :: rest => if c.toNat < 0x20 then .error .controlCharacter else skipString rest
  | none :: rest => skipString rest

/-- The letters of a known word behind its first. -/
def readWord : List Char → List Symbol → Except SyntaxError (List Symbol)
  | [], text => .ok text
  | _ :: _, [] => .error .eofValue
  | c :: cs, s :: rest => if s = some c then readWord cs rest else .error .expectedIdent

def skipNumber (text : List Symbol) : Except SyntaxError (List Symbol) :=
  match Numeral.read false text with
  | .ok (_, rest) => .ok rest
  | .error _ => .error .invalidNumber

/-- The bracket that closes a container, and the errors of its kind. -/
inductive Enclosure where
  | list
  | object
  deriving DecidableEq

namespace Enclosure

def close : Enclosure → Symbol
  | .list => some ']'
  | .object => some '\x7d'

def eof : Enclosure → SyntaxError
  | .list => .eofList
  | .object => .eofObject

def expectedComma : Enclosure → SyntaxError
  | .list => .expectedCommaOrBracket
  | .object => .expectedCommaOrBrace

end Enclosure

mutual
def skipValue : Nat → List Symbol → Except SyntaxError (List Symbol)
  | 0, _ => .error .eofValue
  | fuel + 1, text =>
    match skipBlanks text with
    | [] => .error .eofValue
    | some 'n' :: rest => readWord ['u', 'l', 'l'] rest
    | some 't' :: rest => readWord ['r', 'u', 'e'] rest
    | some 'f' :: rest => readWord ['a', 'l', 's', 'e'] rest
    | some '-' :: rest => skipNumber rest
    | some '"' :: rest => skipString rest
    | some '[' :: rest => skipFirst fuel .list rest
    | some '\x7b' :: rest => skipFirst fuel .object rest
    | s :: rest => if (digit? s).isSome then skipNumber (s :: rest) else .error .expectedValue

/-- Skips what follows an opening bracket. -/
def skipFirst : Nat → Enclosure → List Symbol → Except SyntaxError (List Symbol)
  | 0, _, _ => .error .eofValue
  | fuel + 1, enclosure, text =>
    match skipBlanks text with
    | [] => .error enclosure.eof
    | s :: rest => if s = enclosure.close then .ok rest else skipEntry fuel enclosure (s :: rest)

/-- Skips an item, or a key and its value, and what follows it in its container. -/
def skipEntry : Nat → Enclosure → List Symbol → Except SyntaxError (List Symbol)
  | 0, _, _ => .error .eofValue
  | fuel + 1, .list, text => do skipRest fuel .list (← skipValue fuel text)
  | fuel + 1, .object, text =>
    match skipBlanks text with
    | [] => .error .eofObject
    | some '"' :: rest => do
      match skipBlanks (← skipString rest) with
      | [] => .error .eofObject
      | some ':' :: rest => skipRest fuel .object (← skipValue fuel rest)
      | _ => .error .expectedColon
    | _ => .error .keyMustBeString

/-- Skips what follows an entry of a container. -/
def skipRest : Nat → Enclosure → List Symbol → Except SyntaxError (List Symbol)
  | 0, _, _ => .error .eofValue
  | fuel + 1, enclosure, text =>
    match skipBlanks text with
    | [] => .error enclosure.eof
    | s :: rest =>
      if s = enclosure.close then .ok rest
      else if s = some ',' then skipEntry fuel enclosure rest
      else .error enclosure.expectedComma
end

/-- Reads past a value that cannot be read: what skipping it meets, and what is left if it can be skipped. -/
def skipPast (text : List Symbol) : Option SyntaxError × List Symbol :=
  match skipValue (3 * text.length + 3) text with
  | .ok rest => (none, rest)
  | .error e => (some e, [])

/-- A value that cannot be read, at the front of a text. -/
def refuse (start : Symbol) (e : SyntaxError) (text : List Symbol) : Node × List Symbol :=
  let (skip, rest) := skipPast text
  (.refused start ⟨e, skip⟩, rest)

mutual
/-- Reads one value and returns what follows it.  After a fault the rest is what follows the skipped value, if it can be
skipped.  `depth` is the number of containers that may still be opened. -/
def readValue : Nat → Nat → List Symbol → Node × List Symbol
  | 0, _, _ => (.refused none (.hard .eofValue), [])
  | fuel + 1, depth, text =>
    match skipBlanks text with
    | [] => (.refused none (.hard .eofValue), [])
    | some 'n' :: rest => word 'n' (readWord ['u', 'l', 'l'] rest) .null
    | some 't' :: rest => word 't' (readWord ['r', 'u', 'e'] rest) (.bool true)
    | some 'f' :: rest => word 'f' (readWord ['a', 'l', 's', 'e'] rest) (.bool false)
    | some '-' :: rest => numeral '-' (Numeral.read true rest)
    | some '"' :: rest =>
      match readString none false [] rest with
      | .ok (s, rest) => (.string s, rest)
      | .error e => refuse (some '"') e (some '"' :: rest)
    | some '[' :: rest =>
      match depth with
      | 0 => refuse (some '[') .tooDeep (some '[' :: rest)
      | depth + 1 =>
        match readItems fuel depth true rest with
        | (items, ending, none, rest) => (.array items ending none, rest)
        | (items, ending, some e, _) =>
          let (skip, rest) := skipPast (some '[' :: rest)
          (.array items ending (some ⟨e, skip⟩), rest)
    | some '\x7b' :: rest =>
      match depth with
      | 0 => refuse (some '\x7b') .tooDeep (some '\x7b' :: rest)
      | depth + 1 =>
        match readMembers fuel depth true rest with
        | (members, ending, none, rest) => (.object members ending none, rest)
        | (members, ending, some e, _) =>
          let (skip, rest) := skipPast (some '\x7b' :: rest)
          (.object members ending (some ⟨e, skip⟩), rest)
    | s :: rest =>
      if (digit? s).isSome then numeral '0' (Numeral.read false (s :: rest))
      else (.refused s (.hard .expectedValue), [])
where
  word (start : Char) (rest : Except SyntaxError (List Symbol)) (n : Node) : Node × List Symbol :=
    match rest with
    | .ok rest => (n, rest)
    | .error e => (.refused (some start) (.hard e), [])
  numeral (start : Char) (read : Except Fault (Numeral × List Symbol)) : Node × List Symbol :=
    match read with
    | .error f => (.refused (some start) f, [])
    | .ok (n, rest) =>
      match n.number? with
      | some v => (.number v, rest)
      | none => (.refused (some start) ⟨.outOfRange, none⟩, rest)

/-- Reads the items of an array: the items, what keeps it from being closed, the first fault, and what follows. -/
def readItems : Nat → Nat → Bool → List Symbol →
    List Node × Option SyntaxError × Option SyntaxError × List Symbol
  | 0, _, _, _ => ([], some .eofList, some .eofList, [])
  | fuel + 1, depth, first, text =>
    match skipBlanks text with
    | [] => ([], some .eofList, some .eofList, [])
    | some ']' :: rest => ([], none, none, rest)
    | s :: rest =>
      if first then item fuel depth (s :: rest)
      else if s = some ',' then
        match skipBlanks rest with
        | [] => ([], some .eofValue, some .eofValue, [])
        | some ']' :: _ => ([], some .trailingComma, some .trailingComma, [])
        | text => item fuel depth text
      else ([], some .expectedCommaOrBracket, some .expectedCommaOrBracket, [])

/-- Reads an item and the items after it.  Nothing is read behind an item with a fault. -/
def item : Nat → Nat → List Symbol → List Node × Option SyntaxError × Option SyntaxError × List Symbol
  | 0, _, _ => ([], some .eofList, some .eofList, [])
  | fuel + 1, depth, text =>
    let (n, rest) := readValue fuel depth text
    match n.readError? with
    | some e => ([n], none, some e, rest)
    | none =>
      let (items, ending, fault, rest) := readItems fuel depth false rest
      (n :: items, ending, fault, rest)

/-- Reads the members of an object, as `readItems` does the items of an array. -/
def readMembers : Nat → Nat → Bool → List Symbol →
    List (String × Node) × Option SyntaxError × Option SyntaxError × List Symbol
  | 0, _, _, _ => ([], some .eofObject, some .eofObject, [])
  | fuel + 1, depth, first, text =>
    match skipBlanks text with
    | [] => ([], some .eofObject, some .eofObject, [])
    | some '\x7d' :: rest => ([], none, none, rest)
    | s :: rest =>
      if first then member fuel depth (s :: rest)
      else if s = some ',' then
        match skipBlanks rest with
        | [] => ([], some .eofValue, some .eofValue, [])
        | some '\x7d' :: _ => ([], some .trailingComma, some .trailingComma, [])
        | text => member fuel depth text
      else ([], some .expectedCommaOrBrace, some .expectedCommaOrBrace, [])

/-- Reads a member and the members after it.  Reading goes on behind a value that can be skipped. -/
def member : Nat → Nat → List Symbol →
    List (String × Node) × Option SyntaxError × Option SyntaxError × List Symbol
  | 0, _, _ => ([], some .eofObject, some .eofObject, [])
  | fuel + 1, depth, some '"' :: text =>
    match readString none false [] text with
    | .error e => ([], some e, some e, [])
    | .ok (key, rest) =>
      match skipBlanks rest with
      | [] => ([], some .eofObject, some .eofObject, [])
      | some ':' :: rest =>
        let (n, rest) := readValue fuel depth rest
        if n.skipError?.isSome then ([(key, n)], none, n.readError?, rest)
        else
          let (members, ending, fault, rest) := readMembers fuel depth false rest
          ((key, n) :: members, ending, n.readError?.or fault, rest)
      | _ => ([], some .expectedColon, some .expectedColon, [])
  | _ + 1, _, _ => ([], some .keyMustBeString, some .keyMustBeString, [])
end

/-- The containers that may be open at once. -/
def maxDepth : Nat := 127

/-- A whole text: its value, and whether something follows it. -/
structure Document where
  root : Node
  trailing : Bool

def Document.read (text : List Symbol) : Document :=
  let (root, rest) := readValue (3 * text.length + 3) maxDepth text
  ⟨root, !(skipBlanks rest).isEmpty⟩

def read (text : List Symbol) : Except SyntaxError Json :=
  let d := Document.read text
  match d.root.readError? with
  | some e => .error e
  | none => if d.trailing then .error .trailingCharacters else .ok d.root.value

end Json
end ProductQuery
