import ProductQuery.Pattern.Reader
import ProductQuery.Text.Unicode.Age
import ProductQuery.Text.Unicode.CaseFold
import ProductQuery.Text.Unicode.Script
/-!
# Pattern.Meaning — what a pattern matches

A pattern means a set of pairs of positions in a text.  Flags, case and the names of classes are gone: what is left are
sets of characters and conditions on a position.  Where Unicode is off, only ASCII can be told apart, and a class that
would match part of a character has no meaning.
-/
namespace ProductQuery

/-- The side of a word on which a position must be. -/
inductive WordEdge where
  | boundary
  | notBoundary
  | start
  | finish
  | startHalf
  | finishHalf
  deriving DecidableEq, Repr

/-- A condition on a position. -/
inductive Look where
  | start
  | finish
  | lineStart
  | lineFinish
  | crlfStart
  | crlfFinish
  | word (edge : WordEdge) (unicode : Bool)
  deriving DecidableEq, Repr

inductive Pattern where
  | empty
  | set (s : CharSet)
  | look (l : Look)
  | capture (p : Pattern)
  | seq (p q : Pattern)
  | alt (p q : Pattern)
  | repetition (p : Pattern) (least : Nat) (most : Option Nat)
  deriving Repr

namespace Pattern

structure Flags where
  caseInsensitive : Bool
  multiLine : Bool
  dotAll : Bool
  unicode : Bool
  crlf : Bool
  deriving Repr

/-- Case does not count unless a pattern says so. -/
def Flags.start : Flags := ⟨true, false, false, true, false⟩

def Flags.apply (f : Flags) (items : List FlagItem) : Flags :=
  { caseInsensitive := (Read.switched .caseInsensitive items).getD f.caseInsensitive
    multiLine := (Read.switched .multiLine items).getD f.multiLine
    dotAll := (Read.switched .dotAll items).getD f.dotAll
    unicode := (Read.switched .unicode items).getD f.unicode
    crlf := (Read.switched .crlf items).getD f.crlf }

/-! ## Classes -/

def asciiRanges : String → List (Char × Char)
  | "alnum" => [('0', '9'), ('A', 'Z'), ('a', 'z')]
  | "alpha" => [('A', 'Z'), ('a', 'z')]
  | "ascii" => [('\x00', '\x7f')]
  | "blank" => [('\t', '\t'), (' ', ' ')]
  | "cntrl" => [('\x00', '\x1f'), ('\x7f', '\x7f')]
  | "digit" => [('0', '9')]
  | "graph" => [('!', '~')]
  | "lower" => [('a', 'z')]
  | "print" => [(' ', '~')]
  | "punct" => [('!', '/'), (':', '@'), ('[', '`'), ('\x7b', '~')]
  | "space" => [('\t', '\r'), (' ', ' ')]
  | "upper" => [('A', 'Z')]
  | "word" => [('0', '9'), ('A', 'Z'), ('_', '_'), ('a', 'z')]
  | "xdigit" => [('0', '9'), ('A', 'F'), ('a', 'f')]
  | _ => []

def asciiSet (name : String) : CharSet := .ofRanges ((asciiRanges name).map (fun r => (r.1.toNat, r.2.toNat)))

def digitSet : CharSet := Category.set ["Nd"]

def spaceSet : CharSet := (Property.find? "whitespace").getD .empty

/-- Letters, marks, decimal digits, connectors and joiners. -/
def wordSet : CharSet :=
  (((Property.find? "alphabetic").getD .empty).union ((Property.find? "joincontrol").getD .empty)).union
    (Category.set ["Mc", "Me", "Mn", "Nd", "Pc"])

def shorthandSet (unicode : Bool) : Shorthand → CharSet
  | .digit => if unicode then digitSet else asciiSet "digit"
  | .space => if unicode then spaceSet else asciiSet "space"
  | .word => if unicode then wordSet else asciiSet "word"

/-- A property name without case, separators and a leading `is`; `isc` is a name of its own. -/
def normalizeName (name : String) : String :=
  let cs := name.toList
  let prefixed : Bool := match cs with
    | a :: b :: _ => a.toLower = 'i' && b.toLower = 's'
    | _ => false
  let kept := ((if prefixed then cs.drop 2 else cs).filter
    (fun c => c.toNat < 0x80 && c ≠ ' ' && c ≠ '_' && c ≠ '-')).map Char.toLower
  if prefixed ∧ kept = ['c'] then "isc" else String.ofList kept

/-- The characters of one name: of a property, else of a category, else of a script. -/
def namedSet? (name : String) : Option CharSet :=
  let n := normalizeName name
  let property := if n = "cf" ∨ n = "sc" ∨ n = "lc" then none else Property.find? n
  property.or ((Category.find? n).or (Script.find? n))

/-- The characters whose property has a value. -/
def valuedSet? (property value : String) : Option CharSet :=
  let v := normalizeName value
  match normalizeName property with
  | "gc" => Category.find? v
  | "generalcategory" => Category.find? v
  | "sc" => Script.find? v
  | "script" => Script.find? v
  | "scx" => Script.findExtended? v
  | "scriptextensions" => Script.findExtended? v
  | "age" => Age.find? v
  | _ => none

def querySet? : Query → Option CharSet
  | .named name => namedSet? name
  | .valued property value => valuedSet? property value

/-- The ASCII members of a set with either case of each letter. -/
def closeAscii (s : CharSet) : CharSet :=
  let upper := s.inter (.range 'A'.toNat 'Z'.toNat)
  let lower := s.inter (.range 'a'.toNat 'z'.toNat)
  (s.union ⟨upper.ranges.map (fun r => (r.1 + 32, r.2 + 32))⟩).union ⟨lower.ranges.map (fun r => (r.1 - 32, r.2 - 32))⟩

/-- Closes a set under case where case does not count. -/
def foldSet (f : Flags) (s : CharSet) : CharSet :=
  if !f.caseInsensitive then s else if f.unicode then CaseFold.close s else closeAscii s

def negate (negated : Bool) (s : CharSet) : CharSet := if negated then s.compl else s

/-- Without Unicode a class holds bytes, and only ASCII bytes are characters. -/
def asciiOnly (f : Flags) (s : CharSet) : Option CharSet := if f.unicode || s.isAscii then some s else none

/-- The character of a literal: none where Unicode is off and the literal is a byte outside ASCII. -/
def literalChar (f : Flags) (l : Literal) : Option Char :=
  if !f.unicode && l.byte && 0x7F < l.char.toNat then none else some l.char

def literalCode (f : Flags) (l : Literal) : Option Nat := do
  let c ← literalChar f l
  if f.unicode || c.toNat ≤ 0x7F then some c.toNat else none

def propertySet (f : Flags) (negated : Bool) (q : Query) : Option CharSet := do
  if !f.unicode then none
  return negate negated (foldSet f (← querySet? q))

mutual
/-- The characters between the brackets of a class. -/
def classSet (f : Flags) : ClassSet → Option CharSet
  | .item i => classItem f i
  | .op kind l r => do
    let l := foldSet f (← classSet f l)
    let r := foldSet f (← classSet f r)
    return match kind with
      | .intersection => l.inter r
      | .difference => l.diff r
      | .symmetricDifference => l.symmDiff r

def classItem (f : Flags) : ClassItem → Option CharSet
  | .empty => some .empty
  | .literal l => do
    let n ← literalCode f l
    return .range n n
  | .range a b => do return .range (← literalCode f a) (← literalCode f b)
  | .ascii negated name => asciiOnly f (negate negated (foldSet f (asciiSet name)))
  | .property negated q => propertySet f negated q
  | .shorthand negated kind => asciiOnly f (negate negated (shorthandSet f.unicode kind))
  | .bracketed negated s => do asciiOnly f (negate negated (foldSet f (← classSet f s)))
  | .union items => classItems f items

def classItems (f : Flags) : List ClassItem → Option CharSet
  | [] => some .empty
  | i :: rest => do return (← classItem f i).union (← classItems f rest)
end

/-! ## Trees -/

def assertionLook (f : Flags) : Assertion → Look
  | .startLine => if !f.multiLine then .start else if f.crlf then .crlfStart else .lineStart
  | .endLine => if !f.multiLine then .finish else if f.crlf then .crlfFinish else .lineFinish
  | .startText => .start
  | .endText => .finish
  | .boundary => .word .boundary f.unicode
  | .notBoundary => .word .notBoundary f.unicode
  | .wordStart => .word .start f.unicode
  | .wordEnd => .word .finish f.unicode
  | .wordStartHalf => .word .startHalf f.unicode
  | .wordEndHalf => .word .finishHalf f.unicode

/-- Every character, or every one but line ends. -/
def dotSet (f : Flags) : CharSet :=
  if f.dotAll then .all
  else if f.crlf then (CharSet.ofRanges [(0x0A, 0x0A), (0x0D, 0x0D)]).compl
  else (CharSet.range 0x0A 0x0A).compl

/-- Can it match a text of one character or more?  A pattern that cannot is repeated once at most. -/
def consumes : Pattern → Bool
  | .empty => false
  | .set _ => true
  | .look _ => false
  | .capture p => p.consumes
  | .seq p q => p.consumes || q.consumes
  | .alt p q => p.consumes || q.consumes
  | .repetition p _ most => p.consumes && most ≠ some 0

/-- A repetition, simplified where that changes no match. -/
def repeated (p : Pattern) (least : Nat) (most : Option Nat) : Pattern :=
  let (least, most) := if p.consumes then (least, most) else (min least 1, some (min (most.getD 1) 1))
  if least = 0 ∧ most = some 0 then .empty
  else if least = 1 ∧ most = some 1 then p
  else .repetition p least most

mutual
/-- The meaning of a tree under flags, and the flags in force behind it. -/
def ofTree (f : Flags) : Tree → Option (Pattern × Flags)
  | .empty => some (.empty, f)
  | .flags items => some (.empty, f.apply items)
  | .literal l => do
    let c ← literalChar f l
    if f.unicode || c.toNat ≤ 0x7F then return (.set (foldSet f (.single c)), f) else return (.set (.single c), f)
  | .dot => if f.unicode then some (.set (dotSet f), f) else none
  | .assertion a => some (.look (assertionLook f a), f)
  | .property negated q => do return (.set (← propertySet f negated q), f)
  | .shorthand negated kind => do return (.set (← asciiOnly f (negate negated (shorthandSet f.unicode kind))), f)
  | .bracketed negated s => do return (.set (← asciiOnly f (negate negated (foldSet f (← classSet f s)))), f)
  | .repetition t least most => do
    let (p, f) ← ofTree f t
    return (repeated p least most, f)
  | .group captures items t => do
    let (p, _) ← ofTree (f.apply items) t
    return (if captures then .capture p else p, f)
  | .alternation ts => ofBranches f ts
  | .concat ts => ofParts f ts

/-- Branches, each under the flags behind the one before. -/
def ofBranches (f : Flags) : List Tree → Option (Pattern × Flags)
  | [] => some (.empty, f)
  | [t] => ofTree f t
  | t :: rest => do
    let (p, f) ← ofTree f t
    let (q, f) ← ofBranches f rest
    return (.alt p q, f)

/-- Parts, each under the flags behind the one before. -/
def ofParts (f : Flags) : List Tree → Option (Pattern × Flags)
  | [] => some (.empty, f)
  | [t] => ofTree f t
  | t :: rest => do
    let (p, f) ← ofTree f t
    let (q, f) ← ofParts f rest
    return (.seq p q, f)
end

end Pattern
end ProductQuery
