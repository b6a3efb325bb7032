/-!
# Pattern.Syntax — the written form of a pattern

A pattern is read into a tree that keeps its flags and classes as written, so that how deep it nests can be told before
its meaning is worked out.
-/
namespace ProductQuery
namespace Pattern

/-- What a flag group switches. -/
inductive Flag where
  | caseInsensitive
  | multiLine
  | dotAll
  | swapGreed
  | unicode
  | crlf
  | ignoreBlanks
  deriving DecidableEq, Repr

/-- A letter of a flag group; `none` is the sign behind which flags are switched off. -/
abbrev FlagItem := Option Flag

inductive Assertion where
  | startLine
  | endLine
  | startText
  | endText
  | boundary
  | notBoundary
  | wordStart
  | wordEnd
  | wordStartHalf
  | wordEndHalf
  deriving DecidableEq, Repr

/-- The classes with a one-letter escape. -/
inductive Shorthand where
  | digit
  | space
  | word
  deriving DecidableEq, Repr

/-- A class by property: one name, or a property and its value. -/
inductive Query where
  | named (name : String)
  | valued (property value : String)
  deriving DecidableEq, Repr

inductive SetOp where
  | intersection
  | difference
  | symmetricDifference
  deriving DecidableEq, Repr

/-- A character; `byte` if it is written as `\x` and two digits, which means a byte where Unicode is off. -/
structure Literal where
  char : Char
  byte : Bool
  deriving DecidableEq, Repr

mutual
/-- What stands between the brackets of a class. -/
inductive ClassSet where
  | item (i : ClassItem)
  | op (kind : SetOp) (lhs rhs : ClassSet)

inductive ClassItem where
  | empty
  | literal (l : Literal)
  | range (first last : Literal)
  | ascii (negated : Bool) (name : String)
  | property (negated : Bool) (query : Query)
  | shorthand (negated : Bool) (kind : Shorthand)
  | bracketed (negated : Bool) (set : ClassSet)
  | union (items : List ClassItem)
end

inductive Tree where
  | empty
  | flags (items : List FlagItem)
  | literal (l : Literal)
  | dot
  | assertion (a : Assertion)
  | property (negated : Bool) (query : Query)
  | shorthand (negated : Bool) (kind : Shorthand)
  | bracketed (negated : Bool) (set : ClassSet)
  | repetition (sub : Tree) (least : Nat) (most : Option Nat)
  | group (captures : Bool) (flags : List FlagItem) (sub : Tree)
  | alternation (branches : List Tree)
  | concat (parts : List Tree)

mutual
def ClassSet.depth : ClassSet → Nat
  | .item i => i.depth
  | .op _ l r => max l.depth r.depth + 1

def ClassItem.depth : ClassItem → Nat
  | .bracketed _ s => s.depth + 1
  | .union items => ClassItem.maxDepth items + 1
  | _ => 0

def ClassItem.maxDepth : List ClassItem → Nat
  | [] => 0
  | i :: rest => max i.depth (ClassItem.maxDepth rest)
end

mutual
/-- How deep a pattern nests: groups, repetitions, lists of parts and of branches, and classes count one each. -/
def Tree.depth : Tree → Nat
  | .bracketed _ s => s.depth + 1
  | .repetition t _ _ => t.depth + 1
  | .group _ _ t => t.depth + 1
  | .alternation ts => Tree.maxDepth ts + 1
  | .concat ts => Tree.maxDepth ts + 1
  | _ => 0

def Tree.maxDepth : List Tree → Nat
  | [] => 0
  | t :: rest => max t.depth (Tree.maxDepth rest)
end

/-- The deepest nesting of a pattern that is accepted. -/
def maxNesting : Nat := 250

end Pattern
end ProductQuery
