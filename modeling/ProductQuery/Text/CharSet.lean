/-!
# Text.CharSet — sets of characters

A set is a list of disjoint ranges of code points in increasing order, no two of them adjacent.
-/
namespace ProductQuery

/-- Ranges of code points, both ends included. -/
structure CharSet where
  ranges : List (Nat × Nat)
  deriving DecidableEq, Repr

namespace CharSet

/-- The last code point. -/
def last : Nat := 0x10FFFF

def empty : CharSet := ⟨[]⟩

def all : CharSet := ⟨[(0, last)]⟩

def range (lo hi : Nat) : CharSet := if lo ≤ hi then ⟨[(lo, hi)]⟩ else empty

def single (c : Char) : CharSet := range c.toNat c.toNat

def mem (s : CharSet) (n : Nat) : Bool := s.ranges.any (fun r => r.1 ≤ n && n ≤ r.2)

def contains (s : CharSet) (c : Char) : Bool := s.mem c.toNat

def isEmpty (s : CharSet) : Bool := s.ranges.isEmpty

/-- No character outside ASCII. -/
def isAscii (s : CharSet) : Bool := s.ranges.all (fun r => r.2 ≤ 0x7F)

/-- Joins ranges that overlap or touch, in a list ordered by their lower ends. -/
def join : List (Nat × Nat) → List (Nat × Nat)
  | [] => []
  | [r] => [r]
  | (a, b) :: (c, d) :: rest =>
    if c ≤ b + 1 then join ((a, max b d) :: rest) else (a, b) :: join ((c, d) :: rest)
termination_by rs => rs.length

def ofRanges (rs : List (Nat × Nat)) : CharSet :=
  ⟨join ((rs.filter (fun r => r.1 ≤ r.2)).mergeSort (fun r s => r.1 ≤ s.1))⟩

def union (s t : CharSet) : CharSet := ofRanges (s.ranges ++ t.ranges)

/-- The gaps of ranges from `next` on. -/
def gaps (next : Nat) : List (Nat × Nat) → List (Nat × Nat)
  | [] => if next ≤ last then [(next, last)] else []
  | (a, b) :: rest => if next < a then (next, a - 1) :: gaps (b + 1) rest else gaps (b + 1) rest

def compl (s : CharSet) : CharSet := ⟨gaps 0 s.ranges⟩

def inter (s t : CharSet) : CharSet := (s.compl.union t.compl).compl

def diff (s t : CharSet) : CharSet := s.inter t.compl

def symmDiff (s t : CharSet) : CharSet := (s.diff t).union (t.diff s)

end CharSet
end ProductQuery
