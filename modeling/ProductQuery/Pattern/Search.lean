import ProductQuery.Pattern.Size
/-!
# Pattern.Search — matching

A set of positions in a text is a natural number, position `i` being bit `i`.  A pattern takes the positions where a
match may begin to those where it may end; whether it matches anywhere is whether it takes the set of all positions to
a set that is not empty.  A repetition is followed until the positions no longer change.
-/
namespace ProductQuery

/-- A set of positions as a number. -/
abbrev Positions := Nat

namespace Positions

/-- The positions of a list of truth values. -/
def ofList : List Bool → Positions
  | [] => 0
  | b :: rest => (if b then 1 else 0) + 2 * ofList rest

/-- The positions of a text of `n` characters: before each, and behind the last. -/
def upTo (n : Nat) : Positions := 1 <<< (n + 1) - 1

/-- Applies a step a number of times, as long as it changes something. -/
def iterate (step : Positions → Positions) : Nat → Positions → Positions
  | 0, s => s
  | n + 1, s =>
    let t := step s
    if t = s then s else iterate step n t

/-- The positions reached by at most a number of steps. -/
def gather (step : Positions → Positions) : Nat → Positions → Positions
  | 0, s => s
  | n + 1, s =>
    let t := s ||| step s
    if t = s then s else gather step n t

end Positions

namespace Pattern

/-- Whether a condition holds between two neighbours, of which the ends of the text have one. -/
def Look.holds (l : Look) (before after : Option Char) : Bool :=
  match l with
  | .start => before.isNone
  | .finish => after.isNone
  | .lineStart => before.isNone || before = some '\n'
  | .lineFinish => after.isNone || after = some '\n'
  | .crlfStart => before.isNone || before = some '\n' || (before = some '\r' && after ≠ some '\n')
  | .crlfFinish => after.isNone || after = some '\r' || (after = some '\n' && before ≠ some '\r')
  | .word edge unicode =>
    let inWord (c : Option Char) : Bool := c.any (shorthandSet unicode .word).contains
    match edge with
    | .boundary => inWord before != inWord after
    | .notBoundary => inWord before == inWord after
    | .start => !inWord before && inWord after
    | .finish => inWord before && !inWord after
    | .startHalf => !inWord before
    | .finishHalf => !inWord after

/-- The positions at which a condition holds, from the neighbour before the text on. -/
def lookPositions (l : Look) : Option Char → List Char → List Bool
  | before, [] => [Look.holds l before none]
  | before, c :: rest => Look.holds l before (some c) :: lookPositions l (some c) rest

/-- The positions where matches that begin in `s` end. -/
def advance (text : List Char) : Pattern → Positions → Positions
  | .empty, s => s
  | .set cs, s => (s &&& Positions.ofList (text.map cs.contains)) <<< 1
  | .look l, s => s &&& Positions.ofList (lookPositions l none text)
  | .capture p, s => p.advance text s
  | .seq p q, s => q.advance text (p.advance text s)
  | .alt p q, s => p.advance text s ||| q.advance text s
  | .repetition p least most, s =>
    let t := Positions.iterate (p.advance text) (min least (text.length + 1)) s
    let more := match most with
      | none => text.length + 1
      | some m => min (m - least) (text.length + 1)
    Positions.gather (p.advance text) more t

/-- Does the pattern match some part of a text? -/
def matchesIn (p : Pattern) (text : String) : Bool :=
  p.advance text.toList (Positions.upTo text.length) ≠ 0

/-- The pattern of a text, matched without regard to case; `none` if there is no such pattern or it is too large. -/
def ofText? (text : String) : Option Pattern := do
  let t ← Tree.read text.toList
  let (p, _) ← ofTree Flags.start t
  if p.size ≤ maxSize then some p else none

end Pattern
end ProductQuery
