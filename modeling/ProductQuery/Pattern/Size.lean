import ProductQuery.Pattern.Meaning
/-!
# Pattern.Size — how large the automaton of a pattern would be

A pattern is refused if the states of its byte automaton would not fit into ten mebibytes.  A state takes 32 bytes, a
transition of a state with several takes 8, and a branch takes 4.  A character outside ASCII is spelt by a chain of byte
states, and a class by all the chains of its ranges, chains with the same beginning shared.
-/
namespace ProductQuery
namespace Pattern

def stateSize : Nat := 32

def transitionSize : Nat := 8

def branchSize : Nat := 4

def maxSize : Nat := 10 * 1024 * 1024

/-! ## Byte chains -/

def encode (n : Nat) : List Nat :=
  if n ≤ 0x7F then [n]
  else if n ≤ 0x7FF then [0xC0 + n / 64, 0x80 + n % 64]
  else if n ≤ 0xFFFF then [0xE0 + n / 4096, 0x80 + n / 64 % 64, 0x80 + n % 64]
  else [0xF0 + n / 262144, 0x80 + n / 4096 % 64, 0x80 + n / 64 % 64, 0x80 + n % 64]

/-- Splits a range of code points so that in each part the first and the last give, byte by byte, the ranges of all. -/
def chains : Nat → Nat → Nat → List (List (Nat × Nat))
  | 0, _, _ => []
  | fuel + 1, lo, hi =>
    if hi < lo then []
    else if lo < 0xE000 ∧ 0xD7FF < hi then chains fuel lo 0xD7FF ++ chains fuel 0xE000 hi
    else
      match [0x7F, 0x7FF, 0xFFFF].find? (fun m => lo ≤ m && m < hi) with
      | some m => chains fuel lo m ++ chains fuel (m + 1) hi
      | none =>
        if hi ≤ 0x7F then [[(lo, hi)]]
        else
          match [6, 12, 18].find? (fun k =>
            let m := 1 <<< k
            lo / m ≠ hi / m && (lo % m ≠ 0 || hi % m ≠ m - 1)) with
          | some k =>
            let m := 1 <<< k
            if lo % m ≠ 0 then chains fuel lo (lo / m * m + m - 1) ++ chains fuel (lo / m * m + m) hi
            else chains fuel lo (hi / m * m - 1) ++ chains fuel (hi / m * m) hi
          | none => [(encode lo).zip (encode hi)]

/-- The length of the common beginning of two chains. -/
def shared : List (Nat × Nat) → List (Nat × Nat) → Nat
  | a :: as, b :: bs => if a = b then shared as bs + 1 else 0
  | _, _ => 0

/-- The states of chains in order, each sharing its beginning with the one before. -/
def chainStates : List (Nat × Nat) → List (List (Nat × Nat)) → Nat
  | _, [] => 0
  | before, c :: rest => c.length - shared before c + chainStates c rest

def setSize (s : CharSet) : Nat :=
  match s.ranges with
  | [] => stateSize
  | [(a, b)] =>
    if a = b then stateSize * (encode a).length else general s
  | _ => general s
where
  general (s : CharSet) : Nat :=
    if s.isAscii then 2 * stateSize + transitionSize * s.ranges.length
    else
      let cs := s.ranges.flatMap (fun r => chains 64 r.1 r.2)
      2 * stateSize + branchSize * cs.length + stateSize * chainStates [] cs

/-! ## Patterns -/

def forkSize : Nat := stateSize + 2 * branchSize

/-- The size of a pattern, a repetition being written out. -/
def size : Pattern → Nat
  | .empty => stateSize
  | .set s => setSize s
  | .look _ => stateSize
  | .capture p => p.size + 2 * stateSize
  | .seq p q => p.size + q.size
  | .alt p q => p.size + q.size + forkSize
  | .repetition p least none => max least 1 * p.size + forkSize
  | .repetition p least (some most) => least * p.size + (most - least) * (p.size + forkSize) + stateSize

end Pattern
end ProductQuery
