import ProductQuery.Text.CharSet
import ProductQuery.Text.Symbol
/-!
# Text.Partition — tables of code points

Tables are kept as text: runs of code points from zero upwards, each a length in base 36 and the name of what its code
points have in common.  A name begins with a capital letter, which no length contains.
-/
namespace ProductQuery

/-- Runs of code points with a common value: first, last, value. -/
structure Partition where
  runs : List (Nat × Nat × String)

namespace Partition

/-- The parts of a text between separators. -/
def split (isSeparator : Char → Bool) : List Char → List (List Char)
  | [] => [[]]
  | c :: rest =>
    match split isSeparator rest with
    | [] => [[]]
    | w :: ws => if isSeparator c then [] :: w :: ws else (c :: w) :: ws

/-- The words of a text, between blanks and line ends. -/
def words (text : List Char) : List (List Char) := (split (fun c => c = ' ' || c = '\n') text).filter (· ≠ [])

/-- The value of a base-36 digit. -/
def digit (c : Char) : Nat :=
  if '0' ≤ c ∧ c ≤ '9' then c.toNat - '0'.toNat else c.toNat - 'a'.toNat + 10

/-- The number that base-36 digits spell. -/
def number (digits : List Char) : Nat := digits.foldl (fun n c => n * 36 + digit c) 0

/-- Runs of given lengths, one behind the other. -/
def layOut : Nat → List (Nat × String) → List (Nat × Nat × String)
  | _, [] => []
  | start, (n, v) :: rest => (start, start + n - 1, v) :: layOut (start + n) rest

def decode (text : String) : Partition :=
  ⟨layOut 0 ((words text.toList).map (fun w =>
    let (length, value) := w.span (fun c => !c.isUpper)
    (number length, String.ofList value)))⟩

/-- The characters whose value passes a test. -/
def select (p : Partition) (test : String → Bool) : CharSet :=
  .ofRanges ((p.runs.filter (fun r => test r.2.2)).map (fun r => (r.1, r.2.1)))

/-- Reads a list of names: words of a name, a colon, and its spellings between commas. -/
def decodeNames (text : String) : List (String × List String) :=
  (words text.toList).map (fun w =>
    let (name, spellings) := w.span (· ≠ ':')
    (String.ofList name, (split (· = ',') (spellings.drop 1)).map String.ofList))

end Partition

/-- Ranges of runs in turn outside and inside a set. -/
def CharSet.alternate : Nat → List Nat → List (Nat × Nat)
  | start, out :: within :: rest =>
    (start + out, start + out + within - 1) :: alternate (start + out + within) rest
  | _, _ => []

/-- Reads a set: lengths of runs in base 36, in turn outside and inside it. -/
def CharSet.decode (text : String) : CharSet :=
  .ofRanges (CharSet.alternate 0 ((Partition.words text.toList).map Partition.number))

end ProductQuery
