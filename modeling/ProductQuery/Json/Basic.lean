import ProductQuery.Binary64.Decimal
/-!
# Json.Basic — JSON values

A number is an integer of the signed or unsigned 64-bit range, or a double; the two never mix.  The members of an
object form a list.  A value read from text has them in increasing order of their keys, each key once; a record that is
written lists them in its own order.
-/
namespace ProductQuery

/-- The integers that a JSON number keeps exact. -/
abbrev WireInt := { n : Int // -0x8000000000000000 ≤ n ∧ n < 0x10000000000000000 }

inductive Number where
  | int (n : WireInt)
  | float (x : Binary64)
  deriving DecidableEq, Repr

namespace Number

def ofInt64 (n : Int64) : Number :=
  .int ⟨n.toInt, by have := n.le_toInt; have := n.toInt_lt; omega⟩

def ofUInt64 (n : UInt64) : Number :=
  .int ⟨n.toNat, by have := n.toNat_lt; omega⟩

/-- A count, as far as 64 bits go. -/
def ofNat (n : Nat) : Number :=
  if h : n < 0x10000000000000000 then .int ⟨n, by omega⟩ else .int ⟨0xFFFFFFFFFFFFFFFF, by omega⟩

/-- The double nearest to a number. -/
def toBinary64 : Number → Binary64
  | .int n => Binary64.ofInt n.val
  | .float x => x

/-- Decimal exponents from `-5` to `15` are written positionally. -/
def layout : Binary64.Layout := ⟨-5, 15⟩

def text : Number → String
  | .int n => toString n.val
  | .float x => x.text layout

end Number

inductive Json where
  | null
  | bool (b : Bool)
  | number (n : Number)
  | string (s : String)
  | array (items : List Json)
  | object (members : List (String × Json))
  deriving Inhabited, Repr

namespace Json

/-- Puts a member at its place among members in order; a member of the same key is replaced. -/
def insertMember (key : String) (value : Json) : List (String × Json) → List (String × Json)
  | [] => [(key, value)]
  | (k, v) :: rest =>
    match compare key k with
    | .lt => (key, value) :: (k, v) :: rest
    | .eq => (key, value) :: rest
    | .gt => (k, v) :: insertMember key value rest

/-- Members in increasing order of their keys; of one key the last member stays. -/
def orderMembers (members : List (String × Json)) : List (String × Json) :=
  members.foldl (fun done m => insertMember m.1 m.2 done) []

mutual
/-- The value with the members of every object in order. -/
def ordered : Json → Json
  | .array items => .array (orderedItems items)
  | .object members => .object (orderMembers (orderedMembers members))
  | v => v

def orderedItems : List Json → List Json
  | [] => []
  | v :: rest => v.ordered :: orderedItems rest

def orderedMembers : List (String × Json) → List (String × Json)
  | [] => []
  | (k, v) :: rest => (k, v.ordered) :: orderedMembers rest
end

/-- The member of a key, the first if there are several. -/
def member? (key : String) (members : List (String × Json)) : Option Json := members.lookup key

end Json
end ProductQuery
