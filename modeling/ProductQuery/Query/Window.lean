import ProductQuery.Query.Request
/-!
# Query.Window — the part of a result that is returned

A window has a 64-bit start and a 64-bit length.  Its end saturates, so a window at the top of the range is cut short
instead of wrapping around.  Start and end are brought into a list before it is cut, so there is always something to cut
(`isSome_slice?`).
-/
namespace ProductQuery

/-- What happens to names that no field has and to negative bounds: strictly they are refused; leniently an unknown
filter field excludes every record, an unknown sort field keeps the order, and a negative bound is zero. -/
inductive Policy where
  | strict
  | lenient
  deriving DecidableEq, Repr

namespace Policy

def all : List Policy := [.strict, .lenient]

def name : Policy → String
  | .strict => "strict"
  | .lenient => "lenient"

def decode : Json.Decoder Policy := Json.Decode.choice .text (all.map (fun p => (p.name, p)))

end Policy

structure Window where
  offset : UInt64
  limit : UInt64
  deriving DecidableEq, Repr

namespace Window

/-- A bound: zero if it is negative, and the last of the range if it is beyond that. -/
def clamp (n : Int64) : UInt64 := UInt64.ofNatClamp n.toInt.toNat

/-- The window of a page: strictly none if a bound is negative. -/
def ofPagination? (policy : Policy) (p : Pagination) : Option Window :=
  if (p.offset < 0 ∨ p.limit < 0) ∧ policy = .strict then none else some ⟨clamp p.offset, clamp p.limit⟩

/-- The position behind the window, or the last of the range. -/
def stop (w : Window) : UInt64 :=
  if w.offset.toNat + w.limit.toNat < 0x10000000000000000 then w.offset + w.limit else UInt64.ofNat 0xFFFFFFFFFFFFFFFF

/-- Is there anything behind the window? -/
def hasMore (w : Window) (total : Nat) : Bool := w.stop.toNat < total

/-- Where the window starts in a list of `n` items. -/
def start (w : Window) (n : Nat) : Nat := min w.offset.toNat n

/-- Where it ends there. -/
def finish (w : Window) (n : Nat) : Nat := min w.stop.toNat n

/-- The items from one position up to another; nothing is cut if the positions are out of order or beyond the list. -/
def stretch? {α : Type} (items : List α) (start finish : Nat) : Option (List α) :=
  if start ≤ finish ∧ finish ≤ items.length then some ((items.take finish).drop start) else none

def slice? {α : Type} (w : Window) (items : List α) : Option (List α) :=
  stretch? items (w.start items.length) (w.finish items.length)

theorem toNat_stop (w : Window) : w.stop.toNat = min (w.offset.toNat + w.limit.toNat) 0xFFFFFFFFFFFFFFFF := by
  unfold stop
  split
  · rename_i h
    rw [UInt64.toNat_add, Nat.mod_eq_of_lt h]
    omega
  · rename_i h
    rw [UInt64.toNat_ofNat_of_lt' (by decide)]
    omega

theorem start_le_finish (w : Window) (n : Nat) : w.start n ≤ w.finish n := by
  have hoffset := w.offset.toNat_lt
  have hstop := w.toNat_stop
  unfold start finish
  omega

theorem finish_le (w : Window) (n : Nat) : w.finish n ≤ n := Nat.min_le_right _ _

theorem slice?_eq {α : Type} (w : Window) (items : List α) :
    w.slice? items = some ((items.take (w.finish items.length)).drop (w.start items.length)) :=
  if_pos ⟨w.start_le_finish items.length, w.finish_le items.length⟩

theorem isSome_slice? {α : Type} (w : Window) (items : List α) : (w.slice? items).isSome = true := by
  rw [slice?_eq, Option.isSome_some]

/-- The part of a list inside the window. -/
def slice {α : Type} (w : Window) (items : List α) : List α := (w.slice? items).get (w.isSome_slice? items)

end Window
end ProductQuery
