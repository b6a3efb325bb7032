import ProductQuery.Query.Window
/-!
# Proofs.Paging — windows without overflow

A window keeps its bounds in 64 bits and its end saturates.  The bounds of a page are signed, so the end of the window
of a page is the exact sum (`isExact_clamp`) and cutting is taking a stretch of the list (`slice_of_exact`).
-/
namespace ProductQuery
namespace Window

@[simp]
theorem toNat_clamp (n : Int64) : (clamp n).toNat = n.toInt.toNat := by
  have := n.toInt_lt
  exact UInt64.toNat_ofNatClamp_of_lt (by show _ < 2 ^ 64; omega)

/-- A window whose end is not cut short. -/
def IsExact (w : Window) : Prop := w.stop.toNat = w.offset.toNat + w.limit.toNat

/-- **The window of a page ends where its bounds say.** -/
theorem isExact_clamp (p : Pagination) : IsExact ⟨clamp p.offset, clamp p.limit⟩ := by
  have h1 := p.offset.toInt_lt
  have h2 := p.limit.toInt_lt
  unfold IsExact
  rw [toNat_stop, toNat_clamp, toNat_clamp]
  omega

/-- What is cut does not depend on whether the bounds are brought into the list first. -/
theorem slice_eq {α : Type} (w : Window) (items : List α) :
    w.slice items = (items.take w.stop.toNat).drop w.offset.toNat := by
  have hcut : w.slice items = (items.take (w.finish items.length)).drop (w.start items.length) := by
    unfold slice
    simp only [slice?_eq, Option.get_some]
  rw [hcut, finish, start, ← List.take_eq_take_min]
  rcases Nat.le_total w.offset.toNat items.length with hle | hge
  · rw [Nat.min_eq_left hle]
  · have hlength := List.length_take_le' w.stop.toNat items
    rw [Nat.min_eq_right hge, List.drop_eq_nil_of_le hlength, List.drop_eq_nil_of_le (Nat.le_trans hlength hge)]

/-- **A window cuts the stretch of its length behind its start.** -/
theorem slice_of_exact {α : Type} {w : Window} (hw : w.IsExact) (items : List α) :
    w.slice items = (items.drop w.offset.toNat).take w.limit.toNat := by
  rw [slice_eq, hw, List.drop_take, Nat.add_sub_cancel_left]

theorem hasMore_iff_of_exact {w : Window} (hw : w.IsExact) (total : Nat) :
    w.hasMore total = true ↔ w.offset.toNat + w.limit.toNat < total := by
  rw [hasMore, hw, decide_eq_true_eq]

end Window
end ProductQuery
