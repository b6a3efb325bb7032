import ProductQuery.Proofs.LenientQuery
/-!
# Proofs.WindowBounds — windows at the ends of their range

The bounds of a window are any two 64-bit numbers, so their sum may be out of range, and its end is then the last number
of the range.  No list that fits into memory is longer than that.  So of such lists a window cuts what exact bounds would
cut, always between two positions in them, and it has something behind it exactly if exact bounds have (`CutsExactly`).
The bounds of a page become those of a window without loss (`Engine.window_eq_ok_iff`).
-/
namespace ProductQuery

namespace Window

variable {α : Type} {items : List α} {n : Nat}

/-! ## Cutting -/

theorem hasMore_iff (w : Window) (h : n ≤ 0xFFFFFFFFFFFFFFFF) :
    w.hasMore n = true ↔ w.offset.toNat + w.limit.toNat < n := by
  rw [hasMore, decide_eq_true_eq, toNat_stop]
  -- Where the end is the last of the range instead of the sum, no length is beyond either.
  omega

/-- What is behind the start of a window is cut to its length, also where its end is the last of the range. -/
theorem slice_of_length_le (w : Window) (h : items.length ≤ 0xFFFFFFFFFFFFFFFF) :
    w.slice items = (items.drop w.offset.toNat).take w.limit.toNat := by
  have hstop := w.toNat_stop
  rw [slice_eq, List.drop_take, List.take_eq_take_iff, List.length_drop]
  omega

theorem slice?_eq_some_slice (w : Window) (items : List α) : w.slice? items = some (w.slice items) :=
  (Option.some_get (w.isSome_slice? items)).symm

/-- A window cuts a list, and looks behind itself, as exact bounds would. -/
structure CutsExactly (w : Window) (items : List α) : Prop where
  ordered : w.start items.length ≤ w.finish items.length
  inside : w.finish items.length ≤ items.length
  cut : w.slice? items = some ((items.drop w.offset.toNat).take w.limit.toNat)
  slice : w.slice items = (items.drop w.offset.toNat).take w.limit.toNat
  length : (w.slice items).length = min w.limit.toNat (items.length - min w.offset.toNat items.length)
  more : w.hasMore items.length = true ↔ w.offset.toNat + w.limit.toNat < items.length

theorem cutsExactly_of_length_le (w : Window) (h : items.length ≤ 0xFFFFFFFFFFFFFFFF) : w.CutsExactly items where
  ordered := w.start_le_finish items.length
  inside := w.finish_le items.length
  cut := by rw [slice?_eq_some_slice, w.slice_of_length_le h]
  slice := w.slice_of_length_le h
  length := by
    rw [w.slice_of_length_le h, List.length_take, List.length_drop]
    omega
  more := w.hasMore_iff h

/-! ## The bounds of a page -/

/-- A bound is kept as it is, or is zero instead of negative. -/
theorem clamp_eq_iff {n : Int64} {b : UInt64} : clamp n = b ↔ (b.toNat : Int) = max 0 n.toInt := by
  rw [← UInt64.toNat_inj, toNat_clamp]
  omega

theorem eq_of_clamps_iff {p : Pagination} {w : Window} : ⟨clamp p.offset, clamp p.limit⟩ = w ↔
    (w.offset.toNat : Int) = max 0 p.offset.toInt ∧ (w.limit.toNat : Int) = max 0 p.limit.toInt := by
  obtain ⟨offset, limit⟩ := w
  rw [Window.mk.injEq, clamp_eq_iff, clamp_eq_iff]

end Window

/-- The policy refuses a page with these bounds. -/
def Pagination.IsRefused (policy : Policy) (p : Pagination) : Prop :=
  policy = .strict ∧ (p.offset.toInt < 0 ∨ p.limit.toInt < 0)

namespace Engine

theorem window_of_isRefused {policy : Policy} {p : Pagination} (h : p.IsRefused policy) :
    window policy p = .error (.invalidPagination p) := by
  obtain ⟨rfl, hneg⟩ := h
  exact window_strict_of_neg hneg

theorem window_of_not_isRefused {policy : Policy} {p : Pagination} (h : ¬p.IsRefused policy) :
    window policy p = .ok ⟨Window.clamp p.offset, Window.clamp p.limit⟩ := by
  cases policy with
  | lenient => exact window_lenient p
  | strict =>
    have hneg : ¬(p.offset.toInt < 0 ∨ p.limit.toInt < 0) := fun hneg => h ⟨rfl, hneg⟩
    exact window_of_nonneg (by omega) (by omega) .strict

theorem window_eq_error_iff {policy : Policy} {p : Pagination} {r : Refusal} :
    window policy p = .error r ↔ p.IsRefused policy ∧ r = .invalidPagination p := by
  by_cases h : p.IsRefused policy
  · rw [window_of_isRefused h, Except.error.injEq]
    exact ⟨fun hr => ⟨h, hr.symm⟩, fun hr => hr.2.symm⟩
  · rw [window_of_not_isRefused h]
    exact iff_of_false (fun hr => by cases hr) (fun hr => h hr.1)

/-- **The window of a page has the bounds of the page**, negative ones at zero. -/
theorem window_eq_ok_iff {policy : Policy} {p : Pagination} {w : Window} : window policy p = .ok w ↔
    ¬p.IsRefused policy ∧ (w.offset.toNat : Int) = max 0 p.offset.toInt ∧ (w.limit.toNat : Int) = max 0 p.limit.toInt := by
  by_cases h : p.IsRefused policy
  · rw [window_of_isRefused h]
    exact iff_of_false (fun hw => by cases hw) (fun hw => hw.1 h)
  · rw [window_of_not_isRefused h, Except.ok.injEq, Window.eq_of_clamps_iff]
    exact (and_iff_right h).symm

end Engine

/-- **Windows are exact up to the ends of their range.**  Of every list that fits into memory a window cuts what its
bounds say, whatever their sum, and a page gets its window without loss, unless it is refused for a negative bound. -/
theorem windows_are_exact :
    (∀ {α : Type} (w : Window) (items : List α), items.length ≤ 0xFFFFFFFFFFFFFFFF → w.CutsExactly items) ∧
    ∀ (policy : Policy) (p : Pagination),
      (∀ r, Engine.window policy p = .error r ↔ p.IsRefused policy ∧ r = .invalidPagination p) ∧
      ∀ w, Engine.window policy p = .ok w ↔ ¬p.IsRefused policy ∧
        (w.offset.toNat : Int) = max 0 p.offset.toInt ∧ (w.limit.toNat : Int) = max 0 p.limit.toInt :=
  ⟨fun w _ h => w.cutsExactly_of_length_le h, fun _ _ => ⟨fun _ => Engine.window_eq_error_iff, fun _ =>
    Engine.window_eq_ok_iff⟩⟩

/-- A window whose bounds add up to more than the range still cuts all that is behind its start. -/
theorem windows_are_exact_overflowing :
    let w : Window := ⟨1, 0xFFFFFFFFFFFFFFFF⟩
    w.offset.toNat + w.limit.toNat = 0x10000000000000000 ∧ w.slice? [1, 2, 3] = some [2, 3] ∧ w.hasMore 3 = false := by
  intro w
  have hexact := windows_are_exact.1 w [1, 2, 3] (by decide)
  refine ⟨by decide, hexact.cut.trans (by decide), ?_⟩
  rw [← Bool.not_eq_true]
  exact (not_congr hexact.more).2 (by decide)

end ProductQuery
