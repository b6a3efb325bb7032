import ProductQuery.Query.Order
/-!
# Proofs.ValueOrder — the order of values is a total preorder

Sorting is only as good as its comparison.  Here the comparison of values is shown to be reflexive, to turn around when
its sides are exchanged and to be transitive (`compareBy_isTotalPreorder`), first for the items of arrays and then for
values.  Both comparisons go by type before they look at what a value holds, so both are transitive for one reason
(`isLE_trans_of_rank`), and arrays inherit what holds of their items.
-/
namespace ProductQuery

/-! ## Comparing by type first -/

section Ranked

variable {α : Type} {cmp : α → α → Ordering} (rank : α → Nat)

theorem rank_le_of_isLE (hrank : ∀ a b, rank a ≠ rank b → cmp a b = compare (rank a) (rank b)) {a b : α}
    (h : (cmp a b).isLE) : rank a ≤ rank b := by
  by_cases hab : rank a = rank b
  · exact Nat.le_of_eq hab
  · rw [hrank a b hab] at h
    exact Nat.isLE_compare.1 h

/-- **A comparison that goes by rank is transitive if it is so within each rank.** -/
theorem isLE_trans_of_rank (hrank : ∀ a b, rank a ≠ rank b → cmp a b = compare (rank a) (rank b))
    (hwithin : ∀ a b c, rank a = rank b → rank b = rank c → (cmp a b).isLE → (cmp b c).isLE → (cmp a c).isLE)
    {a b c : α} (hab : (cmp a b).isLE) (hbc : (cmp b c).isLE) : (cmp a c).isLE := by
  have h1 := rank_le_of_isLE rank hrank hab
  have h2 := rank_le_of_isLE rank hrank hbc
  by_cases hac : rank a = rank c
  · exact hwithin a b c (by omega) (by omega) hab hbc
  · rw [hrank a c hac]
    exact Nat.isLE_compare.2 (Nat.le_trans h1 h2)

/-- **A comparison that goes by rank turns around with its sides if it does so within each rank.** -/
theorem swap_of_rank (hrank : ∀ a b, rank a ≠ rank b → cmp a b = compare (rank a) (rank b))
    (hwithin : ∀ a b, rank a = rank b → cmp a b = (cmp b a).swap) (a b : α) : cmp a b = (cmp b a).swap := by
  by_cases hab : rank a = rank b
  · exact hwithin a b hab
  · rw [hrank a b hab, hrank b a (Ne.symm hab)]
    exact Std.OrientedOrd.eq_swap

end Ranked

/-! ## Numbers and items -/

namespace Binary64

theorem order_swap (x y : Binary64) : x.order y = (y.order x).swap := Std.OrientedOrd.eq_swap

theorem order_trans {x y z : Binary64} (hxy : (x.order y).isLE) (hyz : (y.order z).isLE) : (x.order z).isLE :=
  Std.TransOrd.isLE_trans hxy hyz

end Binary64

namespace Scalar

theorem order_of_rank_ne (a b : Scalar) (h : a.rank ≠ b.rank) : a.order b = compare a.rank b.rank := by
  unfold order
  split
  case h_5 => rfl
  all_goals exact absurd rfl h

theorem order_swap_within (a b : Scalar) (h : a.rank = b.rank) : a.order b = (b.order a).swap := by
  cases a <;> cases b <;> cases h
  case null => rfl
  case bool => exact Std.OrientedOrd.eq_swap
  case number => exact Binary64.order_swap _ _
  case string => exact Std.OrientedOrd.eq_swap

theorem order_trans_within (a b c : Scalar) (hab : a.rank = b.rank) (hbc : b.rank = c.rank) (h1 : (a.order b).isLE)
    (h2 : (b.order c).isLE) : (a.order c).isLE := by
  cases a <;> cases b <;> cases hab <;> cases c <;> cases hbc
  case null => rfl
  case bool => exact Std.TransOrd.isLE_trans h1 h2
  case number => exact Binary64.order_trans h1 h2
  case string => exact Std.TransOrd.isLE_trans h1 h2

instance : Std.TransCmp order where
  eq_swap := swap_of_rank rank order_of_rank_ne order_swap_within _ _
  isLE_trans := isLE_trans_of_rank rank order_of_rank_ne order_trans_within

/-- Arrays compare as the library compares lists. -/
theorem orderAll_eq_compareLex : ∀ as bs : List Scalar, orderAll as bs = List.compareLex order as bs
  | [], [] => rfl
  | [], _ :: _ => rfl
  | _ :: _, [] => rfl
  | a :: as, b :: bs => by rw [orderAll, List.compareLex_cons_cons, orderAll_eq_compareLex as bs]

theorem orderAll_swap (as bs : List Scalar) : orderAll as bs = (orderAll bs as).swap := by
  rw [orderAll_eq_compareLex, orderAll_eq_compareLex]
  exact Std.OrientedCmp.eq_swap

theorem orderAll_trans {as bs cs : List Scalar} (h1 : (orderAll as bs).isLE) (h2 : (orderAll bs cs).isLE) :
    (orderAll as cs).isLE := by
  rw [orderAll_eq_compareLex] at h1 h2 ⊢
  exact Std.TransCmp.isLE_trans h1 h2

theorem order_null_lt (s : Scalar) (h : s ≠ .null) : Scalar.null.order s = .lt := by
  cases s with
  | null => exact absurd rfl h
  | bool _ | number _ | string _ => rfl

/-- Beginnings that tie do not decide. -/
theorem orderAll_append_of_eq : ∀ (l m as bs : List Scalar), orderAll l m = .eq →
    orderAll (l ++ as) (m ++ bs) = orderAll as bs
  | [], [], _, _, _ => rfl
  | [], _ :: _, _, _, h => by cases h
  | _ :: _, [], _, _, h => by cases h
  | a :: l, b :: m, as, bs, h => by
    obtain ⟨h1, h2⟩ := Ordering.then_eq_eq.1 h
    rw [List.cons_append, List.cons_append, orderAll, h1, orderAll_append_of_eq l m as bs h2]
    rfl

end Scalar

/-! ## Values -/

namespace FieldValue

theorem order_of_rank_ne (a b : FieldValue) (h : a.rank ≠ b.rank) : a.order b = compare a.rank b.rank := by
  unfold order
  split
  case h_5 => rfl
  all_goals exact absurd rfl h

theorem order_swap_within (a b : FieldValue) (h : a.rank = b.rank) : a.order b = (b.order a).swap := by
  cases a <;> cases b <;> cases h
  case bool => exact Std.OrientedOrd.eq_swap
  case number => exact Binary64.order_swap _ _
  case string => exact Std.OrientedOrd.eq_swap
  case array => exact Scalar.orderAll_swap _ _
  all_goals rfl

theorem order_trans_within (a b c : FieldValue) (hab : a.rank = b.rank) (hbc : b.rank = c.rank)
    (h1 : (a.order b).isLE) (h2 : (b.order c).isLE) : (a.order c).isLE := by
  cases a <;> cases b <;> cases hab <;> cases c <;> cases hbc
  case bool => exact Std.TransOrd.isLE_trans h1 h2
  case number => exact Binary64.order_trans h1 h2
  case string => exact Std.TransOrd.isLE_trans h1 h2
  case array => exact Scalar.orderAll_trans h1 h2
  all_goals rfl

theorem order_swap (a b : FieldValue) : a.order b = (b.order a).swap :=
  swap_of_rank rank order_of_rank_ne order_swap_within a b

theorem order_trans {a b c : FieldValue} (hab : (a.order b).isLE) (hbc : (b.order c).isLE) : (a.order c).isLE :=
  isLE_trans_of_rank rank order_of_rank_ne order_trans_within hab hbc

theorem rank_eq_zero_iff (a : FieldValue) : a.rank = 0 ↔ a.isAbsent = true := by
  cases a <;> simp [rank]

theorem order_of_absent {a b : FieldValue} (ha : a.isAbsent = true) (hb : b.isAbsent = false) : a.order b = .lt := by
  have h0 : a.rank = 0 := (rank_eq_zero_iff a).2 ha
  have h1 : b.rank ≠ 0 := by
    rw [ne_eq, rank_eq_zero_iff, hb]
    exact Bool.false_ne_true
  rw [order_of_rank_ne a b (by omega), h0]
  exact Nat.compare_eq_lt.2 (Nat.pos_of_ne_zero h1)

theorem order_of_absent_of_absent {a b : FieldValue} (ha : a.isAbsent = true) (hb : b.isAbsent = true) :
    a.order b = .eq := by
  cases a <;> cases ha <;> cases b <;> cases hb <;> rfl

/-! ## Values in a direction -/

theorem compareBy_desc (a b : FieldValue) : compareBy .desc a b = compareBy .asc b a := (order_swap b a).symm

theorem compareBy_swap (o : SortOrder) (a b : FieldValue) : compareBy o a b = (compareBy o b a).swap := by
  cases o with
  | asc => exact order_swap a b
  | desc =>
    rw [compareBy_desc, compareBy_desc]
    exact order_swap b a

theorem compareBy_trans (o : SortOrder) {a b c : FieldValue} (hab : (compareBy o a b).isLE)
    (hbc : (compareBy o b c).isLE) : (compareBy o a c).isLE := by
  cases o with
  | asc => exact order_trans hab hbc
  | desc =>
    rw [compareBy_desc] at hab hbc ⊢
    exact order_trans hbc hab

instance (o : SortOrder) : Std.TransCmp (compareBy o) where
  eq_swap := compareBy_swap o _ _
  isLE_trans := compareBy_trans o

/-- Absent values are a class of their own. -/
theorem compareBy_eq_iff_of_absent (o : SortOrder) {a : FieldValue} (ha : a.isAbsent = true) (b : FieldValue) :
    compareBy o a b = .eq ↔ b.isAbsent = true := by
  cases hb : b.isAbsent with
  | true => cases o <;> simp [compareBy, SortOrder.apply, order_of_absent_of_absent ha hb]
  | false => cases o <;> simp [compareBy, SortOrder.apply, order_of_absent ha hb]

/-- Measures are a class of their own. -/
theorem compareBy_eq_iff_of_measure (o : SortOrder) (m : Measure) (b : FieldValue) :
    compareBy o (.structured m) b = .eq ↔ ∃ n, b = .structured n := by
  cases b with
  | structured n => cases o <;> exact ⟨fun _ => ⟨n, rfl⟩, fun _ => rfl⟩
  | _ => cases o <;> simp [compareBy, SortOrder.apply, order, rank, Nat.compare_eq_gt.2]

/-- **Values that tie at the ends of a chain tie along it.** -/
theorem compareBy_eq_of_isLE_of_eq (o : SortOrder) {a b c : FieldValue} (hab : (compareBy o a b).isLE)
    (hbc : (compareBy o b c).isLE) (hac : compareBy o a c = .eq) : compareBy o a b = .eq ∧ compareBy o b c = .eq := by
  have hca : (compareBy o c a).isLE := by rw [Std.OrientedCmp.eq_symm hac]; rfl
  exact ⟨Std.OrientedCmp.isLE_antisymm hab (Std.TransCmp.isLE_trans hbc hca),
    Std.OrientedCmp.isLE_antisymm hbc (Std.TransCmp.isLE_trans hca hab)⟩

/-- **The order of values is a total preorder in either direction.**  The two directions are each other's reverse,
absent values come first in ascending and last in descending order, and in arrays that agree so far null comes before
every other item. -/
theorem compareBy_isTotalPreorder (o : SortOrder) (a b c : FieldValue) :
    compareBy o a a = .eq ∧
    compareBy o b a = (compareBy o a b).swap ∧
    (compareBy o a b ≠ .gt → compareBy o b c ≠ .gt →
      compareBy o a c ≠ .gt ∧ (compareBy o a c = .eq → compareBy o a b = .eq ∧ compareBy o b c = .eq)) ∧
    compareBy .desc a b = compareBy .asc b a ∧
    (a.isAbsent = true → (compareBy o a b = .eq ↔ b.isAbsent = true)) ∧
    (a.isAbsent = true → b.isAbsent = false → compareBy .asc a b = .lt ∧ compareBy .desc a b = .gt) ∧
    (∀ (l m as bs : List Scalar) (s : Scalar), compareBy .asc (.array l) (.array m) = .eq → s ≠ .null →
      compareBy .asc (.array (l ++ .null :: as)) (.array (m ++ s :: bs)) = .lt) := by
  refine ⟨Std.ReflCmp.compare_self, Std.OrientedCmp.eq_swap, fun hab hbc => ?_, compareBy_desc a b,
    fun ha => compareBy_eq_iff_of_absent o ha b, fun ha hb => ?_, fun l m as bs s hlm hs => ?_⟩
  · rw [ne_eq, Ordering.ne_gt_iff_isLE] at hab hbc ⊢
    exact ⟨Std.TransCmp.isLE_trans hab hbc, compareBy_eq_of_isLE_of_eq o hab hbc⟩
  · have h := order_of_absent ha hb
    exact ⟨h, by rw [compareBy, h]; rfl⟩
  · show Scalar.orderAll (l ++ .null :: as) (m ++ s :: bs) = .lt
    rw [Scalar.orderAll_append_of_eq l m _ _ hlm, Scalar.orderAll, Scalar.order_null_lt s hs]
    rfl

/-- A descending chain of a text, a number and nothing at all; and null among the items of arrays whose beginnings tie
though they are written differently. -/
theorem compareBy_chain :
    compareBy .desc (.string "b") (.number (Binary64.ofInt 2)) ≠ .gt ∧
    compareBy .desc (.number (Binary64.ofInt 2)) .undefined ≠ .gt ∧
    compareBy .desc (.string "b") .undefined ≠ .gt ∧
    compareBy .desc .undefined .null = .eq ∧
    compareBy .desc .undefined (.number (Binary64.ofInt 2)) = .gt ∧
    compareBy .asc (.array [.number (.ofNat 2), .null])
      (.array [.number (.float (Binary64.ofInt 2)), .bool false]) = .lt := by
  have h1 : compareBy .desc (.string "b") (.number (Binary64.ofInt 2)) ≠ .gt := by decide
  have h2 : compareBy .desc (.number (Binary64.ofInt 2)) .undefined ≠ .gt := by decide
  obtain ⟨-, -, htrans, -⟩ := compareBy_isTotalPreorder .desc (.string "b") (.number (Binary64.ofInt 2)) .undefined
  obtain ⟨-, -, -, -, habsent, -⟩ := compareBy_isTotalPreorder .desc .undefined .null .null
  obtain ⟨-, -, -, -, -, hplace, hitems⟩ :=
    compareBy_isTotalPreorder .desc .undefined (.number (Binary64.ofInt 2)) .null
  refine ⟨h1, h2, (htrans h1 h2).1, (habsent rfl).2 rfl, (hplace rfl rfl).2, ?_⟩
  exact hitems [.number (.ofNat 2)] [.number (.float (Binary64.ofInt 2))] [] [] (.bool false) (by decide +kernel)
    (by decide)

end FieldValue
end ProductQuery
