import ProductQuery.Proofs.StableSort
import ProductQuery.Proofs.ValueOrder
import ProductQuery.Query.Engine
/-!
# Proofs.Sorting — the order of a result

Sorting records by a key is the stable sort by what the records hold under it (`isStableSort_sortBy`).  What this
determines, in either direction and from one direction to the other, is `sortBy_determined`.
-/
namespace ProductQuery
namespace Engine

variable {R F K : Type} [Queryable R F K]

/-- Records compared by what they hold under a key. -/
def recordOrder (key : K) (o : SortOrder) (a b : R) : Ordering :=
  FieldValue.compareBy o (Queryable.sortValue a key) (Queryable.sortValue b key)

instance (key : K) (o : SortOrder) : Std.TransCmp (recordOrder (R := R) key o) where
  eq_swap := FieldValue.compareBy_swap o _ _
  isLE_trans := FieldValue.compareBy_trans o

theorem recordOrder_desc (key : K) : recordOrder (R := R) key .desc = fun a b => recordOrder key .asc b a := by
  funext a b
  exact FieldValue.compareBy_desc _ _

/-- **Sorting is stable.** -/
theorem isStableSort_sortBy (key : K) (o : SortOrder) (xs : List R) :
    IsStableSort (recordOrder key o) xs (sortBy key o xs) := isStableSort_mergeSort xs

theorem eq_sortBy_iff (key : K) (o : SortOrder) (xs ys : List R) :
    ys = sortBy key o xs ↔ IsStableSort (recordOrder key o) xs ys := by
  constructor
  · rintro rfl
    exact isStableSort_sortBy key o xs
  · intro h
    exact h.unique (isStableSort_sortBy key o xs)

theorem sortBy_of_sorted (key : K) (o : SortOrder) {xs : List R}
    (h : xs.Pairwise (fun a b => recordOrder key o a b ≠ .gt)) : sortBy key o xs = xs :=
  ((eq_sortBy_iff key o xs xs).2 (isStableSort_self h)).symm

/-- Descending is ascending backwards, on the list backwards. -/
theorem sortBy_desc (key : K) (xs : List R) : sortBy key .desc xs = (sortBy key .asc xs.reverse).reverse := by
  have h := (isStableSort_sortBy key .asc xs.reverse).reverse
  rw [← recordOrder_desc] at h
  exact ((eq_sortBy_iff key .desc xs _).2 h).symm

/-- **Descending order takes the runs of ascending order from the last to the first.** -/
theorem tieGroups_sortBy_desc (key : K) (xs : List R) :
    tieGroups (recordOrder key .desc) (sortBy key .desc xs) =
      (tieGroups (recordOrder key .asc) (sortBy key .asc xs)).reverse := by
  have hasc := isStableSort_sortBy key .asc xs
  have hdesc := hasc.reverse_tieGroups
  rw [← recordOrder_desc] at hdesc
  rw [← (eq_sortBy_iff key .desc xs _).2 hdesc, recordOrder_desc]
  exact (isGrouping_tieGroups hasc.sorted).reverse.tieGroups_flatten

/-- **What sorting determines.**  The sorted list is the only one with the same records, in order, in which those that
tie stand as they stood.  So descending order is ascending order backwards on the list backwards, and it takes the runs
of ties of ascending order from the last to the first, each of them a part of the input as it stood; the records without
a value are one such run, and so are those with a measure.  A list in order stays as it is. -/
theorem sortBy_determined (key : K) (o : SortOrder) (xs : List R) :
    (∀ ys, ys = sortBy key o xs ↔ IsStableSort (recordOrder key o) xs ys) ∧
    sortBy key .desc xs = (sortBy key .asc xs.reverse).reverse ∧
    tieGroups (recordOrder key .desc) (sortBy key .desc xs) =
      (tieGroups (recordOrder key .asc) (sortBy key .asc xs)).reverse ∧
    (∀ g ∈ tieGroups (recordOrder key o) (sortBy key o xs), ∀ r ∈ g, g = tied (recordOrder key o) r xs) ∧
    (∀ r s : R, (Queryable.sortValue r key).isAbsent = true →
      (recordOrder key o r s = .eq ↔ (Queryable.sortValue s key).isAbsent = true)) ∧
    (∀ (r s : R) (m : Measure), Queryable.sortValue r key = .structured m →
      (recordOrder key o r s = .eq ↔ ∃ n, Queryable.sortValue s key = .structured n)) ∧
    (xs.Pairwise (fun a b => recordOrder key o a b ≠ .gt) → sortBy key o xs = xs) ∧
    sortBy key o (sortBy key o xs) = sortBy key o xs := by
  refine ⟨eq_sortBy_iff key o xs, sortBy_desc key xs, tieGroups_sortBy_desc key xs, fun g hg r hr => ?_,
    fun r s hr => ?_, fun r s m hr => ?_, sortBy_of_sorted key o, ?_⟩
  · exact (isStableSort_sortBy key o xs).eq_tied hg hr
  · exact FieldValue.compareBy_eq_iff_of_absent o hr _
  · unfold recordOrder
    rw [hr]
    exact FieldValue.compareBy_eq_iff_of_measure o m _
  · exact sortBy_of_sorted key o (isStableSort_sortBy key o xs).sorted

/-- A shelf that is out of order.  In either direction the two products that have no rank stand as they stood, and so do
the two whose rank is a measure. -/
theorem sortBy_shelf :
    let heavy : Product := ⟨"p1", "s", 0, 0, [⟨"rank", .structured ⟨some (.string "5"), none, []⟩⟩]⟩
    let bare : Product := ⟨"p2", "s", 0, 0, []⟩
    let light : Product := ⟨"p3", "s", 0, 0, [⟨"rank", .structured ⟨some (.string "1"), none, []⟩⟩]⟩
    let null : Product := ⟨"p4", "s", 0, 0, [⟨"rank", .scalar .null⟩]⟩
    sortBy (.attribute "rank") .asc [heavy, bare, light, null] = [bare, null, heavy, light] ∧
      sortBy (.attribute "rank") .desc [heavy, bare, light, null] = [heavy, light, bare, null] := by
  intro heavy bare light null
  obtain ⟨hasc, -⟩ := sortBy_determined (.attribute "rank") .asc [heavy, bare, light, null]
  obtain ⟨hdesc, -⟩ := sortBy_determined (.attribute "rank") .desc [heavy, bare, light, null]
  constructor
  · have hsorted : IsStableSort (recordOrder (.attribute "rank") .asc) [bare, null, heavy, light]
        [bare, null, heavy, light] := isStableSort_self (by decide)
    have hone := hsorted.swap [bare] [light] (by decide)
    have htwo := hone.swap [] [null, light] (by decide)
    exact ((hasc _).2 (htwo.swap [heavy, bare] [] (by decide))).symm
  · have hsorted : IsStableSort (recordOrder (.attribute "rank") .desc) [heavy, light, bare, null]
        [heavy, light, bare, null] := isStableSort_self (by decide)
    exact ((hdesc _).2 (hsorted.swap [heavy] [null] (by decide))).symm

end Engine
end ProductQuery
