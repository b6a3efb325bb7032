import ProductQuery.Proofs.PageWalk
/-!
# Proofs.FilteredOrder — filtering never reshuffles

A query filters before it sorts, but it might as well sort first (`sortBy_filter`): a filter leaves records out and moves
none, because the order is a total preorder and sorting is stable.  So what a request finds is what it finds without its
filter, less the records that do not match (`filter_keeps_order`).
-/
namespace ProductQuery

namespace Request

variable {F : Type}

/-- The same request for all records. -/
def unfiltered (q : Request F) : Request F := { q with filter := none }

end Request

namespace Engine

variable {R F K : Type} [Queryable R F K]

/-- **Sorting what is left of some records is leaving the same ones out of the sorted records.** -/
theorem sortBy_filter (key : K) (o : SortOrder) (p : R → Bool) (records : List R) :
    sortBy key o (records.filter p) = (sortBy key o records).filter p :=
  ((eq_sortBy_iff key o _ _).2 ((isStableSort_sortBy key o records).filter p)).symm

theorem Arranged.filter {sort : Option (K × SortOrder)} {matched found : List R} (h : Arranged sort matched found)
    (p : R → Bool) : Arranged sort (matched.filter p) (found.filter p) := by
  cases sort with
  | none => exact congrArg (List.filter p) h
  | some s => exact IsStableSort.filter h p

theorem filter_unfiltered (records : List R) (q : Request F) :
    records.filter (matchesRequest q.unfiltered) = records :=
  List.filter_eq_self.2 (fun _ _ => rfl)

/-- What a request finds is what it finds without its filter, less the records that do not match. -/
theorem Finds.filter {records all : List R} {q : Request F} (h : Finds records q.unfiltered all) :
    Finds records q (all.filter (matchesRequest q)) := by
  obtain ⟨resolved, hresolved, harranged⟩ := h
  rw [filter_unfiltered] at harranged
  exact ⟨resolved, hresolved, harranged.filter (matchesRequest q)⟩

/-- **A filter never reshuffles.**  All pages of a request are cut from one list, all pages of the request without its
filter from another, and the one is what is left of the other without the records that do not match; so it makes no
difference whether records are filtered and then sorted or the other way round. -/
theorem filter_keeps_order (e : Engine R) (q : Request F) (hsort : ∀ s ∈ q.sort, IsAddressable R s.field)
    (hfilter : ∀ f ∈ q.filter, Queryable.unknownFields R f = []) :
    (∃ all found, (∀ l, Finds e.records q.unfiltered l ↔ l = all) ∧ (∀ l, Finds e.records q l ↔ l = found) ∧
      (∀ o l : Int64, 0 ≤ o.toInt → 0 ≤ l.toInt →
        e.fetch q.unfiltered o l = .ok (pageOf all o l) ∧ e.fetch q o l = .ok (pageOf found o l)) ∧
      found = all.filter (matchesRequest q)) ∧
    ∀ key o, sortBy key o (matching e.records false q.filter) =
      (sortBy key o (matching e.records false q.unfiltered.filter)).filter (matchesRequest q) := by
  have hnone : ∀ f ∈ q.unfiltered.filter, Queryable.unknownFields R f = [] := by
    rintro f ⟨⟩
  obtain ⟨all, hall⟩ := exists_finds e.records (q := q.unfiltered) hsort hnone
  have hfound := hall.filter
  refine ⟨⟨all, _, fun l => ⟨fun h => h.unique hall, fun h => h ▸ hall⟩,
    fun l => ⟨fun h => h.unique hfound, fun h => h ▸ hfound⟩, fun o l ho hl => ⟨?_, ?_⟩, rfl⟩, fun key o => ?_⟩
  · exact fetch_eq_pageOf (q := q.unfiltered) hsort hnone hall ho hl
  · exact fetch_eq_pageOf hsort hfilter hfound ho hl
  · rw [matching_eq_filter, matching_eq_filter, filter_unfiltered]
    exact sortBy_filter key o _ e.records

/-- Of four products three match, one of them without a rank, and the two that tie stay as they are. -/
theorem filter_keeps_order_shelf :
    let shelf : Engine Product := ⟨[⟨"p1", "s1", 0, 0, []⟩, ⟨"p2", "s2", 0, 0, [⟨"rank", .scalar (.bool false)⟩]⟩,
      ⟨"p3", "s3", 0, 0, [⟨"rank", .scalar (.bool true)⟩]⟩,
      ⟨"p4", "s4", 0, 0, [⟨"rank", .scalar (.bool false)⟩]⟩], .strict⟩
    let q : Request ProductFilter :=
      ⟨some ⟨[(.id, ⟨[.ne (.string "p3")]⟩)], none, []⟩, some ⟨"attributes.rank", .desc⟩, none⟩
    ∃ page whole, shelf.fetch q 0 9 = .ok page ∧ shelf.fetch q.unfiltered 0 9 = .ok whole ∧ page.total = 3 ∧
      page.data = whole.data.filter (matchesRequest q) := by
  intro shelf q
  have hsort : ∀ s ∈ q.sort, IsAddressable Product s.field := by
    rintro s ⟨⟩
    exact (isAddressable_product_iff _).2 (.inr ⟨"rank", rfl⟩)
  have hfilter : ∀ f ∈ q.filter, Queryable.unknownFields Product f = [] := by
    rintro f ⟨⟩
    rfl
  obtain ⟨⟨all, found, hall, hfound, hpages, rfl⟩, -⟩ := filter_keeps_order shelf q hsort hfilter
  obtain ⟨hwhole, hpage⟩ := hpages 0 9 (by decide) (by decide)
  have hthree : (all.filter (matchesRequest q)).length = 3 := ((hfound _).2 rfl).length_eq.trans (by decide)
  have hfour : all.length = 4 := ((hall _).2 rfl).length_eq.trans (by decide)
  refine ⟨_, _, hpage, hwhole, hthree, ?_⟩
  show (all.filter (matchesRequest q)).take 9 = (all.take 9).filter (matchesRequest q)
  rw [List.take_of_length_le (by omega), List.take_of_length_le (by omega)]

end Engine
end ProductQuery
