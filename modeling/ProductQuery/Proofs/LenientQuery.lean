import ProductQuery.Proofs.StrictQuery
/-!
# Proofs.LenientQuery — what leniency changes

Leniently no request is refused.  What the strict policy answers is answered the same (`execute_lenient_of_strict`), and
what it refuses is answered as the request with its negative bounds at zero and without a field to sort by that does not
exist (`execute_lenient_eq_strict`), or with nothing if the filter names an unknown field (`execute_lenient_of_unknown`).
-/
namespace ProductQuery

/-! ## Requests with nothing to refuse but their filter -/

namespace Pagination

/-- Negative bounds are replaced by zero. -/
def nonnegative (p : Pagination) : Pagination :=
  ⟨if p.offset < 0 then 0 else p.offset, if p.limit < 0 then 0 else p.limit⟩

theorem toInt_replaced (n : Int64) : (if n < 0 then 0 else n).toInt = max 0 n.toInt := by
  by_cases h : n < 0
  · have hn := Int64.lt_iff_toInt_lt.1 h
    rw [if_pos h, Int64.toInt_zero] at *
    omega
  · rw [Int64.lt_iff_toInt_lt, Int64.toInt_zero] at h
    rw [if_neg (by rwa [Int64.lt_iff_toInt_lt, Int64.toInt_zero])]
    omega

theorem clamp_replaced (n : Int64) : Window.clamp (if n < 0 then 0 else n) = Window.clamp n := by
  rw [← UInt64.toNat_inj, Window.toNat_clamp, Window.toNat_clamp, toInt_replaced]
  omega

end Pagination

namespace Request

variable {F : Type}

/-- The request with its negative bounds at zero and without a field to sort by that records do not have. -/
def amended (R : Type) {F K : Type} [Queryable R F K] (q : Request F) : Request F :=
  ⟨q.filter, q.sort.filter (fun s => (Queryable.sortKey? (R := R) s.field).isSome),
    q.pagination.map Pagination.nonnegative⟩

theorem page_amended (R : Type) {F K : Type} [Queryable R F K] (q : Request F) :
    (q.amended R).page = q.page.nonnegative := by
  unfold page amended
  cases q.pagination with
  | none => rfl
  | some p => rfl

end Request

namespace Engine

variable {R F K : Type} [Queryable R F K]

/-! ## The three checks -/

theorem window_lenient (p : Pagination) : window .lenient p = .ok ⟨Window.clamp p.offset, Window.clamp p.limit⟩ := by
  rw [window, Window.ofPagination?, if_neg (fun h => by cases h.2)]

theorem window_nonnegative (p : Pagination) : window .strict p.nonnegative = window .lenient p := by
  have ho : 0 ≤ p.nonnegative.offset.toInt := by rw [Pagination.nonnegative, Pagination.toInt_replaced]; omega
  have hl : 0 ≤ p.nonnegative.limit.toInt := by rw [Pagination.nonnegative, Pagination.toInt_replaced]; omega
  rw [window_of_nonneg ho hl, window_lenient, Pagination.nonnegative, Pagination.clamp_replaced,
    Pagination.clamp_replaced]

variable (R) in
theorem exists_sorting_lenient (sort : Option Sorting) : ∃ resolved, sorting R .lenient sort = .ok resolved := by
  cases sort with
  | none => exact ⟨none, rfl⟩
  | some s =>
    cases hkey : Queryable.sortKey? (R := R) s.field with
    | none => exact ⟨none, sorting_lenient_of_no_key hkey⟩
    | some key => exact ⟨some (key, s.order), sorting_of_key .lenient hkey⟩

variable (R) in
/-- A field that does not exist is as no field. -/
theorem sorting_addressable (sort : Option Sorting) :
    sorting R .strict (sort.filter (fun s => (Queryable.sortKey? (R := R) s.field).isSome)) =
      sorting R .lenient sort := by
  cases sort with
  | none => rfl
  | some s =>
    cases hkey : Queryable.sortKey? (R := R) s.field with
    | none =>
      rw [sorting_lenient_of_no_key hkey, Option.filter_some, hkey]
      rfl
    | some key =>
      rw [sorting_of_key .lenient hkey, Option.filter_some, hkey]
      exact sorting_of_key .strict hkey

variable (R) in
theorem exclusion_lenient_of_unknown {filter : Option F} (h : ∃ f ∈ filter, Queryable.unknownFields R f ≠ []) :
    exclusion R .lenient filter = .ok true := by
  obtain ⟨f, hf, hn⟩ := h
  obtain rfl : filter = some f := hf
  obtain ⟨name, rest, hu⟩ := List.exists_cons_of_ne_nil hn
  simp only [exclusion, Option.elim, hu, List.head?_cons]

/-! ## Answers -/

/-- What a request is answered with depends on its filter and on what its checks leave of it. -/
theorem execute_congr {policy policy' : Policy} (records : List R) {q q' : Request F} (hfilter : q.filter = q'.filter)
    (hplan : plan R policy q = plan R policy' q') (signal : Signal) :
    execute ⟨records, policy⟩ q signal = execute ⟨records, policy'⟩ q' signal := by
  unfold execute
  rw [hplan]
  cases plan R policy' q' with
  | error r => rfl
  | ok p =>
    show run _ q p signal = run _ q' p signal
    unfold run
    rw [hfilter]

/-- **What is answered strictly is answered the same leniently.** -/
theorem execute_lenient_of_strict {records : List R} {q : Request F} {page : Page R}
    (h : execute ⟨records, .strict⟩ q .never = .ok page) : execute ⟨records, .lenient⟩ q .never = .ok page := by
  have hacceptable := isAcceptable_of_execute_strict h
  obtain ⟨resolved, hresolved, hstrict⟩ := plan_of_isAcceptable .strict hacceptable
  obtain ⟨resolved', hresolved', hlenient⟩ := plan_of_isAcceptable .lenient hacceptable
  obtain rfl := eq_of_resolves hresolved hresolved'
  rw [← h]
  exact execute_congr records rfl (hlenient.trans hstrict.symm) .never

/-- **Leniently no request is refused.** -/
theorem exists_execute_lenient (records : List R) (q : Request F) :
    ∃ page, execute ⟨records, .lenient⟩ q .never = .ok page := by
  obtain ⟨resolved, hsort⟩ := exists_sorting_lenient R q.sort
  have hexclusion : ∃ x, exclusion R .lenient q.filter = .ok x := by
    by_cases h : ∃ f ∈ q.filter, Queryable.unknownFields R f ≠ []
    · exact ⟨true, exclusion_lenient_of_unknown R h⟩
    · exact ⟨false, exclusion_of_known R .lenient (fun f hf => Decidable.not_not.1 (fun hn => h ⟨f, hf, hn⟩))⟩
  obtain ⟨x, hx⟩ := hexclusion
  obtain ⟨found, -, hrun⟩ := run_never ⟨records, .lenient⟩ q
    ⟨⟨Window.clamp q.page.offset, Window.clamp q.page.limit⟩, resolved, x⟩
  rw [execute, plan, window_lenient, hsort, hx]
  exact ⟨_, hrun⟩

/-- **Without unknown fields in its filter, a request is answered as the amended one is strictly.** -/
theorem execute_lenient_eq_strict (records : List R) {q : Request F}
    (hknown : ∀ f ∈ q.filter, Queryable.unknownFields R f = []) :
    execute ⟨records, .lenient⟩ q .never = execute ⟨records, .strict⟩ (q.amended R) .never := by
  have hfilter : q.filter = (q.amended R).filter := rfl
  refine execute_congr records hfilter ?_ .never
  have hstrict := exclusion_of_known R .strict hknown
  have hlenient := exclusion_of_known R .lenient hknown
  rw [plan, plan, Request.page_amended, window_nonnegative, Request.amended, sorting_addressable, hstrict, hlenient]

/-- **A filter with an unknown field excludes every record**, whatever else is asked for. -/
theorem execute_lenient_of_unknown (records : List R) {q : Request F}
    (h : ∃ f ∈ q.filter, Queryable.unknownFields R f ≠ []) : execute ⟨records, .lenient⟩ q .never =
      .ok ⟨[], 0, ⟨Window.clamp q.page.offset, Window.clamp q.page.limit⟩⟩ := by
  obtain ⟨resolved, hsort⟩ := exists_sorting_lenient R q.sort
  obtain ⟨found, harranged, hrun⟩ := run_never ⟨records, .lenient⟩ q
    ⟨⟨Window.clamp q.page.offset, Window.clamp q.page.limit⟩, resolved, true⟩
  have hnone : found = [] := List.Perm.eq_nil harranged.perm
  rw [hnone, Window.slice_eq, List.take_nil, List.drop_nil] at hrun
  rw [execute, plan, window_lenient, hsort, exclusion_lenient_of_unknown R h]
  exact hrun

/-- **Leniency refines strictness.**  It answers what is answered strictly with the same page and refuses nothing; a
request whose filter is known is answered as the one with its bounds and its field to sort by amended, and any other with
an empty page. -/
theorem lenient_refines_strict (records : List R) (q : Request F) :
    (∀ page, execute ⟨records, .strict⟩ q .never = .ok page → execute ⟨records, .lenient⟩ q .never = .ok page) ∧
    (∃ page, execute ⟨records, .lenient⟩ q .never = .ok page) ∧
    ((∀ f ∈ q.filter, Queryable.unknownFields R f = []) →
      execute ⟨records, .lenient⟩ q .never = execute ⟨records, .strict⟩ (q.amended R) .never) ∧
    ((∃ f ∈ q.filter, Queryable.unknownFields R f ≠ []) → ∃ page, execute ⟨records, .lenient⟩ q .never = .ok page ∧
      page.total = 0 ∧ page.data = [] ∧ page.hasMore = false ∧ (page.window.offset.toNat : Int) = max 0 q.offset ∧
      (page.window.limit.toNat : Int) = max 0 q.limit) := by
  refine ⟨fun page => execute_lenient_of_strict, exists_execute_lenient records q, execute_lenient_eq_strict records,
    fun h => ⟨_, execute_lenient_of_unknown records h, rfl, rfl, ?_, ?_, ?_⟩⟩
  · rw [Page.hasMore, Window.hasMore, decide_eq_false_iff_not]
    exact Nat.not_lt_zero _
  · rw [Window.toNat_clamp, q.toInt_page_offset, Int.toNat_eq_max, Int.max_comm]
  · rw [Window.toNat_clamp, q.toInt_page_limit, Int.toNat_eq_max, Int.max_comm]

/-- A negative start and an unknown field to sort by are amended; an unknown field in the filter leaves nothing. -/
theorem lenient_refines_strict_shelf :
    let shelf : List Product := [⟨"p1", "s1", 0, 0, []⟩, ⟨"p2", "s2", 0, 0, []⟩]
    let astray : Request ProductFilter := ⟨none, some ⟨"size", .desc⟩, some ⟨-3, 1⟩⟩
    let unknown : Request ProductFilter := ⟨some ⟨[], none, ["color"]⟩, none, some ⟨-3, 1⟩⟩
    execute ⟨shelf, .lenient⟩ astray .never = execute ⟨shelf, .strict⟩ ⟨none, none, some ⟨0, 1⟩⟩ .never ∧
      ∃ page, execute ⟨shelf, .lenient⟩ unknown .never = .ok page ∧ page.total = 0 ∧ page.window.limit.toNat = 1 := by
  intro shelf astray unknown
  obtain ⟨-, -, hamended, -⟩ := lenient_refines_strict shelf astray
  obtain ⟨-, -, -, hunknown⟩ := lenient_refines_strict shelf unknown
  obtain ⟨page, hpage, htotal, -, -, -, hlimit⟩ := hunknown ⟨_, rfl, List.cons_ne_nil _ _⟩
  refine ⟨hamended (fun f hf => by cases hf), page, hpage, htotal, ?_⟩
  have hone : max 0 unknown.limit = 1 := by decide
  omega

end Engine
end ProductQuery
