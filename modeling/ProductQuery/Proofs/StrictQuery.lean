import ProductQuery.Proofs.Names
import ProductQuery.Proofs.Paging
import ProductQuery.Proofs.Sorting
/-!
# Proofs.StrictQuery — what a strict query answers

Strictly, a request is answered exactly when its bounds are not negative, its field to sort by exists and its filter
names no unknown field.  The answer is then the asked stretch of what the request finds (`Finds`): the records that
match the filter, stably sorted.  A refusal is about the first of the three that is not in order.  `strict_answers` says
so of products and of definitions, each with the names that they can be sorted by.
-/
namespace ProductQuery

/-! ## The bounds of a request -/

namespace Request

variable {F : Type}

/-- The start asked for, zero where none is given. -/
def offset (q : Request F) : Int := q.pagination.elim 0 (·.offset.toInt)

/-- The length asked for, twenty-five where none is given. -/
def limit (q : Request F) : Int := q.pagination.elim 25 (·.limit.toInt)

@[simp]
theorem toInt_page_offset (q : Request F) : q.page.offset.toInt = q.offset := by
  unfold page offset
  cases q.pagination <;> rfl

@[simp]
theorem toInt_page_limit (q : Request F) : q.page.limit.toInt = q.limit := by
  unfold page limit
  cases q.pagination <;> rfl

end Request

namespace Engine

variable {R F K : Type} [Queryable R F K]

/-! ## The three checks -/

theorem window_of_nonneg {p : Pagination} (ho : 0 ≤ p.offset.toInt) (hl : 0 ≤ p.limit.toInt) (policy : Policy) :
    window policy p = .ok ⟨Window.clamp p.offset, Window.clamp p.limit⟩ := by
  have h : ¬(p.offset < 0 ∨ p.limit < 0) := by
    rw [Int64.lt_iff_toInt_lt, Int64.lt_iff_toInt_lt]
    simp only [Int64.toInt_zero]
    omega
  rw [window, Window.ofPagination?, if_neg (fun hn => h hn.1)]

theorem window_strict_of_neg {p : Pagination} (h : p.offset.toInt < 0 ∨ p.limit.toInt < 0) :
    window .strict p = .error (.invalidPagination p) := by
  have hn : p.offset < 0 ∨ p.limit < 0 := by
    rw [Int64.lt_iff_toInt_lt, Int64.lt_iff_toInt_lt]
    simpa only [Int64.toInt_zero] using h
  rw [window, Window.ofPagination?, if_pos ⟨hn, rfl⟩]

variable (R) in
/-- Can records be sorted by a name? -/
def IsAddressable (name : String) : Prop := ∃ key, Queryable.sortKey? (R := R) name = some key

variable (R) in
/-- A key and a direction are what a request to sort stands for. -/
def Resolves (s : Sorting) (resolved : K × SortOrder) : Prop :=
  Queryable.sortKey? (R := R) s.field = some resolved.1 ∧ resolved.2 = s.order

section

variable {s : Sorting}

theorem sorting_of_key (policy : Policy) {key : K} (hkey : Queryable.sortKey? (R := R) s.field = some key) :
    sorting R policy (some s) = .ok (some (key, s.order)) := by
  simp only [sorting, hkey]

theorem sorting_strict_of_no_key (hkey : Queryable.sortKey? (R := R) s.field = none) :
    sorting R .strict (some s) = .error (.unknownSortField (Queryable.collection R).name s.field) := by
  simp only [sorting, hkey]

theorem sorting_lenient_of_no_key (hkey : Queryable.sortKey? (R := R) s.field = none) :
    sorting R .lenient (some s) = .ok none := by
  simp only [sorting, hkey]

end

variable (R) in
theorem sorting_of_addressable (policy : Policy) {sort : Option Sorting} (h : ∀ s ∈ sort, IsAddressable R s.field) :
    ∃ resolved, Option.Rel (Resolves R) sort resolved ∧ sorting R policy sort = .ok resolved := by
  cases sort with
  | none => exact ⟨none, .none, rfl⟩
  | some s =>
    obtain ⟨key, hkey⟩ := h s rfl
    exact ⟨some (key, s.order), .some ⟨hkey, rfl⟩, sorting_of_key policy hkey⟩

variable (R) in
theorem sorting_strict_of_not_addressable {sort : Option Sorting} (h : ∃ s ∈ sort, ¬IsAddressable R s.field) :
    ∃ s ∈ sort, sorting R .strict sort = .error (.unknownSortField (Queryable.collection R).name s.field) := by
  obtain ⟨s, hs, hn⟩ := h
  obtain rfl : sort = some s := hs
  have hkey : Queryable.sortKey? (R := R) s.field = none := by
    cases hk : Queryable.sortKey? (R := R) s.field with
    | none => rfl
    | some key => exact absurd ⟨key, hk⟩ hn
  exact ⟨s, rfl, sorting_strict_of_no_key hkey⟩

variable (R) in
theorem exclusion_of_known (policy : Policy) {filter : Option F} (h : ∀ f ∈ filter, Queryable.unknownFields R f = []) :
    exclusion R policy filter = .ok false := by
  cases filter with
  | none => rfl
  | some f => simp only [exclusion, Option.elim, h f rfl, List.head?_nil]

variable (R) in
theorem exclusion_strict_of_unknown {filter : Option F} (h : ∃ f ∈ filter, Queryable.unknownFields R f ≠ []) :
    ∃ f ∈ filter, ∃ name ∈ (Queryable.unknownFields R f).head?,
      exclusion R .strict filter = .error (.unknownFilterField (Queryable.collection R).name name) := by
  obtain ⟨f, hf, hn⟩ := h
  obtain rfl : filter = some f := hf
  obtain ⟨name, rest, hu⟩ := List.exists_cons_of_ne_nil hn
  exact ⟨f, rfl, name, by rw [hu]; rfl, by simp only [exclusion, Option.elim, hu, List.head?_cons]⟩

/-! ## The run -/

/-- Does a record satisfy the filter of a request, if there is one? -/
def matchesRequest (q : Request F) (r : R) : Bool := q.filter.all (Queryable.satisfies r ·)

/-- `found` is `matched` in the order asked for: as it is, or stably sorted. -/
def Arranged : Option (K × SortOrder) → List R → List R → Prop
  | none, matched, found => found = matched
  | some (key, o), matched, found => IsStableSort (recordOrder key o) matched found

/-- `found` is what a request finds: the records that match it, in the order that it asks for. -/
def Finds (records : List R) (q : Request F) (found : List R) : Prop :=
  ∃ resolved, Option.Rel (Resolves R) q.sort resolved ∧ Arranged resolved (records.filter (matchesRequest q)) found

theorem matching_eq_filter (records : List R) (q : Request F) :
    matching records false q.filter = records.filter (matchesRequest q) := by
  unfold matching matchesRequest
  cases q.filter with
  | none => exact (List.filter_eq_self.2 (fun _ _ => rfl)).symm
  | some f => rfl

theorem Arranged.perm {sort : Option (K × SortOrder)} {matched found : List R} (h : Arranged sort matched found) :
    found.Perm matched := by
  cases sort with
  | none =>
    obtain rfl : found = matched := h
    exact List.Perm.refl found
  | some s => exact IsStableSort.perm h

/-- Sorting loses no record, so what is found is as many as match. -/
theorem Finds.length_eq {records found : List R} {q : Request F} (h : Finds records q found) :
    found.length = records.countP (matchesRequest q) := by
  obtain ⟨resolved, -, harranged⟩ := h
  rw [List.countP_eq_length_filter, harranged.perm.length_eq]

theorem eq_of_resolves {sort : Option Sorting} {a b : Option (K × SortOrder)} (ha : Option.Rel (Resolves R) sort a)
    (hb : Option.Rel (Resolves R) sort b) : a = b := by
  cases ha with
  | none =>
    cases hb
    rfl
  | some h =>
    cases hb with
    | some h' =>
      have hkey := Option.some.inj (h.1.symm.trans h'.1)
      exact congrArg some (Prod.ext hkey (h.2.trans h'.2.symm))

/-- What a request finds is one list. -/
theorem Finds.unique {records a b : List R} {q : Request F} (ha : Finds records q a) (hb : Finds records q b) :
    a = b := by
  obtain ⟨resolved, hra, harra⟩ := ha
  obtain ⟨resolved', hrb, harrb⟩ := hb
  obtain rfl := eq_of_resolves hra hrb
  cases resolved with
  | none => exact Eq.trans harra harrb.symm
  | some s => exact IsStableSort.unique harra harrb

/-- **A run that is not given up answers with its window of the arranged matches.** -/
theorem run_never (e : Engine R) (q : Request F) (p : Plan K) :
    ∃ found, Arranged p.sort (matching e.records p.excludesAll q.filter) found ∧
      e.run q p .never = .ok ⟨p.window.slice found, found.length, p.window⟩ := by
  obtain ⟨w, sort, x⟩ := p
  cases sort with
  | none => exact ⟨_, rfl, rfl⟩
  | some s => exact ⟨sortBy s.1 s.2 _, isStableSort_sortBy s.1 s.2 _, rfl⟩

/-- A request that passes all checks. -/
structure IsAcceptable (R : Type) {F K : Type} [Queryable R F K] (q : Request F) : Prop where
  offset : 0 ≤ q.offset
  limit : 0 ≤ q.limit
  sort : ∀ s ∈ q.sort, IsAddressable R s.field
  filter : ∀ f ∈ q.filter, Queryable.unknownFields R f = []

theorem plan_of_isAcceptable (policy : Policy) {q : Request F} (h : IsAcceptable R q) :
    ∃ resolved, Option.Rel (Resolves R) q.sort resolved ∧ plan R policy q =
      .ok ⟨⟨Window.clamp q.page.offset, Window.clamp q.page.limit⟩, resolved, false⟩ := by
  have hw := window_of_nonneg (q.toInt_page_offset ▸ h.offset) (q.toInt_page_limit ▸ h.limit) policy
  have hx := exclusion_of_known R policy h.filter
  obtain ⟨resolved, hresolved, hs⟩ := sorting_of_addressable R policy h.sort
  refine ⟨resolved, hresolved, ?_⟩
  rw [plan, hw, hs, hx]
  rfl

/-- **A request that passes all checks is answered with the asked stretch of what it finds**, under either policy. -/
theorem execute_of_isAcceptable (policy : Policy) (records : List R) {q : Request F} (h : IsAcceptable R q) :
    ∃ found, Finds records q found ∧
      execute ⟨records, policy⟩ q .never = .ok ⟨(found.drop q.offset.toNat).take q.limit.toNat, found.length,
        ⟨Window.clamp q.page.offset, Window.clamp q.page.limit⟩⟩ := by
  obtain ⟨resolved, hresolved, hplan⟩ := plan_of_isAcceptable policy h
  obtain ⟨found, harranged, hrun⟩ := run_never ⟨records, policy⟩ q
    ⟨⟨Window.clamp q.page.offset, Window.clamp q.page.limit⟩, resolved, false⟩
  rw [matching_eq_filter] at harranged
  refine ⟨found, ⟨resolved, hresolved, harranged⟩, ?_⟩
  rw [Window.slice_of_exact (Window.isExact_clamp q.page), Window.toNat_clamp, Window.toNat_clamp,
    q.toInt_page_offset, q.toInt_page_limit] at hrun
  rw [execute, hplan]
  exact hrun

/-! ## Refusals -/

theorem execute_strict_of_neg (records : List R) {q : Request F} (h : q.offset < 0 ∨ q.limit < 0) :
    execute ⟨records, .strict⟩ q .never = .error (.invalidPagination q.page) := by
  rw [← q.toInt_page_offset, ← q.toInt_page_limit] at h
  rw [execute, plan, window_strict_of_neg h]
  rfl

theorem execute_strict_of_not_addressable (records : List R) {q : Request F} (ho : 0 ≤ q.offset) (hl : 0 ≤ q.limit)
    (h : ∃ s ∈ q.sort, ¬IsAddressable R s.field) :
    ∃ s ∈ q.sort,
      execute ⟨records, .strict⟩ q .never = .error (.unknownSortField (Queryable.collection R).name s.field) := by
  obtain ⟨s, hmem, hs⟩ := sorting_strict_of_not_addressable R h
  refine ⟨s, hmem, ?_⟩
  rw [execute, plan, window_of_nonneg (q.toInt_page_offset ▸ ho) (q.toInt_page_limit ▸ hl), hs]
  rfl

theorem execute_strict_of_unknown (records : List R) {q : Request F} (ho : 0 ≤ q.offset) (hl : 0 ≤ q.limit)
    (hs : ∀ s ∈ q.sort, IsAddressable R s.field) (h : ∃ f ∈ q.filter, Queryable.unknownFields R f ≠ []) :
    ∃ f ∈ q.filter, ∃ name ∈ (Queryable.unknownFields R f).head?,
      execute ⟨records, .strict⟩ q .never = .error (.unknownFilterField (Queryable.collection R).name name) := by
  obtain ⟨resolved, -, hsort⟩ := sorting_of_addressable R .strict hs
  obtain ⟨f, hf, name, hname, hx⟩ := exclusion_strict_of_unknown R h
  refine ⟨f, hf, name, hname, ?_⟩
  rw [execute, plan, window_of_nonneg (q.toInt_page_offset ▸ ho) (q.toInt_page_limit ▸ hl), hsort, hx]
  rfl

/-! ## All answers -/

/-- What a request is answered with, or refused for, under the strict policy. -/
structure AnswersStrictly (records : List R) (q : Request F) : Prop where
  /-- The requests that are answered. -/
  answered : (∃ page, execute ⟨records, .strict⟩ q .never = .ok page) ↔
    0 ≤ q.offset ∧ 0 ≤ q.limit ∧ (∀ s ∈ q.sort, IsAddressable R s.field) ∧
      ∀ f ∈ q.filter, Queryable.unknownFields R f = []
  /-- What an answer holds. -/
  answer : ∀ page, execute ⟨records, .strict⟩ q .never = .ok page → ∃ found, (∀ l, Finds records q l ↔ l = found) ∧
    page.total = found.length ∧ page.total = records.countP (matchesRequest q) ∧
    page.data = (found.drop q.offset.toNat).take q.limit.toNat ∧
    (page.window.offset.toNat : Int) = q.offset ∧ (page.window.limit.toNat : Int) = q.limit ∧
    (page.hasMore = true ↔ q.offset + q.limit < page.total)
  /-- What a refusal is about. -/
  refusal : ∀ r, execute ⟨records, .strict⟩ q .never = .error r →
    ((q.offset < 0 ∨ q.limit < 0) → r.code = "CATALOG_INVALID_PAGINATION") ∧
    (0 ≤ q.offset → 0 ≤ q.limit → (∃ s ∈ q.sort, ¬IsAddressable R s.field) →
      r.code = "CATALOG_UNKNOWN_SORT_FIELD") ∧
    (0 ≤ q.offset → 0 ≤ q.limit → (∀ s ∈ q.sort, IsAddressable R s.field) →
      r.code = "CATALOG_UNKNOWN_FILTER_FIELD")

theorem exists_unknown_of_not_isAcceptable {q : Request F} (h : ¬IsAcceptable R q) (ho : 0 ≤ q.offset)
    (hl : 0 ≤ q.limit) (hs : ∀ s ∈ q.sort, IsAddressable R s.field) :
    ∃ f ∈ q.filter, Queryable.unknownFields R f ≠ [] := by
  by_contra hno
  exact h ⟨ho, hl, hs, fun f hf => Decidable.not_not.1 (fun hne => hno ⟨f, hf, hne⟩)⟩

/-- A request that fails a check is refused. -/
theorem execute_strict_of_not_isAcceptable (records : List R) {q : Request F} (h : ¬IsAcceptable R q) :
    ∃ r, execute ⟨records, .strict⟩ q .never = .error r := by
  by_cases hneg : q.offset < 0 ∨ q.limit < 0
  · exact ⟨_, execute_strict_of_neg records hneg⟩
  have ho : 0 ≤ q.offset := by omega
  have hl : 0 ≤ q.limit := by omega
  by_cases hs : ∀ s ∈ q.sort, IsAddressable R s.field
  · have hf := exists_unknown_of_not_isAcceptable h ho hl hs
    obtain ⟨f, -, name, -, hexec⟩ := execute_strict_of_unknown records ho hl hs hf
    exact ⟨_, hexec⟩
  · have hn : ∃ s ∈ q.sort, ¬IsAddressable R s.field := by
      by_contra hno
      exact hs fun s hmem => Classical.not_not.1 (fun hna => hno ⟨s, hmem, hna⟩)
    obtain ⟨s, -, hexec⟩ := execute_strict_of_not_addressable records ho hl hn
    exact ⟨_, hexec⟩

theorem isAcceptable_of_execute_strict {records : List R} {q : Request F} {page : Page R}
    (h : execute ⟨records, .strict⟩ q .never = .ok page) : IsAcceptable R q := by
  by_contra hn
  obtain ⟨r, hr⟩ := execute_strict_of_not_isAcceptable records hn
  rw [hr] at h
  cases h

theorem answersStrictly_of_queryable (records : List R) (q : Request F) : AnswersStrictly records q where
  answered := by
    constructor
    · rintro ⟨page, h⟩
      have ha := isAcceptable_of_execute_strict h
      exact ⟨ha.offset, ha.limit, ha.sort, ha.filter⟩
    · rintro ⟨ho, hl, hs, hf⟩
      obtain ⟨found, -, h⟩ := execute_of_isAcceptable .strict records ⟨ho, hl, hs, hf⟩
      exact ⟨_, h⟩
  answer := by
    intro page h
    have ha := isAcceptable_of_execute_strict h
    obtain ⟨found, hfound, hexec⟩ := execute_of_isAcceptable .strict records ha
    rw [hexec] at h
    obtain rfl := Except.ok.inj h
    have hexact := Window.isExact_clamp q.page
    refine ⟨found, fun l => ⟨fun hl => hl.unique hfound, ?_⟩, rfl, hfound.length_eq, rfl, ?_, ?_, ?_⟩
    · rintro rfl
      exact hfound
    · rw [Window.toNat_clamp, q.toInt_page_offset, Int.toNat_of_nonneg ha.offset]
    · rw [Window.toNat_clamp, q.toInt_page_limit, Int.toNat_of_nonneg ha.limit]
    · rw [Page.hasMore, Window.hasMore_iff_of_exact hexact, Window.toNat_clamp, Window.toNat_clamp,
        q.toInt_page_offset, q.toInt_page_limit]
      have ho := ha.offset
      have hl := ha.limit
      omega
  refusal := by
    intro r h
    refine ⟨fun hneg => ?_, fun ho hl hn => ?_, fun ho hl hs => ?_⟩
    · rw [execute_strict_of_neg records hneg] at h
      obtain rfl := Except.error.inj h
      rfl
    · obtain ⟨s, -, hexec⟩ := execute_strict_of_not_addressable records ho hl hn
      rw [hexec] at h
      obtain rfl := Except.error.inj h
      rfl
    · have hn : ¬IsAcceptable R q := by
        intro ha
        obtain ⟨found, -, hok⟩ := execute_of_isAcceptable .strict records ha
        rw [hok] at h
        cases h
      have hf := exists_unknown_of_not_isAcceptable hn ho hl hs
      obtain ⟨f, -, name, -, hexec⟩ := execute_strict_of_unknown records ho hl hs hf
      rw [hexec] at h
      obtain rfl := Except.error.inj h
      rfl

end Engine

/-! ## The names that can be sorted by -/

namespace Engine

theorem isAddressable_product_iff (name : String) : IsAddressable Product name ↔
    name ∈ ["id", "skuId", "createdAt", "updatedAt"] ∨ ∃ key, name = "attributes." ++ key :=
  ProductKey.exists_ofName?_eq_iff name

theorem isAddressable_definition_iff (name : String) : IsAddressable Definition name ↔
    name ∈ ["id", "key", "name", "type", "group", "placeHolder", "description", "createdAt", "updatedAt"] :=
  exists_find?_eq_iff DefinitionField.all DefinitionField.wireName name

/-- **What is answered strictly.**  Of products and of definitions, a request is answered with the asked stretch of what
it finds exactly when it passes all checks, and is refused for the first that it fails otherwise. -/
theorem strict_answers :
    (∀ (records : List Product) (q : Request ProductFilter), AnswersStrictly records q) ∧
    (∀ (records : List Definition) (q : Request DefinitionFilter), AnswersStrictly records q) ∧
    (∀ name, IsAddressable Product name ↔
      name ∈ ["id", "skuId", "createdAt", "updatedAt"] ∨ ∃ key, name = "attributes." ++ key) ∧
    ∀ name, IsAddressable Definition name ↔
      name ∈ ["id", "key", "name", "type", "group", "placeHolder", "description", "createdAt", "updatedAt"] :=
  ⟨answersStrictly_of_queryable, answersStrictly_of_queryable, isAddressable_product_iff, isAddressable_definition_iff⟩

/-- Three of four products match, and the second of them in the order of an attribute is on the page. -/
theorem strict_answers_shelf :
    let ranked : Product := ⟨"p1", "s1", 0, 0, [⟨"rank", .scalar (.bool true)⟩]⟩
    let other : Product := ⟨"p2", "s2", 0, 0, []⟩
    let bare : Product := ⟨"p3", "s3", 0, 0, []⟩
    let null : Product := ⟨"p4", "s4", 0, 0, [⟨"rank", .scalar .null⟩]⟩
    let q : Request ProductFilter :=
      ⟨some ⟨[(.id, ⟨[.ne (.string "p2")]⟩)], none, []⟩, some ⟨"attributes.rank", .asc⟩, some ⟨1, 1⟩⟩
    ∃ page, execute ⟨[ranked, other, bare, null], .strict⟩ q .never = .ok page ∧ page.data = [null] ∧ page.total = 3 ∧
      page.hasMore = true := by
  intro ranked other bare null q
  have hanswers := strict_answers.1 [ranked, other, bare, null] q
  have hsort : ∀ s ∈ q.sort, IsAddressable Product s.field := by
    rintro s ⟨⟩
    exact (strict_answers.2.2.1 _).2 (.inr ⟨"rank", rfl⟩)
  have hfilter : ∀ f ∈ q.filter, Queryable.unknownFields Product f = [] := by
    rintro f ⟨⟩
    rfl
  obtain ⟨page, hpage⟩ := hanswers.answered.2 ⟨by decide, by decide, hsort, hfilter⟩
  obtain ⟨found, hfound, htotal, -, hdata, -, -, hmore⟩ := hanswers.answer page hpage
  have hsorted : IsStableSort (recordOrder (.attribute "rank") .asc) [bare, null, ranked] [bare, null, ranked] :=
    isStableSort_self (by decide)
  have hfinds : Finds [ranked, other, bare, null] q [bare, null, ranked] :=
    ⟨some (.attribute "rank", .asc), .some ⟨rfl, rfl⟩,
      (hsorted.swap [bare] [] (by decide)).swap [] [null] (by decide)⟩
  obtain rfl := (hfound _).1 hfinds
  have hthree : page.total = 3 := htotal
  refine ⟨page, hpage, hdata, hthree, hmore.2 ?_⟩
  rw [hthree]
  decide

end Engine
end ProductQuery
