import ProductQuery.Proofs.StrictQuery
/-!
# Proofs.PageWalk — a result taken page by page

A client who wants all of a result asks for one page after the other, each behind the last, as long as there are more
(`Walk`).  All pages are cut from one list, what the request finds (`fetch_eq_pageOf`), so neighbouring pages join
(`data_pageOf_append`), the walk ends (`exists_walk`), and its pages hold every matching record once (`walk_exhausts`).
-/
namespace ProductQuery

namespace Request

variable {F : Type}

/-- The same request for another page. -/
def onPage (q : Request F) (offset limit : Int64) : Request F := { q with pagination := some ⟨offset, limit⟩ }

end Request

namespace Engine

variable {R F K : Type} [Queryable R F K] {e : Engine R} {q : Request F} {found : List R}

/-- The page of a request at an offset. -/
def fetch (e : Engine R) (q : Request F) (offset limit : Int64) : Except Refusal (Page R) :=
  e.execute (q.onPage offset limit) .never

/-- The pages that a client gets from an offset on, asking for the page behind as long as there are more records. -/
inductive Walk (e : Engine R) (q : Request F) (limit : Int64) : Int64 → List (Page R) → Prop
  | last {offset : Int64} {page : Page R} (hpage : e.fetch q offset limit = .ok page) (hmore : page.hasMore = false) :
      Walk e q limit offset [page]
  | next {offset : Int64} {page : Page R} {rest : List (Page R)} (hpage : e.fetch q offset limit = .ok page)
      (hmore : page.hasMore = true) (hrest : Walk e q limit (offset + limit) rest) : Walk e q limit offset (page :: rest)

/-- A client has no choice. -/
theorem Walk.unique {limit : Int64} : ∀ {offset : Int64} {a b : List (Page R)}, Walk e q limit offset a →
    Walk e q limit offset b → a = b
  | _, _, _, .last ha _, .last hb _ => by rw [Except.ok.inj (ha.symm.trans hb)]
  | _, _, _, .last ha hmore, .next hb hmore' _ => by
    obtain rfl := Except.ok.inj (ha.symm.trans hb)
    rw [hmore] at hmore'
    cases hmore'
  | _, _, _, .next ha hmore _, .last hb hmore' => by
    obtain rfl := Except.ok.inj (ha.symm.trans hb)
    rw [hmore] at hmore'
    cases hmore'
  | _, _, _, .next ha _ hrest, .next hb _ hrest' => by
    obtain rfl := Except.ok.inj (ha.symm.trans hb)
    rw [hrest.unique hrest']

/-! ## Pages of one list -/

/-- The page of a list at an offset. -/
def pageOf (found : List R) (offset limit : Int64) : Page R :=
  ⟨(found.drop offset.toInt.toNat).take limit.toInt.toNat, found.length, ⟨Window.clamp offset, Window.clamp limit⟩⟩

theorem hasMore_pageOf (found : List R) (offset limit : Int64) : (pageOf found offset limit).hasMore = true ↔
    offset.toInt.toNat + limit.toInt.toNat < found.length := by
  have hexact : (pageOf found offset limit).window.IsExact := Window.isExact_clamp ⟨offset, limit⟩
  rw [Page.hasMore, Window.hasMore_iff_of_exact hexact, pageOf, Window.toNat_clamp, Window.toNat_clamp]

/-- **All pages of a request are cut from what it finds.** -/
theorem fetch_eq_pageOf (hsort : ∀ s ∈ q.sort, IsAddressable R s.field)
    (hfilter : ∀ f ∈ q.filter, Queryable.unknownFields R f = []) (hfound : Finds e.records q found) {offset limit : Int64}
    (ho : 0 ≤ offset.toInt) (hl : 0 ≤ limit.toInt) : e.fetch q offset limit = .ok (pageOf found offset limit) := by
  have hacceptable : IsAcceptable R (q.onPage offset limit) := ⟨ho, hl, hsort, hfilter⟩
  obtain ⟨found', hfound', hexec⟩ := execute_of_isAcceptable e.policy e.records hacceptable
  obtain rfl : found' = found := Finds.unique hfound' hfound
  exact hexec

/-- What a request finds does not depend on the page. -/
theorem exists_finds (records : List R) (hsort : ∀ s ∈ q.sort, IsAddressable R s.field)
    (hfilter : ∀ f ∈ q.filter, Queryable.unknownFields R f = []) : ∃ found, Finds records q found := by
  have hacceptable : IsAcceptable R (q.onPage 0 0) := ⟨Int.le_refl 0, Int.le_refl 0, hsort, hfilter⟩
  obtain ⟨found, hfound, -⟩ := execute_of_isAcceptable .strict records hacceptable
  exact ⟨found, hfound⟩

theorem toInt_add_of_lt {a b : Int64} (ha : 0 ≤ a.toInt) (hb : 0 ≤ b.toInt)
    (h : a.toInt + b.toInt < 0x8000000000000000) : (a + b).toInt = a.toInt + b.toInt := by
  rw [Int64.toInt_add]
  exact Int.bmod_eq_of_le_mul_two (by omega) (by omega)

/-- **Neighbouring pages join.** -/
theorem data_pageOf_append (found : List R) {o l₁ l₂ : Int64} (ho : 0 ≤ o.toInt) (h₁ : 0 ≤ l₁.toInt) (h₂ : 0 ≤ l₂.toInt)
    (hstart : o.toInt + l₁.toInt < 0x8000000000000000) (hlength : l₁.toInt + l₂.toInt < 0x8000000000000000) :
    (pageOf found o l₁).data ++ (pageOf found (o + l₁) l₂).data = (pageOf found o (l₁ + l₂)).data := by
  simp only [pageOf]
  rw [toInt_add_of_lt ho h₁ hstart, toInt_add_of_lt h₁ h₂ hlength, Int.toNat_add ho h₁, Int.toNat_add h₁ h₂,
    List.take_add, List.drop_drop]

/-! ## The walk -/

/-- The pages of a list from an offset on: as many as needed, all but the last full. -/
structure Covers (found : List R) (offset limit : Nat) (pages : List (Page R)) : Prop where
  count : pages.length = max 1 ((found.length - offset + limit - 1) / limit)
  total : ∀ p ∈ pages, p.total = found.length
  start : ∀ k (h : k < pages.length), pages[k].window.offset.toNat = offset + k * limit
  full : ∀ p ∈ pages.dropLast, p.data.length = limit
  data : pages.flatMap Page.data = found.drop offset

/-- A page with nothing behind it is all that is left. -/
theorem Covers.last {offset limit : Int64} (hl : 1 ≤ limit.toInt) (h : (pageOf found offset limit).hasMore = false) :
    Covers found offset.toInt.toNat limit.toInt.toNat [pageOf found offset limit] := by
  have hend : found.length ≤ offset.toInt.toNat + limit.toInt.toNat := by
    rw [← Bool.not_eq_true, hasMore_pageOf] at h
    omega
  refine ⟨?_, fun p hp => ?_, fun k hk => ?_, fun p hp => (by cases hp), ?_⟩
  · have hpos : 0 < limit.toInt.toNat := by omega
    have hle : (found.length - offset.toInt.toNat + limit.toInt.toNat - 1) / limit.toInt.toNat ≤ 1 := by
      rw [Nat.div_le_iff_le_mul hpos]
      omega
    rw [List.length_singleton]
    omega
  · rw [List.mem_singleton.1 hp, pageOf]
  · obtain rfl : k = 0 := by rw [List.length_singleton] at hk; omega
    simp [pageOf]
  · rw [List.flatMap_singleton, pageOf, List.take_of_length_le (by rw [List.length_drop]; omega)]

/-- A page with something behind it is full, and the pages from its end on cover the rest. -/
theorem Covers.next {offset limit : Int64} (ho : 0 ≤ offset.toInt) (hl : 1 ≤ limit.toInt)
    (hsize : found.length < 0x8000000000000000) (h : (pageOf found offset limit).hasMore = true) {rest : List (Page R)}
    (hrest : Covers found (offset + limit).toInt.toNat limit.toInt.toNat rest) :
    Covers found offset.toInt.toNat limit.toInt.toNat (pageOf found offset limit :: rest) := by
  have hmore := (hasMore_pageOf found offset limit).1 h
  have hpos : 0 < limit.toInt.toNat := by omega
  have hnext : (offset + limit).toInt.toNat = offset.toInt.toNat + limit.toInt.toNat := by
    rw [toInt_add_of_lt ho (by omega) (by omega), Int.toNat_add ho (by omega)]
  rw [hnext] at hrest
  have hne : rest ≠ [] := by
    rintro rfl
    have hcount := hrest.count
    rw [List.length_nil] at hcount
    omega
  refine ⟨?_, fun p hp => ?_, fun k hk => ?_, fun p hp => ?_, ?_⟩
  · have hsplit : found.length - offset.toInt.toNat + limit.toInt.toNat - 1 =
        found.length - (offset.toInt.toNat + limit.toInt.toNat) + limit.toInt.toNat - 1 + limit.toInt.toNat := by omega
    have hone : 1 ≤ (found.length - (offset.toInt.toNat + limit.toInt.toNat) + limit.toInt.toNat - 1) /
        limit.toInt.toNat := by
      rw [Nat.one_le_div_iff hpos]
      omega
    rw [List.length_cons, hrest.count, hsplit, Nat.add_div_right _ hpos]
    omega
  · rcases List.mem_cons.1 hp with rfl | hp
    · rfl
    · exact hrest.total p hp
  · cases k with
    | zero => simp [pageOf]
    | succ k =>
      rw [List.getElem_cons_succ, hrest.start k (Nat.lt_of_succ_lt_succ hk), Nat.succ_mul]
      omega
  · rw [List.dropLast_cons_of_ne_nil hne] at hp
    rcases List.mem_cons.1 hp with rfl | hp
    · rw [pageOf, List.length_take, List.length_drop]
      omega
    · exact hrest.full p hp
  · rw [List.flatMap_cons, hrest.data, pageOf, ← List.drop_drop, List.take_append_drop]

/-- **A walk from any offset ends**, and covers what is left. -/
theorem exists_walk (hfetch : ∀ o l : Int64, 0 ≤ o.toInt → 0 ≤ l.toInt → e.fetch q o l = .ok (pageOf found o l))
    (hsize : found.length < 0x8000000000000000) {limit : Int64} (hl : 1 ≤ limit.toInt) : ∀ {offset : Int64}, 0 ≤ offset.toInt →
      ∃ pages, Walk e q limit offset pages ∧ Covers found offset.toInt.toNat limit.toInt.toNat pages := by
  -- The walk goes on only while records are left, and each page leaves fewer.
  suffices h : ∀ (left : Nat) {offset : Int64}, 0 ≤ offset.toInt → found.length - offset.toInt.toNat ≤ left →
      ∃ pages, Walk e q limit offset pages ∧ Covers found offset.toInt.toNat limit.toInt.toNat pages from
    fun {_} ho => h _ ho (Nat.le_refl _)
  intro left
  induction left with
  | zero =>
    intro offset ho hleft
    have hmore : (pageOf found offset limit).hasMore = false := by
      rw [← Bool.not_eq_true, hasMore_pageOf]
      omega
    exact ⟨_, .last (hfetch offset limit ho (by omega)) hmore, .last hl hmore⟩
  | succ left ih =>
    intro offset ho hleft
    have hpage := hfetch offset limit ho (by omega)
    cases hmore : (pageOf found offset limit).hasMore with
    | false => exact ⟨_, .last hpage hmore, .last hl hmore⟩
    | true =>
      have hbehind := (hasMore_pageOf found offset limit).1 hmore
      have hnext := toInt_add_of_lt ho (by omega : 0 ≤ limit.toInt) (by omega)
      obtain ⟨rest, hrest, hcovers⟩ := @ih (offset + limit) (by omega) (by omega)
      exact ⟨_, .next hpage hmore hrest, .next ho hl hsize hmore hcovers⟩

/-! ## What a walk returns -/

/-- The pages of a walk from the start of a result. -/
structure Exhausts (e : Engine R) (q : Request F) (limit : Int64) (pages : List (Page R)) : Prop where
  /-- The walk ends with these pages, and with no others. -/
  walk : ∀ others, Walk e q limit 0 others ↔ others = pages
  /-- As many pages as it takes, and one at least. -/
  count : pages.length =
    max 1 ((e.records.countP (matchesRequest q) + limit.toInt.toNat - 1) / limit.toInt.toNat)
  total : ∀ p ∈ pages, p.total = e.records.countP (matchesRequest q)
  start : ∀ k (h : k < pages.length), pages[k].window.offset.toNat = k * limit.toInt.toNat
  full : ∀ p ∈ pages.dropLast, p.data.length = limit.toInt.toNat
  /-- Every matching record once. -/
  once : (pages.flatMap Page.data).Perm (e.records.filter (matchesRequest q))
  /-- One page for all holds the same. -/
  whole : ∀ all : Int64, (e.records.countP (matchesRequest q) : Int) ≤ all.toInt →
    ∃ page, e.fetch q 0 all = .ok page ∧ page.data = pages.flatMap Page.data

/-- **A walk through the pages returns every matching record once, and ends**, however many records a page may hold.  A
list of records that is kept in memory has fewer than `0x8000000000000000`.  And wherever a stretch of a result is cut
in two, its two pages join to the one. -/
theorem walk_exhausts (e : Engine R) (q : Request F) (hsort : ∀ s ∈ q.sort, IsAddressable R s.field)
    (hfilter : ∀ f ∈ q.filter, Queryable.unknownFields R f = []) :
    (e.records.length < 0x8000000000000000 → ∀ limit : Int64, 1 ≤ limit.toInt → ∃ pages, Exhausts e q limit pages) ∧
    ∀ o l₁ l₂ : Int64, 0 ≤ o.toInt → 0 ≤ l₁.toInt → 0 ≤ l₂.toInt → o.toInt + l₁.toInt < 0x8000000000000000 →
      l₁.toInt + l₂.toInt < 0x8000000000000000 → ∃ a b c, e.fetch q o l₁ = .ok a ∧ e.fetch q (o + l₁) l₂ = .ok b ∧
        e.fetch q o (l₁ + l₂) = .ok c ∧ a.data ++ b.data = c.data := by
  obtain ⟨found, hfound⟩ := exists_finds e.records hsort hfilter
  have hfetch : ∀ o l : Int64, 0 ≤ o.toInt → 0 ≤ l.toInt → e.fetch q o l = .ok (pageOf found o l) :=
    fun o l => fetch_eq_pageOf hsort hfilter hfound
  have hlength := hfound.length_eq
  obtain ⟨resolved, -, harranged⟩ := id hfound
  have hperm := harranged.perm
  constructor
  · intro hsize limit hl
    have hshort : found.length < 0x8000000000000000 := by
      rw [hlength]
      exact Nat.lt_of_le_of_lt List.countP_le_length hsize
    have hzero : 0 ≤ (0 : Int64).toInt := Int.le_refl 0
    obtain ⟨pages, hwalk, hcovers⟩ := exists_walk hfetch hshort hl hzero
    have hdata : pages.flatMap Page.data = found := hcovers.data
    refine ⟨pages, ⟨fun others => ⟨fun h => h.unique hwalk, fun h => h ▸ hwalk⟩, ?_, ?_, ?_, hcovers.full, ?_, ?_⟩⟩
    · rw [hcovers.count, hlength]
      rfl
    · exact fun p hp => (hcovers.total p hp).trans hlength
    · exact fun k hk => (hcovers.start k hk).trans (Nat.zero_add _)
    · rw [hdata]
      exact hperm
    · intro all hall
      refine ⟨_, hfetch 0 all (Int.le_refl 0) (by omega), ?_⟩
      rw [hdata]
      exact List.take_of_length_le (by rw [List.length_drop]; omega)
  · intro o l₁ l₂ ho h₁ h₂ hstart hstretch
    refine ⟨_, _, _, hfetch o l₁ ho h₁, hfetch _ l₂ ?_ h₂, hfetch o _ ho ?_, data_pageOf_append found ho h₁ h₂ hstart hstretch⟩
    · rw [toInt_add_of_lt ho h₁ hstart]; omega
    · rw [toInt_add_of_lt h₁ h₂ hstretch]; omega

/-- Three products with a rank, two to a page, in descending order: two pages hold them, and the page of the third joins
the page of the first two. -/
theorem walk_exhausts_shelf :
    let shelf : Engine Product := ⟨[⟨"p1", "s1", 0, 0, [⟨"rank", .scalar (.bool true)⟩]⟩,
      ⟨"p2", "s2", 0, 0, [⟨"rank", .scalar .null⟩]⟩, ⟨"p3", "s3", 0, 0, []⟩], .lenient⟩
    let q : Request ProductFilter :=
      ⟨some ⟨[(.id, ⟨[.ne (.string "p9")]⟩)], none, []⟩, some ⟨"attributes.rank", .desc⟩, none⟩
    (∃ pages, Exhausts shelf q 2 pages ∧ pages.length = 2) ∧ ∃ a b c, shelf.fetch q 0 2 = .ok a ∧
      shelf.fetch q 2 1 = .ok b ∧ shelf.fetch q 0 3 = .ok c ∧ a.data ++ b.data = c.data := by
  intro shelf q
  have hsort : ∀ s ∈ q.sort, IsAddressable Product s.field := by
    rintro s ⟨⟩
    exact (isAddressable_product_iff _).2 (.inr ⟨"rank", rfl⟩)
  have hfilter : ∀ f ∈ q.filter, Queryable.unknownFields Product f = [] := by
    rintro f ⟨⟩
    rfl
  obtain ⟨hwalk, hjoin⟩ := walk_exhausts shelf q hsort hfilter
  obtain ⟨pages, hpages⟩ := hwalk (by decide) 2 (by decide)
  exact ⟨⟨pages, hpages, hpages.count.trans (by decide)⟩,
    hjoin 0 2 1 (by decide) (by decide) (by decide) (by decide) (by decide)⟩

end Engine
end ProductQuery
