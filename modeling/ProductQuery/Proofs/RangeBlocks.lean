import ProductQuery.Proofs.MeasureConditions
import ProductQuery.Proofs.Sorting
/-!
# Proofs.RangeBlocks — ranges in sorted lists

Bounds on a number hold of numbers only, and of every number between two of which they hold (`Operator.IsBound`).
Sorting keeps numbers together and in order, so in a list sorted by what a range is asked of, the products that it selects
stand side by side, those below it before them and those above it behind (`ranges_select_blocks`).
-/
namespace ProductQuery

/-! ## Places in a list -/

section

variable {α : Type} {xs : List α}

/-- What stands between two elements that have a property has it too. -/
def IsBlock (xs : List α) (p : α → Prop) : Prop :=
  ∀ (i j k : Nat) (a b c : α), xs[i]? = some a → xs[j]? = some b → xs[k]? = some c → i ≤ j → j ≤ k → p a → p c → p b

/-- Whatever has the one property stands before whatever has the other. -/
def StandsBefore (xs : List α) (p q : α → Prop) : Prop :=
  ∀ (i j : Nat) (a b : α), xs[i]? = some a → xs[j]? = some b → p a → q b → i < j

theorem IsBlock.congr {p q : α → Prop} (h : IsBlock xs p) (hpq : ∀ a ∈ xs, p a ↔ q a) : IsBlock xs q := by
  intro i j k a b c hi hj hk hij hjk ha hc
  have hmem := fun {n : Nat} {d : α} (hd : xs[n]? = some d) => hpq d (List.mem_of_getElem? hd)
  exact (hmem hj).1 (h i j k a b c hi hj hk hij hjk ((hmem hi).2 ha) ((hmem hk).2 hc))

theorem rel_of_getElem?_of_le {r : α → α → Prop} (hrefl : ∀ a, r a a) (h : xs.Pairwise r) {i j : Nat} {a b : α}
    (hi : xs[i]? = some a) (hj : xs[j]? = some b) (hij : i ≤ j) : r a b := by
  obtain ⟨hilt, rfl⟩ := List.getElem?_eq_some_iff.1 hi
  obtain ⟨hjlt, rfl⟩ := List.getElem?_eq_some_iff.1 hj
  rcases Nat.lt_or_eq_of_le hij with hlt | rfl
  · exact List.pairwise_iff_getElem.1 h i j hilt hjlt hlt
  · exact hrefl _

/-- In a list in order, what is not in order with an element stands behind it. -/
theorem standsBefore_of_not_rel {r : α → α → Prop} {p q : α → Prop} (hrefl : ∀ a, r a a) (h : xs.Pairwise r)
    (hnot : ∀ a ∈ xs, ∀ b ∈ xs, p a → q b → ¬r b a) : StandsBefore xs p q := by
  intro i j a b hi hj ha hb
  rw [← Nat.not_le]
  exact fun hji => hnot a (List.mem_of_getElem? hi) b (List.mem_of_getElem? hj) ha hb
    (rel_of_getElem?_of_le hrefl h hj hi hji)

end

/-! ## Bounds on numbers -/

namespace Operator

inductive IsUpper : Operator → Prop
  | lt (n : Number) : IsUpper (.lt (.number n))
  | lte (n : Number) : IsUpper (.lte (.number n))

inductive IsLower : Operator → Prop
  | gt (n : Number) : IsLower (.gt (.number n))
  | gte (n : Number) : IsLower (.gte (.number n))

/-- A bound on a number from above, from below, or from both sides. -/
inductive IsBound : Operator → Prop
  | upper {op : Operator} (h : op.IsUpper) : IsBound op
  | lower {op : Operator} (h : op.IsLower) : IsBound op
  | eq (n : Number) : IsBound (.eq (.number n))

variable {op : Operator} {x y z : Binary64}

/-- What is above no bound on the number below it. -/
theorem IsUpper.holds_of_le (h : op.IsUpper) (hxy : x.value ≤ y.value) (hy : op.holds (.number y) = true) :
    op.holds (.number x) = true := by
  cases h with
  | lt n => exact decide_eq_true (Int.lt_of_le_of_lt hxy (of_decide_eq_true hy))
  | lte n => exact decide_eq_true (Int.le_trans hxy (of_decide_eq_true hy))

theorem IsLower.holds_of_le (h : op.IsLower) (hxy : x.value ≤ y.value) (hx : op.holds (.number x) = true) :
    op.holds (.number y) = true := by
  cases h with
  | gt n => exact decide_eq_true (Int.lt_of_lt_of_le (of_decide_eq_true hx) hxy)
  | gte n => exact decide_eq_true (Int.le_trans (of_decide_eq_true hx) hxy)

/-- **A bound holds of what is between two numbers of which it holds.** -/
theorem IsBound.holds_between (h : op.IsBound) (hxy : x.value ≤ y.value) (hyz : y.value ≤ z.value)
    (hx : op.holds (.number x) = true) (hz : op.holds (.number z) = true) : op.holds (.number y) = true := by
  cases h with
  | upper h => exact h.holds_of_le hyz hz
  | lower h => exact h.holds_of_le hxy hx
  | eq n =>
    have hxn : x.value = n.toBinary64.value := of_decide_eq_true hx
    have hzn : z.value = n.toBinary64.value := of_decide_eq_true hz
    exact decide_eq_true (by omega)

theorem exists_number_of_comparesTo {t : FieldValue} {v : Json} (holds : Binary64 → Binary64 → Bool)
    (h : t.comparesTo v holds = true) : ∃ x, t = .number x := by
  unfold FieldValue.comparesTo at h
  split at h
  · exact ⟨_, rfl⟩
  · cases h

/-- **A bound holds of numbers only.** -/
theorem IsBound.exists_number (h : op.IsBound) {t : FieldValue} (ht : op.holds t = true) : ∃ x, t = .number x := by
  cases h with
  | upper h =>
    cases h with
    | lt n => exact exists_number_of_comparesTo Binary64.lt ht
    | lte n => exact exists_number_of_comparesTo Binary64.le ht
  | lower h =>
    cases h with
    | gt n => exact exists_number_of_comparesTo (fun x y => y.lt x) ht
    | gte n => exact exists_number_of_comparesTo (fun x y => y.le x) ht
  | eq n =>
    cases (FieldValue.strictEq_iff _ _).1 ht
    exact ⟨_, rfl⟩

end Operator

/-- Bounds on a number, at least one. -/
structure Condition.IsRange (c : Condition) : Prop where
  nonempty : c.operators ≠ []
  bounds : ∀ op ∈ c.operators, op.IsBound

namespace Condition.IsRange

variable {c : Condition}

theorem exists_number (h : c.IsRange) {t : FieldValue} (ht : c.holds t = true) : ∃ x, t = .number x := by
  obtain ⟨op, hop⟩ := List.exists_mem_of_ne_nil _ h.nonempty
  exact (h.bounds op hop).exists_number (holds_iff.1 ht op hop)

theorem holds_between (h : c.IsRange) {x y z : Binary64} (hxy : x.value ≤ y.value) (hyz : y.value ≤ z.value)
    (hx : c.holds (.number x) = true) (hz : c.holds (.number z) = true) : c.holds (.number y) = true := by
  rw [holds_iff] at hx hz ⊢
  exact fun op hop => (h.bounds op hop).holds_between hxy hyz (hx op hop) (hz op hop)

/-- A range does not hold where there is no attribute. -/
theorem not_isNotExists (h : c.IsRange) : c.isNotExists = false := by
  unfold isNotExists
  split
  · rename_i hops
    have hbound : (Operator.exists (.bool false)).IsBound := h.bounds _ (by rw [hops]; exact List.mem_cons_self)
    rcases hbound with ⟨⟨⟩⟩ | ⟨⟨⟩⟩
  · rfl

end Condition.IsRange

/-! ## Numbers in order -/

namespace FieldValue

/-- **Between two numbers there are only numbers.** -/
theorem exists_number_between {x z : Binary64} {t : FieldValue} (hxt : order (.number x) t ≠ .gt)
    (htz : order t (.number z) ≠ .gt) : ∃ y, t = .number y ∧ x.value ≤ y.value ∧ y.value ≤ z.value := by
  cases t with
  | number y => exact ⟨y, rfl, Int.compare_ne_gt.1 hxt, Int.compare_ne_gt.1 htz⟩
  | undefined => exact absurd rfl hxt
  | null => exact absurd rfl hxt
  | bool b => exact absurd rfl hxt
  | string s => exact absurd rfl htz
  | array items => exact absurd rfl htz
  | structured m => exact absurd rfl htz

end FieldValue

/-! ## Products in a range -/

/-- The filter with one condition, on what a key sorts by. -/
def ProductKey.filter : ProductKey → Condition → ProductFilter
  | .field f, c => ⟨[(f, c)], none, []⟩
  | .attribute key, c => ⟨[], some [(key, .plain c)], []⟩

namespace Product

variable {p : Product} {key : ProductKey} {c : Condition}

/-- A product holds a number under a key, and an operator of a kind among those of a condition does not hold of it. -/
def Fails (p : Product) (key : ProductKey) (c : Condition) (kind : Operator → Prop) : Prop :=
  ∃ x, Queryable.sortValue p key = .number x ∧ ∃ op ∈ c.operators, kind op ∧ op.holds (.number x) = false

/-- A product that holds no measure under a key is in a range if what it sorts by is. -/
theorem satisfies_filter_iff (hc : c.IsRange)
    (hkey : ∀ k, key = .attribute k → ∀ m, p.attributeValue k ≠ .structured m) :
    p.satisfies (key.filter c) = true ↔ c.holds (Queryable.sortValue p key) = true := by
  cases key with
  | field f =>
    show (c.holds (p.field f) && true && true) = true ↔ c.holds (p.field f) = true
    rw [Bool.and_true, Bool.and_true]
  | «attribute» k =>
    show (true && (p.attributeSatisfies k (.plain c) && true)) = true ↔ c.holds (p.attributeValue k) = true
    rw [Bool.true_and, Bool.and_true]
    have hmeasure := hkey k rfl
    unfold attributeValue at hmeasure ⊢
    unfold attributeSatisfies
    cases ha : p.attribute? k with
    | none =>
      show c.isNotExists = true ↔ c.holds .undefined = true
      rw [hc.not_isNotExists]
      exact iff_of_false Bool.false_ne_true fun h => by cases (hc.exists_number h).choose_spec
    | some a =>
      have hvalue : ∀ m, FieldValue.ofAttribute a.value ≠ .structured m := by simpa [ha] using hmeasure
      show c.holdsWithin (.ofAttribute a.value) = true ↔ c.holds (.ofAttribute a.value) = true
      rw [Condition.holdsWithin_eq_holds hvalue]

end Product

/-! ## Sorted products -/

namespace Engine

variable {products : List Product} {key : ProductKey}

theorem recordOrder_self_ne_gt (key : ProductKey) (o : SortOrder) (p : Product) : recordOrder key o p p ≠ .gt := by
  have heq : recordOrder key o p p = .eq := Std.ReflCmp.compare_self
  rw [heq]
  exact Ordering.noConfusion

/-- In ascending order a greater number stands behind a lesser one. -/
theorem standsBefore_of_lt {p q : Product → Prop}
    (h : ∀ a ∈ products, ∀ b ∈ products, p a → q b → ∃ x y, Queryable.sortValue a key = .number x ∧
      Queryable.sortValue b key = .number y ∧ x.value < y.value) : StandsBefore (sortBy key .asc products) p q := by
  have hsorted := isStableSort_sortBy key .asc products
  refine standsBefore_of_not_rel (recordOrder_self_ne_gt key .asc) hsorted.sorted fun a ha b hb hpa hqb hle => ?_
  obtain ⟨x, y, hx, hy, hlt⟩ := h a (hsorted.perm.mem_iff.1 ha) b (hsorted.perm.mem_iff.1 hb) hpa hqb
  unfold recordOrder at hle
  rw [hx, hy] at hle
  exact absurd (Int.compare_ne_gt.1 hle) (Int.not_le_of_gt hlt)

/-- **In a list in order, in either direction, what holds of numbers and of all between two of them makes a block.** -/
theorem isBlock_sortBy {p : FieldValue → Prop} (hnumber : ∀ t, p t → ∃ x, t = .number x)
    (hbetween : ∀ {x y z : Binary64}, x.value ≤ y.value → y.value ≤ z.value → p (.number x) → p (.number z) →
      p (.number y)) (o : SortOrder) : IsBlock (sortBy key o products) (fun r => p (Queryable.sortValue r key)) := by
  intro i j k a b c hi hj hk hij hjk ha hc
  obtain ⟨x, hx⟩ := hnumber _ ha
  obtain ⟨z, hz⟩ := hnumber _ hc
  have hsorted := (isStableSort_sortBy key o products).sorted
  have hab := rel_of_getElem?_of_le (recordOrder_self_ne_gt key o) hsorted hi hj hij
  have hbc := rel_of_getElem?_of_le (recordOrder_self_ne_gt key o) hsorted hj hk hjk
  unfold recordOrder at hab hbc
  rw [hx] at ha hab
  rw [hz] at hc hbc
  cases o with
  | asc =>
    obtain ⟨y, hy, hxy, hyz⟩ := FieldValue.exists_number_between hab hbc
    rw [hy]
    exact hbetween hxy hyz ha hc
  | desc =>
    rw [FieldValue.compareBy_desc] at hab hbc
    obtain ⟨y, hy, hzy, hyx⟩ := FieldValue.exists_number_between hbc hab
    rw [hy]
    exact hbetween hzy hyx hc ha

end Engine

/-- **A range selects a block of the sorted products.**  In a list that is sorted by a key, in either direction,
whatever stands between two products that are in a range of the key is in it too.  In ascending order what a bound from
above keeps out stands behind all of them, and what a bound from below keeps out before.  The products must not hold
measures under the key, of which components could be in the range. -/
theorem ranges_select_blocks (key : ProductKey) (c : Condition) (hc : c.IsRange) (products : List Product)
    (hkey : ∀ k, key = .attribute k → ∀ p ∈ products, ∀ m, p.attributeValue k ≠ .structured m) :
    (∀ o, IsBlock (Engine.sortBy key o products) (fun p => p.satisfies (key.filter c) = true)) ∧
    StandsBefore (Engine.sortBy key .asc products) (fun p => p.satisfies (key.filter c) = true)
      (fun p => p.Fails key c Operator.IsUpper) ∧
    StandsBefore (Engine.sortBy key .asc products) (fun p => p.Fails key c Operator.IsLower)
      (fun p => p.satisfies (key.filter c) = true) := by
  have hselects : ∀ p ∈ products, p.satisfies (key.filter c) = true ↔ c.holds (Queryable.sortValue p key) = true :=
    fun p hp => Product.satisfies_filter_iff hc fun k hk => hkey k hk p hp
  have hin : ∀ p ∈ products, p.satisfies (key.filter c) = true →
      ∃ x, Queryable.sortValue p key = .number x ∧ ∀ op ∈ c.operators, op.holds (.number x) = true := by
    intro p hp h
    have hholds := (hselects p hp).1 h
    obtain ⟨x, hx⟩ := hc.exists_number hholds
    rw [hx] at hholds
    exact ⟨x, hx, Condition.holds_iff.1 hholds⟩
  refine ⟨fun o => ?_, ?_, ?_⟩
  · have hblock : IsBlock (Engine.sortBy key o products) (fun p => c.holds (Queryable.sortValue p key) = true) :=
      Engine.isBlock_sortBy (p := fun t => c.holds t = true) (fun _ => hc.exists_number) hc.holds_between o
    refine hblock.congr fun p hp => ?_
    exact (hselects p ((Engine.isStableSort_sortBy key o products).perm.mem_iff.1 hp)).symm
  · refine Engine.standsBefore_of_lt fun p hp q hq hsatisfies hfails => ?_
    obtain ⟨x, hx, hholds⟩ := hin p hp hsatisfies
    obtain ⟨y, hy, op, hop, hupper, hnot⟩ := hfails
    refine ⟨x, y, hx, hy, Int.not_le.1 fun hyx => ?_⟩
    cases hnot.symm.trans (hupper.holds_of_le hyx (hholds op hop))
  · refine Engine.standsBefore_of_lt fun q hq p hp hfails hsatisfies => ?_
    obtain ⟨x, hx, hholds⟩ := hin p hp hsatisfies
    obtain ⟨y, hy, op, hop, hlower, hnot⟩ := hfails
    refine ⟨y, x, hy, hx, Int.not_le.1 fun hxy => ?_⟩
    cases hnot.symm.trans (hlower.holds_of_le hxy (hholds op hop))

/-- Sorted by their rank, the products with one from two up to below five stand side by side, and one with five stands
behind them. -/
theorem ranges_select_blocks_shelf :
    let item : String → Scalar → Product := fun id rank => ⟨id, "s", 0, 0, [⟨"rank", .scalar rank⟩]⟩
    let five : Product := item "p1" (.ofInt64 5)
    let two : Product := item "p2" (.ofInt64 2)
    let shelf : List Product := [five, item "p3" (.string "4"), two, ⟨"p4", "s", 0, 0, []⟩, item "p5" (.ofInt64 3)]
    let range : Condition := ⟨[.gte (.number (.ofInt64 2)), .lt (.number (.ofInt64 5))]⟩
    let key : ProductKey := .attribute "rank"
    range.IsRange ∧ IsBlock (Engine.sortBy key .desc shelf) (fun p => p.satisfies (key.filter range) = true) ∧
      two.satisfies (key.filter range) = true ∧ five.Fails key range Operator.IsUpper ∧
      ∀ i j : Nat, (Engine.sortBy key .asc shelf)[i]? = some two → (Engine.sortBy key .asc shelf)[j]? = some five →
        i < j := by
  intro item five two shelf range key
  have hrange : range.IsRange := by
    refine ⟨List.cons_ne_nil _ _, ?_⟩
    simp only [range, List.forall_mem_cons]
    exact ⟨.lower (.gte _), .upper (.lt _), List.forall_mem_nil _⟩
  have hvalues : ∀ k, key = .attribute k → ∀ p ∈ shelf, ∀ m, p.attributeValue k ≠ .structured m := by
    intro k hk
    obtain rfl : "rank" = k := ProductKey.attribute.inj hk
    simp only [shelf, List.forall_mem_cons]
    refine ⟨?_, ?_, ?_, ?_, ?_, List.forall_mem_nil _⟩ <;>
    · intro m h
      cases h
  obtain ⟨hblock, hbehind, -⟩ := ranges_select_blocks key range hrange shelf hvalues
  have htwo : two.satisfies (key.filter range) = true := by decide +kernel
  have hfive : five.Fails key range Operator.IsUpper :=
    ⟨_, rfl, .lt (.number (.ofInt64 5)), List.mem_cons_of_mem _ List.mem_cons_self, .lt _, by decide +kernel⟩
  exact ⟨hrange, hblock .desc, htwo, hfive, fun i j hi hj => hbehind i j two five hi hj htwo hfive⟩

end ProductQuery
