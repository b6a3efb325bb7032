import ProductQuery.Proofs.FilterMeaning
import ProductQuery.Proofs.Sorting
/-!
# Proofs.ScalarOrder — filters and sorts agree on scalars

Equality and order are decided twice: an operator compares a value with a piece of JSON, a sort compares two values.  On
scalars the two agree.  What ties is what equality does not tell apart (`compareBy_eq_iff_meets_eq`), the range operators
say how numbers sort, and they say nothing of anything else (`operators_agree_with_order`).
-/
namespace ProductQuery

namespace Scalar

/-- An operator holds of a scalar with another scalar as its operand. -/
def Meets (a : Scalar) (op : Json → Operator) (b : Scalar) : Prop := (op b.toJson).holds (.ofScalar a) = true

instance (a : Scalar) (op : Json → Operator) (b : Scalar) : Decidable (a.Meets op b) :=
  inferInstanceAs (Decidable (_ = true))

def IsNumber (s : Scalar) : Prop := ∃ n, s = .number n

variable {a b : Scalar}

theorem meets_eq_iff : a.Meets Operator.eq b ↔ (FieldValue.ofScalar a).Equals b.toJson :=
  FieldValue.strictEq_iff _ _

/-! ## Equality -/

/-- Only values of one type are equal. -/
theorem rank_eq_of_equals (h : (FieldValue.ofScalar a).Equals b.toJson) :
    (FieldValue.ofScalar a).rank = (FieldValue.ofScalar b).rank := by
  cases a <;> cases b <;> cases h <;> rfl

theorem order_eq_iff_equals_within (h : (FieldValue.ofScalar a).rank = (FieldValue.ofScalar b).rank) :
    (FieldValue.ofScalar a).order (.ofScalar b) = .eq ↔ (FieldValue.ofScalar a).Equals b.toJson := by
  cases a <;> cases b <;> cases h
  case null => exact iff_of_true rfl .null
  case bool x y =>
    refine Std.compare_eq_iff_eq.trans ⟨?_, fun h => by cases h; rfl⟩
    rintro rfl
    exact .bool x
  case number m n => exact Int.compare_eq_eq.trans ⟨.number, fun h => by cases h; assumption⟩
  case string s t =>
    refine Std.compare_eq_iff_eq.trans ⟨?_, fun h => by cases h; rfl⟩
    rintro rfl
    exact .string s

/-- **Two scalars tie exactly if equality does not tell them apart**, in either direction. -/
theorem compareBy_eq_iff_meets_eq (o : SortOrder) (a b : Scalar) :
    FieldValue.compareBy o (.ofScalar a) (.ofScalar b) = .eq ↔ a.Meets Operator.eq b := by
  have hdirection : FieldValue.compareBy o (.ofScalar a) (.ofScalar b) = .eq ↔
      (FieldValue.ofScalar a).order (.ofScalar b) = .eq := by
    cases o with
    | asc => exact Iff.rfl
    | desc => exact Ordering.swap_eq_eq
  rw [hdirection, meets_eq_iff]
  -- Values of two types are apart for both sides: by their ranks, and since no value equals one of another type.
  by_cases hrank : (FieldValue.ofScalar a).rank = (FieldValue.ofScalar b).rank
  · exact order_eq_iff_equals_within hrank
  · refine iff_of_false (fun h => ?_) (mt rank_eq_of_equals hrank)
    rw [FieldValue.order_of_rank_ne _ _ hrank] at h
    exact hrank (Nat.compare_eq_eq.1 h)

/-! ## Ranges -/

/-- The operators that compare numbers. -/
def ranges : List (Json → Operator) := [.gt, .gte, .lt, .lte]

theorem isNumber_of_comparesTo (holds : Binary64 → Binary64 → Bool)
    (h : (FieldValue.ofScalar a).comparesTo b.toJson holds = true) : a.IsNumber ∧ b.IsNumber := by
  cases a <;> cases b
  case number.number m n => exact ⟨⟨m, rfl⟩, n, rfl⟩
  all_goals cases h

/-- **A range holds of numbers only.** -/
theorem isNumber_of_meets : ∀ op ∈ ranges, a.Meets op b → a.IsNumber ∧ b.IsNumber := by
  simp only [ranges, List.forall_mem_cons]
  exact ⟨isNumber_of_comparesTo (fun x y => y.lt x), isNumber_of_comparesTo (fun x y => y.le x),
    isNumber_of_comparesTo Binary64.lt, isNumber_of_comparesTo Binary64.le, List.forall_mem_nil _⟩

/-- What the operators say of two numbers, and what the ascending order does. -/
structure NumbersAgree (a b : Scalar) : Prop where
  /-- Exactly one of three holds. -/
  one : [Operator.lt, Operator.eq, Operator.gt].countP (fun op => a.Meets op b) = 1
  less : FieldValue.compareBy .asc (.ofScalar a) (.ofScalar b) = .lt ↔ a.Meets Operator.lt b
  greater : FieldValue.compareBy .asc (.ofScalar a) (.ofScalar b) = .gt ↔ a.Meets Operator.gt b
  atLeast : a.Meets Operator.gte b ↔ a.Meets Operator.gt b ∨ a.Meets Operator.eq b
  atMost : a.Meets Operator.lte b ↔ a.Meets Operator.lt b ∨ a.Meets Operator.eq b

/-- **Numbers compare in filters as they sort.** -/
theorem numbersAgree (m n : Number) : NumbersAgree (.number m) (.number n) := by
  have hlt : (Scalar.number m).Meets Operator.lt (.number n) ↔ m.toBinary64.value < n.toBinary64.value :=
    decide_eq_true_iff
  have heq : (Scalar.number m).Meets Operator.eq (.number n) ↔ m.toBinary64.value = n.toBinary64.value :=
    decide_eq_true_iff
  have hgt : (Scalar.number m).Meets Operator.gt (.number n) ↔ n.toBinary64.value < m.toBinary64.value :=
    decide_eq_true_iff
  have hge : (Scalar.number m).Meets Operator.gte (.number n) ↔ n.toBinary64.value ≤ m.toBinary64.value :=
    decide_eq_true_iff
  have hle : (Scalar.number m).Meets Operator.lte (.number n) ↔ m.toBinary64.value ≤ n.toBinary64.value :=
    decide_eq_true_iff
  refine ⟨?_, Int.compare_eq_lt.trans hlt.symm, Int.compare_eq_gt.trans hgt.symm, ?_, ?_⟩
  · simp only [List.countP_cons, List.countP_nil, decide_eq_true_eq, hlt, heq, hgt]
    rcases Int.lt_trichotomy m.toBinary64.value n.toBinary64.value with h | h | h
    · rw [if_pos h, if_neg (Int.ne_of_lt h), if_neg (Int.lt_asymm h)]
    · rw [if_pos h, if_neg (Int.not_lt_of_ge (Int.le_of_eq h.symm)), if_neg (Int.not_lt_of_ge (Int.le_of_eq h))]
    · rw [if_pos h, if_neg (Int.lt_asymm h), if_neg (Int.ne_of_gt h)]
  · rw [hge, hgt, heq]
    omega
  · rw [hle, hlt, heq]
    omega

/-- **Filters and sorts agree on scalars.**  Two scalars tie exactly if `$eq` does not tell them apart, so no sort ties
two records, in either direction, that hold scalars which it does, and none parts two that hold scalars which it does
not.  Numbers compare in filters as they sort, and ranges hold of nothing else.  A scalar is in a list if it is equal to
one of its items. -/
theorem operators_agree_with_order (a b : Scalar) :
    (FieldValue.compareBy .asc (.ofScalar a) (.ofScalar b) = .eq ↔ a.Meets Operator.eq b) ∧
    (a.IsNumber → b.IsNumber → NumbersAgree a b) ∧
    (¬(a.IsNumber ∧ b.IsNumber) → ∀ op ∈ ranges, ¬a.Meets op b) ∧
    (∀ candidates : List Json, (Operator.among (.array candidates)).holds (.ofScalar a) = true ↔
      ∃ c ∈ candidates, (Operator.eq c).holds (.ofScalar a) = true) ∧
    ∀ {R F K : Type} [Queryable R F K] (key : K) (o : SortOrder) (r s : R),
      Queryable.sortValue r key = .ofScalar a → Queryable.sortValue s key = .ofScalar b →
        (Engine.recordOrder key o r s = .eq ↔ a.Meets Operator.eq b) := by
  refine ⟨compareBy_eq_iff_meets_eq .asc a b, ?_, fun hno op hop h => hno (isNumber_of_meets op hop h), fun candidates => ?_,
    fun key o r s hr hs => ?_⟩
  · rintro ⟨m, rfl⟩ ⟨n, rfl⟩
    exact numbersAgree m n
  · exact List.any_eq_true
  · rw [Engine.recordOrder, hr, hs]
    exact compareBy_eq_iff_meets_eq o a b

/-- Two integers that share a double tie, and so do the products that have them; a text and a number compare in no
range. -/
theorem operators_agree_with_order_shared :
    let a : Scalar := .ofInt64 9007199254740993
    let b : Scalar := .ofInt64 9007199254740992
    let p : Product := ⟨"p", "s", 0, 0, [⟨"rank", .scalar a⟩]⟩
    let q : Product := ⟨"q", "s", 0, 0, [⟨"rank", .scalar b⟩]⟩
    a.Meets Operator.eq b ∧ Engine.recordOrder (.attribute "rank") .desc p q = .eq ∧ a.Meets Operator.gte b ∧
      ¬a.Meets Operator.gt (.string "5") := by
  intro a b p q
  obtain ⟨htie, hnumbers, -, -, hrecords⟩ := operators_agree_with_order a b
  obtain ⟨-, -, hothers, -⟩ := operators_agree_with_order a (.string "5")
  have heq : a.Meets Operator.eq b := htie.1 (by decide +kernel)
  have hagree := hnumbers ⟨.ofInt64 9007199254740993, rfl⟩ ⟨.ofInt64 9007199254740992, rfl⟩
  have hvalue : ∀ (id : String) (s : Scalar), Queryable.sortValue (⟨id, "s", 0, 0, [⟨"rank", .scalar s⟩]⟩ : Product)
      (ProductKey.attribute "rank") = .ofScalar s := fun _ _ => rfl
  have htied := hrecords (ProductKey.attribute "rank") .desc p q (hvalue "p" a) (hvalue "q" b)
  refine ⟨heq, htied.2 heq, hagree.atLeast.2 (.inr heq), ?_⟩
  exact hothers (fun h => by cases h.2.choose_spec) Operator.gt List.mem_cons_self

end Scalar
end ProductQuery
