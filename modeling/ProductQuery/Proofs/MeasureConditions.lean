import ProductQuery.Proofs.FilterMeaning
/-!
# Proofs.MeasureConditions — plain conditions on measures

A condition that names no component is tried on a measure as a whole and then on each component that is there, every
time with all its operators.  As a whole a measure is different from everything and is there, and that is all that holds
of it (`Operator.holds_structured_iff`); so what such a condition comes to can be written down
(`measure_meets_condition_iff`).
-/
namespace ProductQuery

namespace Operator

/-- The operators that hold of every measure as a whole: it differs from every operand, and it is there. -/
inductive HoldsOfMeasures : Operator → Prop
  | ne (operand : Json) : HoldsOfMeasures (.ne operand)
  | exists : HoldsOfMeasures (.exists (.bool true))

/-- **No operator tells one measure from another.** -/
theorem holds_structured_iff (op : Operator) (m : Measure) : op.holds (.structured m) = true ↔ op.HoldsOfMeasures := by
  constructor
  · intro h
    cases op with
    | ne operand => exact .ne operand
    | «exists» operand =>
      rw [holds_exists] at h
      subst h
      exact .exists
    | among operand =>
      obtain ⟨candidates, -, c, -, hequals⟩ := (holds_among _ _).1 h
      cases hequals
    | eq operand => cases h
    | gt operand => cases h
    | gte operand => cases h
    | lt operand => cases h
    | lte operand => cases h
    | regex pattern => cases h
    | unrecognized name operand => cases h
  · rintro (operand | _)
    · rfl
    · rfl

end Operator

namespace Condition

variable {c : Condition} {t : FieldValue} {m : Measure}

theorem holds_iff : c.holds t = true ↔ ∀ op ∈ c.operators, op.holds t = true := List.all_eq_true

/-- All operators of a condition hold of a component that is there. -/
def HoldsOfComponent (c : Condition) (component : Option Scalar) : Prop :=
  ∃ s, component = some s ∧ ∀ op ∈ c.operators, op.holds (.ofScalar s) = true

theorem holds_structured_iff : c.holds (.structured m) = true ↔ ∀ op ∈ c.operators, op.HoldsOfMeasures := by
  simp only [holds_iff, Operator.holds_structured_iff]

/-- **What a condition comes to on a measure**: it holds of every measure, or all of it of one component. -/
theorem holdsWithin_structured_iff : c.holdsWithin (.structured m) = true ↔
    (∀ op ∈ c.operators, op.HoldsOfMeasures) ∨ c.HoldsOfComponent m.value ∨ c.HoldsOfComponent m.unit := by
  unfold holdsWithin HoldsOfComponent
  rw [Bool.or_eq_true, holds_structured_iff]
  refine or_congr_right ?_
  simp only [Measure.any_components_iff, holds_iff]

theorem holdsWithin_eq_holds (h : ∀ m, t ≠ .structured m) : c.holdsWithin t = c.holds t := by
  cases t with
  | structured m => exact absurd rfl (h m)
  | _ => exact Bool.or_false _

/-- A component that is there meets a condition on it as any value does. -/
theorem holdsOfComponent_iff {component : Option Scalar} :
    c.HoldsOfComponent component ↔ component.isSome ∧ c.holds (.ofOption component) = true := by
  cases component with
  | none => exact iff_of_false (fun ⟨_, h, _⟩ => by cases h) (fun h => by cases h.1)
  | some s => simp [HoldsOfComponent, FieldValue.ofOption, holds_iff]

end Condition

namespace AttributeFilter

variable {path : String} {members : List (String × Json)}

theorem holds_structured_value (c : Condition) (m : Measure) :
    (structured (some c) none).holds (.structured m) = c.holds (.ofOption m.value) := Bool.and_true _

theorem holds_structured_unit (c : Condition) (m : Measure) :
    (structured none (some c)).holds (.structured m) = c.holds (.ofOption m.unit) := rfl

/-- An object that does not name components is read as a plain condition. -/
theorem read_of_not_namesComponents (h : ¬(Json.object members).NamesComponents) :
    read path (.object members) = .ok (.plain (.ofMembers members)) := by
  rw [← isStructured_iff, Bool.not_eq_true] at h
  show (if isStructured members then _ else _) = _
  rw [h]
  rfl

theorem read_value :
    read path (.object [("value", .object members)]) = .ok (.structured (some (.ofMembers members)) none) := rfl

theorem read_unit :
    read path (.object [("unit", .object members)]) = .ok (.structured none (some (.ofMembers members))) := rfl

end AttributeFilter

/-- **What a plain condition demands of a measure.**  It holds exactly if it consists of `$ne` and `$exists: true`, or
if all of it holds of the value that is there, or all of it of the unit that is there.  So it agrees with the entries
that name one component, for components that are there, and no operator is met by one component while another is met by
the other.  Of anything but a measure it holds if its operators do. -/
theorem measure_meets_condition_iff (c : Condition) :
    (∀ m : Measure, c.holdsWithin (.structured m) = true ↔
      (∀ op ∈ c.operators, op.HoldsOfMeasures) ∨
      (∃ s, m.value = some s ∧ ∀ op ∈ c.operators, op.holds (.ofScalar s) = true) ∨
      ∃ s, m.unit = some s ∧ ∀ op ∈ c.operators, op.holds (.ofScalar s) = true) ∧
    (∀ m : Measure, (AttributeFilter.plain c).holds (.structured m) = true ↔
      (∀ op ∈ c.operators, op.HoldsOfMeasures) ∨
      (m.value.isSome ∧ (AttributeFilter.structured (some c) none).holds (.structured m) = true) ∨
      (m.unit.isSome ∧ (AttributeFilter.structured none (some c)).holds (.structured m) = true)) ∧
    (∀ path members, c = .ofMembers members →
      (¬(Json.object members).NamesComponents → AttributeFilter.read path (.object members) = .ok (.plain c)) ∧
      AttributeFilter.read path (.object [("value", .object members)]) = .ok (.structured (some c) none) ∧
      AttributeFilter.read path (.object [("unit", .object members)]) = .ok (.structured none (some c))) ∧
    (∀ m : Measure, c.holdsWithin (.structured m) = true →
      ∃ t ∈ .structured m :: m.components.map FieldValue.ofScalar, ∀ op ∈ c.operators, op.holds t = true) ∧
    ∀ t : FieldValue, (∀ m, t ≠ .structured m) → c.holdsWithin t = c.operators.all (·.holds t) := by
  refine ⟨fun m => Condition.holdsWithin_structured_iff, fun m => ?_, fun path members h => ?_, fun m h => ?_,
    fun t => Condition.holdsWithin_eq_holds⟩
  · rw [AttributeFilter.holds_structured_value, AttributeFilter.holds_structured_unit, ← Condition.holdsOfComponent_iff,
      ← Condition.holdsOfComponent_iff]
    exact Condition.holdsWithin_structured_iff
  · subst h
    exact ⟨AttributeFilter.read_of_not_namesComponents, AttributeFilter.read_value, AttributeFilter.read_unit⟩
  · have hcomponent : ∀ {s : Scalar}, s ∈ m.components →
        FieldValue.ofScalar s ∈ FieldValue.structured m :: m.components.map FieldValue.ofScalar := fun hs =>
      List.mem_cons_of_mem _ (List.mem_map_of_mem hs)
    rcases Condition.holdsWithin_structured_iff.1 h with hall | ⟨s, hs, hops⟩ | ⟨s, hs, hops⟩
    · exact ⟨_, List.mem_cons_self, Condition.holds_iff.1 (Condition.holds_structured_iff.2 hall)⟩
    · exact ⟨_, hcomponent (by simp [Measure.components, hs]), hops⟩
    · exact ⟨_, hcomponent (by simp [Measure.components, hs]), hops⟩

/-- Five kilograms are five, and they are kilograms, but no value is both; they are not six, as a whole. -/
theorem measure_meets_condition_iff_weight :
    let weight : Measure := ⟨some (.ofInt64 5), some (.string "kg"), [("note", .null)]⟩
    let five : Operator := .eq (.number (.ofInt64 5))
    let kilograms : Operator := .eq (.string "kg")
    let notSix : Operator := .ne (.number (.ofInt64 6))
    (Condition.mk [five]).holdsWithin (.structured weight) = true ∧
      (Condition.mk [kilograms]).holdsWithin (.structured weight) = true ∧
      (Condition.mk [five, kilograms]).holdsWithin (.structured weight) = false ∧
      (Condition.mk [notSix]).holdsWithin (.structured weight) = true ∧
      (Condition.mk [notSix]).holdsWithin .undefined = true := by
  intro weight five kilograms notSix
  have hfive : (five.holds (.ofScalar (.ofInt64 5))) = true := by decide +kernel
  have hkilograms : (kilograms.holds (.ofScalar (.string "kg"))) = true := by decide
  refine ⟨?_, ?_, ?_, ?_, ?_⟩
  · exact ((measure_meets_condition_iff ⟨[five]⟩).1 weight).2 (.inr (.inl ⟨_, rfl, by simpa using hfive⟩))
  · exact ((measure_meets_condition_iff ⟨[kilograms]⟩).1 weight).2 (.inr (.inr ⟨_, rfl, by simpa using hkilograms⟩))
  · rw [← Bool.not_eq_true, (measure_meets_condition_iff ⟨[five, kilograms]⟩).1 weight]
    rintro (h | ⟨s, hs, h⟩ | ⟨s, hs, h⟩)
    · exact absurd ((Operator.holds_structured_iff five weight).2 (h five List.mem_cons_self)) (by decide)
    · obtain rfl := Option.some.inj hs
      exact absurd (h kilograms (by simp)) (by decide)
    · obtain rfl := Option.some.inj hs
      exact absurd (h five (by simp)) (by decide)
  · exact ((measure_meets_condition_iff ⟨[notSix]⟩).1 weight).2 (.inl (by simpa using .ne _))
  · obtain ⟨-, -, -, -, hother⟩ := measure_meets_condition_iff ⟨[notSix]⟩
    exact (hother .undefined (fun m h => by cases h)).trans (by decide)

end ProductQuery
