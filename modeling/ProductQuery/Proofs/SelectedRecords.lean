import ProductQuery.Proofs.FilterShape
import ProductQuery.Query.Engine
/-!
# Proofs.SelectedRecords — filters of one condition

Most laws about single operators speak of a filter with one member: a field and one operator, or one attribute and what
is demanded of it.  Such a document always is a filter, unless it takes the name of an operator for the key of an
attribute, and which records it selects is what its one member demands.
-/
namespace ProductQuery

/-- A document is a filter, and a record satisfies it exactly if something is so. -/
def SelectsIff {R F K : Type} [Queryable R F K] (filter : Json) (r : R) (p : Prop) : Prop :=
  ∃ f, Queryable.readFilter R filter = .ok f ∧ (Queryable.satisfies r f = true ↔ p)

theorem SelectsIff.congr {R F K : Type} [Queryable R F K] {filter : Json} {r : R} {p q : Prop}
    (h : SelectsIff filter r p) (hpq : p ↔ q) : SelectsIff filter r q := by
  obtain ⟨f, hread, hp⟩ := h
  exact ⟨f, hread, hp.trans hpq⟩

theorem SelectsIff.iff {R F K : Type} [Queryable R F K] {filter : Json} {r : R} {p : Prop} {f : F}
    (h : SelectsIff filter r p) (hread : Queryable.readFilter R filter = .ok f) :
    Queryable.satisfies r f = true ↔ p := by
  obtain ⟨g, hg, hp⟩ := h
  rw [hread] at hg
  rwa [Except.ok.inj hg]

/-! ## Fields -/

theorem Condition.holds_single (op : OperatorName) (v : Json) (t : FieldValue) :
    (ofMembers [(op.name, v)]).holds t = true ↔ op.Demands t v := by
  rw [← Operator.holds_ofMember_name]
  simp [holds, ofMembers]

/-- **One operator on a field of products.** -/
theorem ProductFilter.selectsIff_field (field : ProductField) (op : OperatorName) (v : Json) (p : Product) :
    SelectsIff (.object [(field.name, .object [(op.name, v)])]) p (op.Demands (p.field field) v) := by
  refine ⟨⟨[(field, .ofMembers [(op.name, v)])], none, []⟩, ?_, ?_⟩
  · cases field <;> rfl
  · show p.satisfies _ = true ↔ _
    rw [← Condition.holds_single]
    simp [Product.satisfies]

/-- **One operator on a field of definitions.** -/
theorem DefinitionFilter.selectsIff_field (field : DefinitionField) (op : OperatorName) (v : Json) (d : Definition) :
    SelectsIff (.object [(field.wireName, .object [(op.name, v)])]) d (op.Demands (d.field field) v) := by
  refine ⟨⟨[(field, .ofMembers [(op.name, v)])], []⟩, ?_, ?_⟩
  · cases field <;> rfl
  · show d.satisfies _ = true ↔ _
    rw [← Condition.holds_single]
    simp [Definition.satisfies]

/-! ## Attributes -/

namespace Json

theorem isOrdered_single {name : String} {v : Json} (h : v.IsOrdered) : (Json.object [(name, v)]).IsOrdered := by
  refine .object (List.pairwise_singleton _ _) fun m hm => ?_
  rw [List.mem_singleton.1 hm]
  exact h

theorem has_single {name name' : String} {v w : Json} :
    (Json.object [(name, v)]).Has name' w ↔ name' = name ∧ w = v := by
  rw [has_object, List.mem_singleton, Prod.mk.injEq]

theorem holdsOf_single (op : OperatorName) (v : Json) (t : FieldValue) :
    (Json.object [(op.name, v)]).HoldsOf t ↔ op.Demands t v := by
  rw [← Condition.holds_ofMembers, Condition.holds_single]

theorem isEntry_single (op : OperatorName) (v : Json) : AttributeFilter.IsEntry (.object [(op.name, v)]) :=
  ⟨⟨_, rfl⟩, fun h => absurd (has_single.2 ⟨rfl, rfl⟩) (h.noOperator op v)⟩

theorem not_namesComponents_single (op : OperatorName) (v : Json) : ¬(Json.object [(op.name, v)]).NamesComponents :=
  fun h => h.noOperator op v (has_single.2 ⟨rfl, rfl⟩)

/-- The filter of one attribute. -/
def attributeFilter (key : String) (entry : Json) : Json := .object [("attributes", .object [(key, entry)])]

end Json

namespace ProductFilter

open Json (has_single)

variable {key : String} {entry : Json}

/-- The name of an operator is no key of an attribute. -/
theorem read_attributeFilter_of_operator (hkey : isOperatorName key = true) (entry : Json) :
    read (Json.attributeFilter key entry) = .error ⟨"attributes", .operatorAmongKeys key⟩ := by
  have hattributes : readAttributes (.object [(key, entry)]) = .error ⟨"attributes", .operatorAmongKeys key⟩ := by
    unfold readAttributes
    simp only [Json.membersAt, bind, Except.bind, List.find?_cons, hkey]
  unfold read Json.attributeFilter readMembers
  simp [Json.membersAt, bind, Except.bind, hattributes]

theorem isFilter_attributeFilter (hkey : isOperatorName key = false) (hentry : AttributeFilter.IsEntry entry) :
    IsFilter (Json.attributeFilter key entry) := by
  refine ⟨⟨_, rfl⟩, fun f v hv => ?_, fun entries hv => ?_⟩
  · exact absurd (has_single.1 hv).1 (name_ne_attributes f)
  · rw [(has_single.1 hv).2]
    refine ⟨⟨_, rfl⟩, fun op v hop => ?_, fun k v hv => ?_⟩
    · have hname : isOperatorName op.name = true := isOperatorName_iff.2 ⟨op, rfl⟩
      rw [(has_single.1 hop).1, hkey] at hname
      cases hname
    · rw [(has_single.1 hv).2]
      exact hentry

/-- **One entry on an attribute of products.** -/
theorem selectsIff_attribute (hkey : isOperatorName key = false) (hentry : AttributeFilter.IsEntry entry)
    (hordered : entry.IsOrdered) (p : Product) :
    SelectsIff (Json.attributeFilter key entry) p (p.MeetsEntry key entry) := by
  have hfilter : (Json.attributeFilter key entry).IsOrdered := Json.isOrdered_single (Json.isOrdered_single hordered)
  obtain ⟨f, hread⟩ := (exists_read_iff hfilter).2 (isFilter_attributeFilter hkey hentry)
  refine ⟨f, hread, (satisfies_readMembers hread hfilter p).trans ⟨fun h => ?_, fun h => Product.meets_iff.2 ⟨?_, ?_⟩⟩⟩
  · exact h.attributes _ (has_single.2 ⟨rfl, rfl⟩) key entry (has_single.2 ⟨rfl, rfl⟩)
  · intro field v hv
    exact absurd (has_single.1 hv).1 (name_ne_attributes field)
  · intro entries hv k v hk
    obtain rfl := (has_single.1 hv).2
    obtain ⟨rfl, rfl⟩ := has_single.1 hk
    exact h

end ProductFilter

end ProductQuery
