import ProductQuery.Proofs.FilterContent
/-!
# Proofs.OperatorNames — no operator is lost by its name

The names of operators are listed, read and written, each in a place of its own.  The three agree: an operator has the
name that it was read from, and it is recognized exactly if the name is listed (`Operator.isUnrecognized_iff`).  So the
operators of an object are named by its keys (`Condition.map_name_ofMembers`), and an entry about components has no
operator that reading it as such could lose (`AttributeFilter.isStructured_iff_isUnrecognized`).
-/
namespace ProductQuery

namespace Operator

/-- An operator without a meaning of its own. -/
def IsUnrecognized (op : Operator) : Prop := ∃ name operand, op = .unrecognized name operand

/-- **An operator is recognized exactly if its name is listed.** -/
theorem isUnrecognized_iff (name : String) (operand : Json) :
    (ofMember name operand).IsUnrecognized ↔ isOperatorName name = false := by
  rw [isOperatorName_eq_false_iff]
  constructor
  · rintro ⟨other, v, hop⟩
    obtain ⟨hname, hkeeps⟩ := ofMember_spec name operand
    rw [hop] at hname hkeeps
    obtain rfl : other = name := hname
    cases hkeeps with
    | unrecognized hnone _ => exact hnone
  · intro hnone
    refine ⟨name, operand, ?_⟩
    rw [ofMember, OperatorName.ofName?_eq_none_iff.2 hnone]

end Operator

namespace Condition

variable (members : List (String × Json))

theorem map_name_ofMembers : (ofMembers members).operators.map Operator.name = members.map Prod.fst := by
  rw [ofMembers, List.map_map]
  exact List.map_congr_left fun m _ => (Operator.ofMember_spec m.1 m.2).1

/-- The names of operators are the keys of an object, each once and in the order of their bytes. -/
structure NamesKeys (c : Condition) (members : List (String × Json)) : Prop where
  names : c.operators.map Operator.name = members.map Prod.fst
  nodup : (c.operators.map Operator.name).Nodup
  ordered : (c.operators.map Operator.name).Pairwise (fun a b => Text.bytes a < Text.bytes b)

theorem namesKeys_ofMembers (h : (Json.object members).IsOrdered) : (ofMembers members).NamesKeys members where
  names := map_name_ofMembers members
  nodup := (isOf_ofMembers h).names.nodup
  ordered := (isOf_ofMembers h).ordered

theorem forall_isUnrecognized_iff : (∀ op ∈ (ofMembers members).operators, op.IsUnrecognized) ↔
    ∀ m ∈ members, isOperatorName m.1 = false := by
  rw [ofMembers, List.forall_mem_map]
  exact forall₂_congr fun m _ => Operator.isUnrecognized_iff m.1 m.2

end Condition

namespace AttributeFilter

variable {members : List (String × Json)} {path : String} {f : AttributeFilter}

/-- **An entry is about components if it names one and would have no recognized operator.** -/
theorem isStructured_iff_isUnrecognized : isStructured members = true ↔
    (∃ v, (Json.object members).Has "value" v ∨ (Json.object members).Has "unit" v) ∧
      ∀ op ∈ (Condition.ofMembers members).operators, op.IsUnrecognized := by
  rw [isStructured_iff, Condition.forall_isUnrecognized_iff]
  constructor
  · rintro ⟨hcomponent, hno⟩
    exact ⟨hcomponent, fun m hm => isOperatorName_eq_false_iff.2 fun op hop => hno op m.2 (hop ▸ hm)⟩
  · rintro ⟨hcomponent, hno⟩
    exact ⟨hcomponent, fun op v hm => isOperatorName_eq_false_iff.1 (hno _ hm) op rfl⟩

/-- What an entry with these members is read as: conditions on components exactly if it names one and has no recognized
operator, and otherwise all of its operators, none of them lost. -/
structure Classifies (f : AttributeFilter) (members : List (String × Json)) : Prop where
  structured_iff : (∃ value unit, f = .structured value unit) ↔
    (∃ v, (Json.object members).Has "value" v ∨ (Json.object members).Has "unit" v) ∧
      ∀ op ∈ (Condition.ofMembers members).operators, op.IsUnrecognized
  plain : (∃ c, f = .plain c) → f = .plain (.ofMembers members)
  recognized : (∃ op ∈ (Condition.ofMembers members).operators, ¬op.IsUnrecognized) → f = .plain (.ofMembers members)

theorem classifies_of_read {entry : Json} (h : read path entry = .ok f) :
    ∃ members, entry = .object members ∧ f.Classifies members := by
  obtain ⟨members, rfl, ⟨hs, value, unit, -, -, rfl⟩ | ⟨hs, rfl⟩⟩ := read_eq_ok h
  · obtain ⟨hcomponent, hunrecognized⟩ := isStructured_iff_isUnrecognized.1 hs
    refine ⟨members, rfl, iff_of_true ⟨value, unit, rfl⟩ ⟨hcomponent, hunrecognized⟩, ?_, ?_⟩
    · rintro ⟨c, ⟨⟩⟩
    · rintro ⟨op, hop, hrecognized⟩
      exact absurd (hunrecognized op hop) hrecognized
  · refine ⟨members, rfl, ?_, fun _ => rfl, fun _ => rfl⟩
    rw [← isStructured_iff_isUnrecognized, hs]
    refine iff_of_false ?_ Bool.false_ne_true
    rintro ⟨value, unit, ⟨⟩⟩

end AttributeFilter

/-- **The names of operators agree wherever they are spelled.**  An operator has the name it was read from and is
recognized exactly if that is listed.  So an object gives operators named by its keys, in their order and each once; an
entry of an attribute is about components exactly if it names one and would have no recognized operator; and only the
object that demands absence is taken for it. -/
theorem operator_names_agree :
    (∀ name operand, (Operator.ofMember name operand).name = name ∧
      ((Operator.ofMember name operand).IsUnrecognized ↔ isOperatorName name = false)) ∧
    (∀ members, (Json.object members).IsOrdered → (Condition.ofMembers members).NamesKeys members) ∧
    (∀ path entry f, AttributeFilter.read path entry = .ok f →
      ∃ members, entry = .object members ∧ f.Classifies members) ∧
    ∀ members, (Condition.ofMembers members).isNotExists = true ↔ members = [("$exists", .bool false)] :=
  ⟨fun name operand => ⟨(Operator.ofMember_spec name operand).1, Operator.isUnrecognized_iff name operand⟩,
    Condition.namesKeys_ofMembers, fun _ _ _ => AttributeFilter.classifies_of_read, Condition.isNotExists_ofMembers⟩

/-- An entry with a bound and a unit is about the value as a whole, and its bound is kept. -/
theorem operator_names_agree_mixed :
    let members : List (String × Json) := [("$gte", .number (.ofInt64 5)), ("unit", .object [("$eq", .string "kg")])]
    (Condition.ofMembers members).operators.map Operator.name = ["$gte", "unit"] ∧
      AttributeFilter.read "attributes.weight" (.object members) = .ok (.plain (.ofMembers members)) := by
  intro members
  obtain ⟨hlisted, hkeys, hentries, -⟩ := operator_names_agree
  have hself : (Json.object members).ordered = .object members := rfl
  obtain ⟨f, hf⟩ : ∃ f, AttributeFilter.read "attributes.weight" (.object members) = .ok f := ⟨_, rfl⟩
  refine ⟨(hkeys members (hself ▸ Json.isOrdered_ordered _)).names, ?_⟩
  obtain ⟨_, ⟨⟩, hclassifies⟩ := hentries _ _ f hf
  -- The bound is recognized, since its name is listed.
  have hbound : ¬(Operator.ofMember "$gte" (.number (.ofInt64 5))).IsUnrecognized := fun h =>
    absurd ((hlisted _ _).2.1 h) (by decide)
  rw [hf, hclassifies.recognized ⟨_, List.mem_cons_self, hbound⟩]

end ProductQuery
