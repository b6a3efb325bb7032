import ProductQuery.Query.Engine
/-!
# Proofs.Names — what the names of operators, fields and sort keys stand for

A name is looked up among all that have one.  No two share a name, so what is found is what has the name
(`ofName?_eq_some_iff`), and nothing is found where nothing has it.
-/
namespace ProductQuery

section

variable {α : Type} {name : α → String}

/-- What is found by its name is what the name is in the list of names of. -/
theorem exists_find?_eq_iff (l : List α) (name : α → String) (s : String) :
    (∃ a, l.find? (name · = s) = some a) ↔ s ∈ l.map name := by
  rw [← Option.isSome_iff_exists, List.find?_isSome, List.mem_map]
  simp only [decide_eq_true_eq]

/-- In a list where each is found by its own name, what is found by a name is what has it. -/
theorem find?_eq_some_iff_of_self {l : List α} (hself : ∀ a, l.find? (name · = name a) = some a) {s : String} {a : α} :
    l.find? (name · = s) = some a ↔ name a = s := by
  constructor
  · intro h
    have hname := List.find?_some h
    exact of_decide_eq_true hname
  · rintro rfl
    exact hself a

variable {look : String → Option α}

theorem look_eq_none_iff (hlook : ∀ {s : String} {a : α}, look s = some a ↔ name a = s) {s : String} :
    look s = none ↔ ∀ a, name a ≠ s := by
  rw [Option.eq_none_iff_forall_ne_some]
  exact forall_congr' (fun _ => not_congr hlook)

theorem eq_of_name_eq (hself : ∀ a, look (name a) = some a) {a b : α} (h : name a = name b) : a = b := by
  have ha := hself a
  rw [h, hself b] at ha
  exact (Option.some.inj ha).symm

end

namespace OperatorName

@[simp]
theorem ofName?_name (op : OperatorName) : ofName? op.name = some op := by cases op <;> rfl

theorem ofName?_eq_some_iff {s : String} {op : OperatorName} : ofName? s = some op ↔ op.name = s := by
  constructor
  · intro h
    unfold ofName? at h
    split at h <;> cases h <;> rfl
  · rintro rfl
    exact ofName?_name op

theorem ofName?_eq_none_iff {s : String} : ofName? s = none ↔ ∀ op : OperatorName, op.name ≠ s :=
  look_eq_none_iff ofName?_eq_some_iff

theorem name_inj {a b : OperatorName} (h : a.name = b.name) : a = b := eq_of_name_eq ofName?_name h

theorem mem_operatorNames (op : OperatorName) : op.name ∈ operatorNames := by cases op <;> decide

end OperatorName

theorem exists_name_eq_of_mem {s : String} (h : s ∈ operatorNames) : ∃ op : OperatorName, op.name = s := by
  have hread : ∀ t ∈ operatorNames, (OperatorName.ofName? t).isSome = true := by decide
  obtain ⟨op, hop⟩ := Option.isSome_iff_exists.1 (hread s h)
  exact ⟨op, OperatorName.ofName?_eq_some_iff.1 hop⟩

/-- **The list of operator names has the names of all operators**, and no other. -/
theorem isOperatorName_iff {s : String} : isOperatorName s = true ↔ ∃ op : OperatorName, op.name = s := by
  rw [isOperatorName, List.contains_iff_mem]
  refine ⟨exists_name_eq_of_mem, ?_⟩
  rintro ⟨op, rfl⟩
  exact op.mem_operatorNames

theorem isOperatorName_eq_false_iff {s : String} : isOperatorName s = false ↔ ∀ op : OperatorName, op.name ≠ s := by
  rw [← Bool.not_eq_true, isOperatorName_iff, not_exists]

namespace ProductField

@[simp]
theorem ofName?_name (f : ProductField) : ofName? f.name = some f := by cases f <;> rfl

theorem ofName?_eq_some_iff {s : String} {f : ProductField} : ofName? s = some f ↔ f.name = s :=
  find?_eq_some_iff_of_self ofName?_name

theorem ofName?_eq_none_iff {s : String} : ofName? s = none ↔ ∀ f : ProductField, f.name ≠ s :=
  look_eq_none_iff ofName?_eq_some_iff

theorem name_inj {a b : ProductField} (h : a.name = b.name) : a = b := eq_of_name_eq ofName?_name h

end ProductField

namespace DefinitionField

@[simp]
theorem ofName?_wireName (f : DefinitionField) : ofName? f.wireName = some f := by cases f <;> rfl

theorem ofName?_eq_some_iff {s : String} {f : DefinitionField} : ofName? s = some f ↔ f.wireName = s :=
  find?_eq_some_iff_of_self ofName?_wireName

theorem ofName?_eq_none_iff {s : String} : ofName? s = none ↔ ∀ f : DefinitionField, f.wireName ≠ s :=
  look_eq_none_iff ofName?_eq_some_iff

theorem wireName_inj {a b : DefinitionField} (h : a.wireName = b.wireName) : a = b := eq_of_name_eq ofName?_wireName h

end DefinitionField

namespace ProductKey

@[simp]
theorem attributeOf?_append (key : String) : attributeOf? ("attributes." ++ key) = some key := by
  unfold attributeOf?
  rw [String.toList_append, if_pos (List.isPrefixOf_iff_prefix.2 (List.prefix_append _ _)), List.drop_left,
    String.ofList_toList]

theorem eq_append_of_attributeOf? {name key : String} (h : attributeOf? name = some key) :
    name = "attributes." ++ key := by
  simp only [attributeOf?] at h
  split at h
  · rename_i hp
    obtain ⟨rest, hrest⟩ := List.isPrefixOf_iff_prefix.1 hp
    obtain rfl := Option.some.inj h
    apply String.toList_inj.1
    rw [← hrest, List.drop_left, String.toList_append, @String.toList_ofList rest]
  · cases h

/-- **Products can be sorted by their fields, and by the key of any attribute.** -/
theorem exists_ofName?_eq_iff (name : String) : (∃ key, ofName? name = some key) ↔
    name ∈ ProductField.all.map ProductField.name ∨ ∃ key, name = "attributes." ++ key := by
  have hfield := exists_find?_eq_iff ProductField.all ProductField.name name
  unfold ofName?
  cases hkey : attributeOf? name with
  | some key =>
    have hname := eq_append_of_attributeOf? hkey
    exact ⟨fun _ => .inr ⟨key, hname⟩, fun _ => ⟨_, rfl⟩⟩
  | none =>
    constructor
    · rintro ⟨k, hk⟩
      obtain ⟨f, hf, -⟩ := Option.map_eq_some_iff.1 hk
      exact .inl (hfield.1 ⟨f, hf⟩)
    · rintro (hmem | ⟨key, rfl⟩)
      · obtain ⟨f, hf⟩ := hfield.2 hmem
        exact ⟨.field f, Option.map_eq_some_iff.2 ⟨f, hf, rfl⟩⟩
      · rw [attributeOf?_append] at hkey
        cases hkey

end ProductKey
end ProductQuery
