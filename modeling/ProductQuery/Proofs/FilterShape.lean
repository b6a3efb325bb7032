import ProductQuery.Proofs.FilterMeaning
/-!
# Proofs.FilterShape — which documents are filters

Whether a document is a filter can be said of the document alone: what its members named as fields hold, and what those
of its `attributes` do (`ProductFilter.IsFilter`, `DefinitionFilter.IsFilter`).  A filter is read from exactly these
documents, and its unknown fields are the names in the document that no field has, in their order (`FilterGrammar`).
-/
namespace ProductQuery

/-! ## What filters look like -/

namespace Json

def IsObject (v : Json) : Prop := ∃ members, v = .object members

end Json

/-- What is given for an attribute. -/
structure AttributeFilter.IsEntry (entry : Json) : Prop where
  object : entry.IsObject
  components : entry.NamesComponents → (∀ v, entry.Has "value" v → v.IsObject) ∧ ∀ v, entry.Has "unit" v → v.IsObject

namespace ProductFilter

/-- What is given for the attributes of a product. -/
structure IsAttributes (entries : Json) : Prop where
  object : entries.IsObject
  noOperator : ∀ (op : OperatorName) v, ¬entries.Has op.name v
  entries : ∀ key entry, entries.Has key entry → AttributeFilter.IsEntry entry

/-- A filter of products. -/
structure IsFilter (filter : Json) : Prop where
  object : filter.IsObject
  fields : ∀ (f : ProductField) entry, filter.Has f.name entry → entry.IsObject
  attributes : ∀ entries, filter.Has "attributes" entries → IsAttributes entries

/-- The names that a filter of products knows. -/
def knownNames : List String := "attributes" :: ProductField.all.map ProductField.name

end ProductFilter

namespace DefinitionFilter

/-- A filter of definitions. -/
structure IsFilter (filter : Json) : Prop where
  object : filter.IsObject
  fields : ∀ (f : DefinitionField) entry, filter.Has f.wireName entry → entry.IsObject

/-- The names that a filter of definitions knows. -/
def knownNames : List String := DefinitionField.all.map DefinitionField.wireName

end DefinitionFilter

/-! ## Conditions and entries -/

theorem Condition.exists_read_iff (path : String) {v : Json} : (∃ c, read path v = .ok c) ↔ v.IsObject := by
  constructor
  · rintro ⟨c, h⟩
    cases v with
    | object members => exact ⟨members, rfl⟩
    | _ => cases h
  · rintro ⟨members, rfl⟩
    exact ⟨_, rfl⟩

namespace AttributeFilter

theorem exists_readComponent_iff {path name : String} {members : List (String × Json)}
    (hordered : (Json.object members).IsOrdered) : (∃ c, readComponent path name members = .ok c) ↔
      ∀ v, (Json.object members).Has name v → v.IsObject := by
  unfold readComponent
  cases hm : Json.member? name members with
  | none =>
    refine iff_of_true ⟨none, rfl⟩ fun v hv => ?_
    rw [← hordered.member?_eq_some_iff, hm] at hv
    cases hv
  | some w =>
    have honly : (∀ v, (Json.object members).Has name v → v.IsObject) ↔ w.IsObject := by
      simp only [← hordered.member?_eq_some_iff, hm, Option.some.injEq, forall_eq']
    rw [honly, ← Condition.exists_read_iff (path ++ "." ++ name)]
    exact exists_map_eq_ok_iff

theorem exists_read_iff (path : String) {entry : Json} (hordered : entry.IsOrdered) :
    (∃ f, read path entry = .ok f) ↔ IsEntry entry := by
  unfold read
  rw [exists_bind_eq_ok_iff]
  constructor
  · rintro ⟨members, hmembers, h⟩
    obtain rfl := Json.membersAt_eq_ok hmembers
    refine ⟨⟨members, rfl⟩, fun hnames => ?_⟩
    rw [if_pos ((isStructured_iff members).2 hnames), exists_bind_bind_eq_ok_iff, exists_readComponent_iff hordered,
      exists_readComponent_iff hordered] at h
    exact h
  · rintro ⟨⟨members, rfl⟩, hcomponents⟩
    refine ⟨members, rfl, ?_⟩
    cases hs : isStructured members with
    | false => exact ⟨_, rfl⟩
    | true =>
      rw [if_pos rfl, exists_bind_bind_eq_ok_iff, exists_readComponent_iff hordered, exists_readComponent_iff hordered]
      exact hcomponents ((isStructured_iff members).1 hs)

end AttributeFilter

namespace ProductFilter

theorem exists_readEntries_iff {entries : List (String × Json)} (hordered : ∀ m ∈ entries, m.2.IsOrdered) :
    (∃ l, readEntries entries = .ok l) ↔ ∀ m ∈ entries, AttributeFilter.IsEntry m.2 := by
  induction entries with
  | nil => exact iff_of_true ⟨[], rfl⟩ (fun _ h => by cases h)
  | cons m rest ih =>
    obtain ⟨key, entry⟩ := m
    have hrest := ih (fun m hm => hordered m (List.mem_cons_of_mem _ hm))
    have hhead := AttributeFilter.exists_read_iff ("attributes." ++ key) (hordered _ List.mem_cons_self)
    unfold readEntries
    rw [exists_bind_bind_eq_ok_iff, hhead, hrest, List.forall_mem_cons]

theorem exists_readAttributes_iff {entries : Json} (hordered : entries.IsOrdered) :
    (∃ l, readAttributes entries = .ok l) ↔ IsAttributes entries := by
  unfold readAttributes
  rw [exists_bind_eq_ok_iff]
  constructor
  · rintro ⟨members, hmembers, h⟩
    obtain rfl := Json.membersAt_eq_ok hmembers
    split at h
    · obtain ⟨_, h⟩ := h
      cases h
    · rename_i hnone
      rw [exists_readEntries_iff (fun m hm => hordered.of_has hm)] at h
      refine ⟨⟨members, rfl⟩, fun op v hop => ?_, fun key entry hentry => h (key, entry) hentry⟩
      have hno := List.find?_eq_none.1 hnone (op.name, v) hop
      exact hno (isOperatorName_iff.2 ⟨op, rfl⟩)
  · rintro ⟨⟨members, rfl⟩, hno, hentries⟩
    refine ⟨members, rfl, ?_⟩
    split
    · rename_i name v hfound
      have hname : isOperatorName name = true := by simpa using List.find?_some hfound
      obtain ⟨op, rfl⟩ := isOperatorName_iff.1 hname
      exact absurd (List.mem_of_find?_eq_some hfound) (hno op v)
    · rw [exists_readEntries_iff (fun m hm => hordered.of_has hm)]
      exact fun m hm => hentries m.1 m.2 hm

/-! ## Filters of products -/

/-- What a filter of products may hold under a name. -/
def IsMember (name : String) (v : Json) : Prop :=
  (name = "attributes" → IsAttributes v) ∧ ∀ f : ProductField, f.name = name → v.IsObject

@[simp]
theorem isMember_attributes {v : Json} : IsMember "attributes" v ↔ IsAttributes v :=
  ⟨fun h => h.1 rfl, fun h => ⟨fun _ => h, fun f hf => absurd hf (name_ne_attributes f)⟩⟩

@[simp]
theorem isMember_name (f : ProductField) {v : Json} : IsMember f.name v ↔ v.IsObject :=
  ⟨fun h => h.2 f rfl, fun h => ⟨fun hf => absurd hf (name_ne_attributes f), fun _ _ => h⟩⟩

theorem isMember_of_unknown {name : String} (hname : name ≠ "attributes") (hno : ∀ f : ProductField, f.name ≠ name)
    (v : Json) : IsMember name v :=
  ⟨fun h => absurd h hname, fun f hf => absurd hf (hno f)⟩

theorem exists_readMembers_iff {members : List (String × Json)} (hordered : ∀ m ∈ members, m.2.IsOrdered) :
    (∃ f, readMembers members = .ok f) ↔ ∀ m ∈ members, IsMember m.1 m.2 := by
  induction members with
  | nil => exact iff_of_true ⟨_, rfl⟩ (fun _ h => by cases h)
  | cons m rest ih =>
    obtain ⟨name, entry⟩ := m
    have hrest := ih (fun m hm => hordered m (List.mem_cons_of_mem _ hm))
    have hentry : entry.IsOrdered := hordered _ List.mem_cons_self
    rw [List.forall_mem_cons]
    unfold readMembers
    split
    · rename_i hname
      subst hname
      rw [exists_bind_bind_eq_ok_iff, exists_readAttributes_iff hentry, hrest, isMember_attributes]
    · rename_i hname
      split
      · rename_i field hfield
        obtain rfl := ProductField.ofName?_eq_some_iff.1 hfield
        rw [exists_bind_bind_eq_ok_iff, Condition.exists_read_iff, hrest, isMember_name]
      · rename_i hnone
        rw [exists_bind_pure_eq_ok_iff, hrest]
        exact (and_iff_right (isMember_of_unknown hname (ProductField.ofName?_eq_none_iff.1 hnone) entry)).symm

/-- **A filter of products is read from what looks like one.** -/
theorem exists_read_iff {filter : Json} (hordered : filter.IsOrdered) : (∃ f, read filter = .ok f) ↔ IsFilter filter := by
  unfold read
  rw [exists_bind_eq_ok_iff]
  constructor
  · rintro ⟨members, hmembers, h⟩
    obtain rfl := Json.membersAt_eq_ok hmembers
    rw [exists_readMembers_iff (fun m hm => hordered.of_has hm)] at h
    exact ⟨⟨members, rfl⟩, fun f entry hm => (h _ hm).2 f rfl, fun entries hm => (h _ hm).1 rfl⟩
  · rintro ⟨⟨members, rfl⟩, hfields, hattributes⟩
    refine ⟨members, rfl, ?_⟩
    rw [exists_readMembers_iff (fun m hm => hordered.of_has hm)]
    rintro ⟨name, entry⟩ hm
    refine ⟨?_, ?_⟩
    · rintro rfl
      exact hattributes entry hm
    · rintro f rfl
      exact hfields f entry hm

@[simp]
theorem mem_knownNames {name : String} : name ∈ knownNames ↔ name = "attributes" ∨ ∃ f : ProductField, f.name = name := by
  have hall : ∀ f : ProductField, f ∈ ProductField.all := fun f => by cases f <;> decide
  simp only [knownNames, List.mem_cons, List.mem_map, hall, true_and]

/-- **The unknown fields of a filter are the names that it does not know**, as they stand in the document. -/
theorem unknownFields_readMembers : ∀ {members : List (String × Json)} {f : ProductFilter}, readMembers members = .ok f →
    f.unknownFields = (members.map Prod.fst).filter (· ∉ knownNames)
  | [], f, h => by
    obtain rfl := Except.ok.inj h
    rfl
  | (name, entry) :: rest, f, h => by
    obtain ⟨g, hg, hcases⟩ := readMembers_cons_eq_ok h
    have ih := unknownFields_readMembers hg
    rw [List.map_cons]
    rcases hcases with ⟨rfl, entries, -, rfl⟩ | ⟨field, c, rfl, -, rfl⟩ | ⟨hname, hno, rfl⟩
    · rw [List.filter_cons_of_neg (by simp), ← ih]
    · rw [List.filter_cons_of_neg (by simp), ← ih]
    · rw [List.filter_cons_of_pos (by simp [hname, hno]), ← ih]

end ProductFilter

/-! ## Filters of definitions -/

namespace DefinitionFilter

/-- **What reading one more member adds to a filter.** -/
theorem readMembers_cons_eq_ok {name : String} {entry : Json} {rest : List (String × Json)} {f : DefinitionFilter}
    (h : readMembers ((name, entry) :: rest) = .ok f) : ∃ g, readMembers rest = .ok g ∧
      ((∃ (field : DefinitionField) (c : Condition), name = field.wireName ∧ Condition.read name entry = .ok c ∧
          f = { g with fields := (field, c) :: g.fields }) ∨
        ((∀ field : DefinitionField, field.wireName ≠ name) ∧ f = { g with unknownFields := name :: g.unknownFields })) := by
  unfold readMembers at h
  split at h
  · rename_i field hfield
    obtain ⟨c, hc, h⟩ := bind_eq_ok_iff.1 h
    obtain ⟨g, hg, h⟩ := bind_eq_ok_iff.1 h
    exact ⟨g, hg, .inl ⟨field, c, (DefinitionField.ofName?_eq_some_iff.1 hfield).symm, hc, (Except.ok.inj h).symm⟩⟩
  · rename_i hnone
    obtain ⟨g, hg, h⟩ := bind_eq_ok_iff.1 h
    exact ⟨g, hg, .inr ⟨DefinitionField.ofName?_eq_none_iff.1 hnone, (Except.ok.inj h).symm⟩⟩

theorem exists_readMembers_iff : ∀ {members : List (String × Json)}, (∃ f, readMembers members = .ok f) ↔
    ∀ m ∈ members, ∀ f : DefinitionField, f.wireName = m.1 → m.2.IsObject
  | [] => iff_of_true ⟨_, rfl⟩ (fun _ h => by cases h)
  | (name, entry) :: rest => by
    have hrest := @exists_readMembers_iff rest
    rw [List.forall_mem_cons]
    unfold readMembers
    split
    · rename_i field hfield
      obtain rfl := DefinitionField.ofName?_eq_some_iff.1 hfield
      have hentry : entry.IsObject ↔ ∀ f : DefinitionField, f.wireName = field.wireName → entry.IsObject :=
        ⟨fun h _ _ => h, fun h => h field rfl⟩
      rw [exists_bind_bind_eq_ok_iff, Condition.exists_read_iff, hrest]
      exact and_congr_left' hentry
    · rename_i hnone
      rw [exists_bind_pure_eq_ok_iff, hrest]
      exact (and_iff_right fun f hf => absurd hf (DefinitionField.ofName?_eq_none_iff.1 hnone f)).symm

/-- **A filter of definitions is read from what looks like one.** -/
theorem exists_read_iff {filter : Json} : (∃ f, read filter = .ok f) ↔ IsFilter filter := by
  unfold read
  rw [exists_bind_eq_ok_iff]
  constructor
  · rintro ⟨members, hmembers, h⟩
    obtain rfl := Json.membersAt_eq_ok hmembers
    rw [exists_readMembers_iff] at h
    exact ⟨⟨members, rfl⟩, fun f entry hm => h _ hm f rfl⟩
  · rintro ⟨⟨members, rfl⟩, hfields⟩
    refine ⟨members, rfl, exists_readMembers_iff.2 ?_⟩
    rintro ⟨name, entry⟩ hm f rfl
    exact hfields f entry hm

@[simp]
theorem mem_knownNames {name : String} : name ∈ knownNames ↔ ∃ f : DefinitionField, f.wireName = name := by
  have hall : ∀ f : DefinitionField, f ∈ DefinitionField.all := fun f => by cases f <;> decide
  simp only [knownNames, List.mem_map, hall, true_and]

/-- **The unknown fields of a filter are the names that it does not know**, as they stand in the document. -/
theorem unknownFields_readMembers : ∀ {members : List (String × Json)} {f : DefinitionFilter},
    readMembers members = .ok f → f.unknownFields = (members.map Prod.fst).filter (· ∉ knownNames)
  | [], f, h => by
    obtain rfl := Except.ok.inj h
    rfl
  | (name, entry) :: rest, f, h => by
    obtain ⟨g, hg, hcases⟩ := readMembers_cons_eq_ok h
    have ih := unknownFields_readMembers hg
    rw [List.map_cons]
    rcases hcases with ⟨field, c, rfl, -, rfl⟩ | ⟨hno, rfl⟩
    · rw [List.filter_cons_of_neg (by simp), ← ih]
    · rw [List.filter_cons_of_pos (by simp [hno]), ← ih]

end DefinitionFilter

/-! ## The grammar of a collection -/

/-- Which documents are filters of a kind of record, and which names such a filter knows. -/
structure FilterGrammar (R : Type) {F K : Type} [Queryable R F K] (isFilter : Json → Prop) (known : List String) :
    Prop where
  isObject : ∀ {filter : Json}, isFilter filter → filter.IsObject
  exists_read_iff : ∀ {filter : Json}, filter.IsOrdered →
    ((∃ f, Queryable.readFilter R filter = .ok f) ↔ isFilter filter)
  unknownFields : ∀ {members : List (String × Json)} {f : F}, Queryable.readFilter R (.object members) = .ok f →
    Queryable.unknownFields R f = (members.map Prod.fst).filter (· ∉ known)

theorem ProductFilter.grammar : FilterGrammar Product IsFilter knownNames :=
  ⟨fun h => h.object, ProductFilter.exists_read_iff, unknownFields_readMembers⟩

theorem DefinitionFilter.grammar : FilterGrammar Definition IsFilter knownNames :=
  ⟨fun h => h.object, fun _ => DefinitionFilter.exists_read_iff, unknownFields_readMembers⟩

end ProductQuery
