import ProductQuery.Proofs.FilterContent
/-!
# Proofs.FilterReading — how filters are read

A document is read member by member, and the first member with a fault refuses it (`Json.FirstFault`); what is a fault,
and under which path it is reported, can be said of the document alone (`ProductFilter.MemberFault`,
`DefinitionFilter.MemberFault`).  So filters are read from exactly what looks like one, hold all that it says, are
refused for the first fault there is, and do not depend on what unknown fields hold (`filters_read_exactly`).
-/
namespace ProductQuery

/-! ## Faults of members -/

namespace Json

variable {fault : String → Json → FilterError → Prop} {rest : List (String × Json)} {name : String} {v w : Json}
  {e : FilterError}

/-- The fault of the first member that has one. -/
def FirstFault (fault : String → Json → FilterError → Prop) (members : List (String × Json)) (e : FilterError) : Prop :=
  ∃ before name v after, members = before ++ (name, v) :: after ∧ fault name v e ∧
    ∀ m ∈ before, ∀ e', ¬fault m.1 m.2 e'

theorem not_firstFault_nil : ¬FirstFault fault [] e := by
  rintro ⟨before, name, v, after, h, -⟩
  cases before <;> cases h

theorem firstFault_cons_iff : FirstFault fault ((name, v) :: rest) e ↔
    fault name v e ∨ (∀ e', ¬fault name v e') ∧ FirstFault fault rest e := by
  constructor
  · rintro ⟨before, name', v', after, h, hfault, hbefore⟩
    cases before with
    | nil =>
      cases h
      exact .inl hfault
    | cons m before =>
      cases h
      rw [List.forall_mem_cons] at hbefore
      exact .inr ⟨hbefore.1, before, name', v', after, rfl, hfault, hbefore.2⟩
  · rintro (hfault | ⟨hnot, before, name', v', after, rfl, hfault, hbefore⟩)
    · exact ⟨[], name, v, rest, rfl, hfault, fun _ h => by cases h⟩
    · exact ⟨(name, v) :: before, name', v', after, rfl, hfault, List.forall_mem_cons.2 ⟨hnot, hbefore⟩⟩

theorem firstFault_cons_of_not (hnot : ∀ e', ¬fault name v e') :
    FirstFault fault ((name, v) :: rest) e ↔ FirstFault fault rest e := by
  rw [firstFault_cons_iff]
  constructor
  · rintro (h | ⟨-, h⟩)
    · exact absurd h (hnot e)
    · exact h
  · exact fun h => .inr ⟨hnot, h⟩

/-- **Reading a member and then the rest fails with the first fault**, if each fails with its own. -/
theorem bind_eq_error_iff_firstFault {α β γ : Type} {x : FilterRead α} {y : FilterRead β} {f : α → β → γ}
    (hx : ∀ e, x = .error e ↔ fault name v e) (hy : ∀ e, y = .error e ↔ FirstFault fault rest e) :
    (do let a ← x; let b ← y; pure (f a b)) = .error e ↔ FirstFault fault ((name, v) :: rest) e := by
  have hok : (∃ a, x = .ok a) ↔ ∀ e', ¬fault name v e' := by
    rw [exists_ok_iff]
    exact forall_congr' fun e' => not_congr (hx e')
  rw [bind_bind_eq_error_iff, hx, hy, hok, firstFault_cons_iff]

theorem membersAt_eq_error_iff {path : String} :
    v.membersAt path = .error e ↔ ¬v.IsObject ∧ e = ⟨path, .expectedObject⟩ := by
  unfold membersAt
  cases v with
  | object members => exact iff_of_false (fun h => by cases h) (fun h => h.1 ⟨members, rfl⟩)
  | _ =>
    rw [Except.error.injEq, eq_comm]
    exact (and_iff_right fun ⟨_, h⟩ => by cases h).symm

theorem isObject_of_has (h : v.Has name w) : v.IsObject := by
  cases v with
  | object members => exact ⟨members, rfl⟩
  | _ => cases h

/-- The same names in the same order, and under certain names the same. -/
def MembersAgreeOn (known : List String) (members members' : List (String × Json)) : Prop :=
  List.Forall₂ (fun m m' => m.1 = m'.1 ∧ (m.1 ∈ known → m.2 = m'.2)) members members'

/-- Two objects that differ in nothing but what they hold under other names. -/
def AgreesOn (known : List String) (v w : Json) : Prop :=
  ∃ members members', v = .object members ∧ w = .object members' ∧ MembersAgreeOn known members members'

end Json

theorem Condition.read_eq_error_iff {path : String} {v : Json} {e : FilterError} :
    read path v = .error e ↔ ¬v.IsObject ∧ e = ⟨path, .expectedOperators⟩ := by
  unfold read
  cases v with
  | object members => exact iff_of_false (fun h => by cases h) (fun h => h.1 ⟨members, rfl⟩)
  | _ =>
    rw [Except.error.injEq, eq_comm]
    exact (and_iff_right fun ⟨_, h⟩ => by cases h).symm

/-! ## Faults of entries -/

namespace AttributeFilter

/-- What is wrong with the entry of an attribute: it is no object, or names components of which one is none. -/
inductive Fault (path : String) (entry : Json) : FilterError → Prop
  | notObject (h : ¬entry.IsObject) : Fault path entry ⟨path, .expectedObject⟩
  | value (h : entry.NamesComponents) {v : Json} (hv : entry.Has "value" v) (hobject : ¬v.IsObject) :
      Fault path entry ⟨path ++ "." ++ "value", .expectedOperators⟩
  | unit (h : entry.NamesComponents) (hvalue : ∀ v, entry.Has "value" v → v.IsObject) {v : Json}
      (hv : entry.Has "unit" v) (hobject : ¬v.IsObject) : Fault path entry ⟨path ++ "." ++ "unit", .expectedOperators⟩

theorem readComponent_eq_error_iff {path name : String} {members : List (String × Json)} {e : FilterError}
    (hordered : (Json.object members).IsOrdered) : readComponent path name members = .error e ↔
      (∃ v, (Json.object members).Has name v ∧ ¬v.IsObject) ∧ e = ⟨path ++ "." ++ name, .expectedOperators⟩ := by
  simp only [← hordered.member?_eq_some_iff]
  unfold readComponent
  cases hm : Json.member? name members with
  | none => simp
  | some w =>
    simp only [Option.some.injEq, exists_eq_left']
    rw [← Condition.read_eq_error_iff]
    exact map_eq_error_iff

theorem read_eq_error_iff {path : String} {entry : Json} {e : FilterError} (hordered : entry.IsOrdered) :
    read path entry = .error e ↔ Fault path entry e := by
  unfold read
  rw [bind_eq_error_iff, Json.membersAt_eq_error_iff]
  constructor
  · rintro (⟨hobject, rfl⟩ | ⟨members, hmembers, h⟩)
    · exact .notObject hobject
    · obtain rfl := Json.membersAt_eq_ok hmembers
      split at h
      · rename_i hs
        have hnames := (isStructured_iff members).1 hs
        rw [bind_bind_eq_error_iff, readComponent_eq_error_iff hordered, readComponent_eq_error_iff hordered,
          exists_readComponent_iff hordered] at h
        -- The value is read first, so a fault of the unit shows only where the value has none.
        rcases h with ⟨⟨v, hv, hobject⟩, rfl⟩ | ⟨hvalue, ⟨v, hv, hobject⟩, rfl⟩
        · exact .value hnames hv hobject
        · exact .unit hnames hvalue hv hobject
      · cases h
  · intro h
    have hstructured : ∀ {members : List (String × Json)}, (Json.object members).NamesComponents →
        isStructured members = true := fun hnames => (isStructured_iff _).2 hnames
    cases h with
    | notObject hobject => exact .inl ⟨hobject, rfl⟩
    | value hnames hv hobject =>
      obtain ⟨members, rfl⟩ := Json.isObject_of_has hv
      refine .inr ⟨members, rfl, ?_⟩
      rw [if_pos (hstructured hnames), bind_bind_eq_error_iff]
      exact .inl ((readComponent_eq_error_iff hordered).2 ⟨⟨_, hv, hobject⟩, rfl⟩)
    | unit hnames hvalue hv hobject =>
      obtain ⟨members, rfl⟩ := Json.isObject_of_has hv
      refine .inr ⟨members, rfl, ?_⟩
      rw [if_pos (hstructured hnames), bind_bind_eq_error_iff, exists_readComponent_iff hordered]
      exact .inr ⟨hvalue, (readComponent_eq_error_iff hordered).2 ⟨⟨_, hv, hobject⟩, rfl⟩⟩

end AttributeFilter

namespace ProductFilter

theorem readEntries_eq_error_iff : ∀ {members : List (String × Json)} {e : FilterError},
    (∀ m ∈ members, m.2.IsOrdered) → (readEntries members = .error e ↔
      Json.FirstFault (fun key => AttributeFilter.Fault ("attributes." ++ key)) members e)
  | [], e, _ => iff_of_false (fun h => by cases h) Json.not_firstFault_nil
  | (key, entry) :: rest, e, hordered => by
    have hentry : entry.IsOrdered := hordered _ List.mem_cons_self
    have hrest : ∀ m ∈ rest, m.2.IsOrdered := fun m hm => hordered m (List.mem_cons_of_mem _ hm)
    unfold readEntries
    exact Json.bind_eq_error_iff_firstFault (fun e => AttributeFilter.read_eq_error_iff hentry)
      (fun e => readEntries_eq_error_iff hrest)

/-- What is wrong with the entries for attributes: they are no object, or an operator is among their keys, or there is
a fault in one of them. -/
inductive AttributesFault : Json → FilterError → Prop
  | notObject {v : Json} (h : ¬v.IsObject) : AttributesFault v ⟨"attributes", .expectedObject⟩
  | operator {before after : List (String × Json)} {op : OperatorName} {w : Json}
      (h : ∀ m ∈ before, ∀ op : OperatorName, op.name ≠ m.1) :
      AttributesFault (.object (before ++ (op.name, w) :: after)) ⟨"attributes", .operatorAmongKeys op.name⟩
  | entry {members : List (String × Json)} {e : FilterError} (hno : ∀ m ∈ members, ∀ op : OperatorName, op.name ≠ m.1)
      (h : Json.FirstFault (fun key => AttributeFilter.Fault ("attributes." ++ key)) members e) :
      AttributesFault (.object members) e

theorem readAttributes_eq_error_iff {v : Json} {e : FilterError} (hordered : v.IsOrdered) :
    readAttributes v = .error e ↔ AttributesFault v e := by
  unfold readAttributes
  rw [bind_eq_error_iff, Json.membersAt_eq_error_iff]
  constructor
  · rintro (⟨hobject, rfl⟩ | ⟨members, hmembers, h⟩)
    · exact .notObject hobject
    · obtain rfl := Json.membersAt_eq_ok hmembers
      split at h
      · rename_i name w hfound
        obtain ⟨hname, before, after, rfl, hbefore⟩ := List.find?_eq_some_iff_append.1 hfound
        obtain ⟨op, rfl⟩ := isOperatorName_iff.1 hname
        obtain rfl := Except.error.inj h
        exact .operator fun m hm => isOperatorName_eq_false_iff.1 (by simpa using hbefore m hm)
      · rename_i hnone
        have hno := List.find?_eq_none.1 hnone
        rw [readEntries_eq_error_iff fun m hm => hordered.of_has hm] at h
        exact .entry (fun m hm => isOperatorName_eq_false_iff.1 (by simpa using hno m hm)) h
  · intro h
    cases h with
    | notObject hobject => exact .inl ⟨hobject, rfl⟩
    | @operator before after op w hbefore =>
      have hfound : (before ++ (op.name, w) :: after).find? (fun m => isOperatorName m.1) = some (op.name, w) := by
        refine List.find?_eq_some_iff_append.2 ⟨isOperatorName_iff.2 ⟨op, rfl⟩, before, after, rfl, fun m hm => ?_⟩
        simpa using isOperatorName_eq_false_iff.2 (hbefore m hm)
      refine .inr ⟨_, rfl, ?_⟩
      rw [hfound]
    | @entry members e hno hfirst =>
      have hnone : members.find? (fun m => isOperatorName m.1) = none :=
        List.find?_eq_none.2 fun m hm => by simpa using isOperatorName_eq_false_iff.2 (hno m hm)
      refine .inr ⟨members, rfl, ?_⟩
      rw [hnone]
      exact (readEntries_eq_error_iff fun m hm => hordered.of_has hm).2 hfirst

end ProductFilter

/-! ## Faults of filters -/

namespace Json

/-- A filter is refused because it is no object, or for the first fault of a member. -/
def Refuses (fault : String → Json → FilterError → Prop) (filter : Json) (e : FilterError) : Prop :=
  (¬filter.IsObject ∧ e = ⟨"filter", .expectedObject⟩) ∨ ∃ members, filter = .object members ∧ FirstFault fault members e

theorem bind_membersAt_eq_error_iff {α : Type} {fault : String → Json → FilterError → Prop}
    {read : List (String × Json) → FilterRead α} {filter : Json} {e : FilterError}
    (h : ∀ members, filter = .object members → (read members = .error e ↔ FirstFault fault members e)) :
    (filter.membersAt "filter" >>= read) = .error e ↔ filter.Refuses fault e := by
  rw [bind_eq_error_iff, membersAt_eq_error_iff, Refuses]
  refine or_congr_right ⟨?_, ?_⟩
  · rintro ⟨members, hmembers, hread⟩
    obtain rfl := membersAt_eq_ok hmembers
    exact ⟨members, rfl, (h members rfl).1 hread⟩
  · rintro ⟨members, rfl, hfault⟩
    exact ⟨members, rfl, (h members rfl).2 hfault⟩

theorem bind_membersAt_congr {α : Type} {known : List String} {read : List (String × Json) → FilterRead α} {v w : Json}
    (hvw : v.AgreesOn known w)
    (h : ∀ members members', MembersAgreeOn known members members' → read members = read members') :
    (v.membersAt "filter" >>= read) = (w.membersAt "filter" >>= read) := by
  obtain ⟨members, members', rfl, rfl, hagree⟩ := hvw
  exact h members members' hagree

end Json

namespace ProductFilter

/-- What is wrong with a member of a filter of products. -/
def MemberFault (name : String) (v : Json) (e : FilterError) : Prop :=
  (name = "attributes" ∧ AttributesFault v e) ∨ (name ∈ fieldNames ∧ ¬v.IsObject ∧ e = ⟨name, .expectedOperators⟩)

theorem readMembers_eq_error_iff : ∀ {members : List (String × Json)} {e : FilterError},
    (∀ m ∈ members, m.2.IsOrdered) → (readMembers members = .error e ↔ Json.FirstFault MemberFault members e)
  | [], e, _ => iff_of_false (fun h => by cases h) Json.not_firstFault_nil
  | (name, entry) :: rest, e, hordered => by
    have hentry : entry.IsOrdered := hordered _ List.mem_cons_self
    have hrest : ∀ e, readMembers rest = .error e ↔ Json.FirstFault MemberFault rest e := fun e =>
      readMembers_eq_error_iff fun m hm => hordered m (List.mem_cons_of_mem _ hm)
    unfold readMembers
    split
    · rename_i hname
      subst hname
      refine Json.bind_eq_error_iff_firstFault (fun e => ?_) hrest
      have hnot : "attributes" ∉ fieldNames := by decide
      rw [readAttributes_eq_error_iff hentry, MemberFault]
      simp [hnot]
    · rename_i hname
      split
      · rename_i field hfield
        refine Json.bind_eq_error_iff_firstFault (fun e => ?_) hrest
        have hmem : name ∈ fieldNames := mem_fieldNames.2 ⟨field, ProductField.ofName?_eq_some_iff.1 hfield⟩
        rw [Condition.read_eq_error_iff, MemberFault]
        simp [hname, hmem]
      · rename_i hnone
        have hnot : name ∉ fieldNames := by
          rw [mem_fieldNames, not_exists]
          exact ProductField.ofName?_eq_none_iff.1 hnone
        have hnofault : ∀ e, ¬MemberFault name entry e := fun e => by simp [MemberFault, hname, hnot]
        rw [bind_pure_eq_error_iff, Json.firstFault_cons_of_not hnofault, hrest]

theorem read_eq_error_iff {filter : Json} {e : FilterError} (hordered : filter.IsOrdered) :
    read filter = .error e ↔ filter.Refuses MemberFault e := by
  refine Json.bind_membersAt_eq_error_iff fun members hmembers => ?_
  subst hmembers
  exact readMembers_eq_error_iff fun m hm => hordered.of_has hm

/-- **What unknown fields hold makes no difference.** -/
theorem readMembers_congr {members members' : List (String × Json)}
    (h : Json.MembersAgreeOn knownNames members members') : readMembers members = readMembers members' := by
  induction h with
  | nil => rfl
  | @cons m m' rest rest' hm _ ih =>
    obtain ⟨name, v⟩ := m
    obtain ⟨name', v'⟩ := m'
    obtain rfl : name = name' := hm.1
    have hv : name ∈ knownNames → v = v' := hm.2
    unfold readMembers
    split
    · rename_i hname
      rw [hv (mem_knownNames.2 (.inl hname)), ih]
    · split
      · rename_i field hfield
        rw [hv (mem_knownNames.2 (.inr ⟨field, ProductField.ofName?_eq_some_iff.1 hfield⟩)), ih]
      · rw [ih]

end ProductFilter

namespace DefinitionFilter

/-- What is wrong with a member of a filter of definitions. -/
def MemberFault (name : String) (v : Json) (e : FilterError) : Prop :=
  name ∈ knownNames ∧ ¬v.IsObject ∧ e = ⟨name, .expectedOperators⟩

theorem readMembers_eq_error_iff : ∀ {members : List (String × Json)} {e : FilterError},
    readMembers members = .error e ↔ Json.FirstFault MemberFault members e
  | [], e => iff_of_false (fun h => by cases h) Json.not_firstFault_nil
  | (name, entry) :: rest, e => by
    unfold readMembers
    split
    · rename_i field hfield
      refine Json.bind_eq_error_iff_firstFault (fun e => ?_) (fun e => readMembers_eq_error_iff)
      have hmem : name ∈ knownNames := mem_knownNames.2 ⟨field, DefinitionField.ofName?_eq_some_iff.1 hfield⟩
      rw [Condition.read_eq_error_iff, MemberFault, and_iff_right hmem]
    · rename_i hnone
      have hnot : name ∉ knownNames := by
        rw [mem_knownNames, not_exists]
        exact DefinitionField.ofName?_eq_none_iff.1 hnone
      have hnofault : ∀ e, ¬MemberFault name entry e := fun e h => hnot h.1
      rw [bind_pure_eq_error_iff, Json.firstFault_cons_of_not hnofault, readMembers_eq_error_iff]

theorem read_eq_error_iff {filter : Json} {e : FilterError} :
    read filter = .error e ↔ filter.Refuses MemberFault e :=
  Json.bind_membersAt_eq_error_iff fun _ _ => readMembers_eq_error_iff

/-- **What unknown fields hold makes no difference.** -/
theorem readMembers_congr {members members' : List (String × Json)}
    (h : Json.MembersAgreeOn knownNames members members') : readMembers members = readMembers members' := by
  induction h with
  | nil => rfl
  | @cons m m' rest rest' hm _ ih =>
    obtain ⟨name, v⟩ := m
    obtain ⟨name', v'⟩ := m'
    obtain rfl : name = name' := hm.1
    have hv : name ∈ knownNames → v = v' := hm.2
    unfold readMembers
    split
    · rename_i field hfield
      rw [hv (mem_knownNames.2 ⟨field, DefinitionField.ofName?_eq_some_iff.1 hfield⟩), ih]
    · rw [ih]

end DefinitionFilter

/-! ## Reading -/

/-- How a document is read as a filter of a kind of record. -/
structure ReadsExactly (R : Type) {F K : Type} [Queryable R F K] (isFilter : Json → Prop) (isOf : F → Json → Prop)
    (fault : String → Json → FilterError → Prop) (known : List String) (filter : Json) : Prop where
  accepted : (∃ f, Queryable.readFilter R filter = .ok f) ↔ isFilter filter
  content : ∀ f, Queryable.readFilter R filter = .ok f → isOf f filter
  refused : ∀ e, Queryable.readFilter R filter = .error e ↔ filter.Refuses fault e
  uninspected : ∀ filter', filter.AgreesOn known filter' →
    Queryable.readFilter R filter = Queryable.readFilter R filter'

/-- **Filters are read from exactly what looks like one, and hold all that it says.**  What does not is refused for its
first fault, and neither depends on what unknown fields hold. -/
theorem filters_read_exactly (filter : Json) (hordered : filter.IsOrdered) :
    ReadsExactly Product ProductFilter.IsFilter ProductFilter.IsOf ProductFilter.MemberFault ProductFilter.knownNames
      filter ∧
    ReadsExactly Definition DefinitionFilter.IsFilter DefinitionFilter.IsOf DefinitionFilter.MemberFault
      DefinitionFilter.knownNames filter where
  left :=
    { accepted := ProductFilter.exists_read_iff hordered
      content := fun _ h => ProductFilter.isOf_of_read h hordered
      refused := fun _ => ProductFilter.read_eq_error_iff hordered
      uninspected := fun _ h => Json.bind_membersAt_congr h fun _ _ => ProductFilter.readMembers_congr }
  right :=
    { accepted := DefinitionFilter.exists_read_iff
      content := fun _ h => DefinitionFilter.isOf_of_read h hordered
      refused := fun _ => DefinitionFilter.read_eq_error_iff
      uninspected := fun _ h => Json.bind_membersAt_congr h fun _ _ => DefinitionFilter.readMembers_congr }

/-- Asking for a unit and an unknown brand is a filter of products; asking for a magnitude that is no condition is none,
and the fault behind it is not reported.  Definitions have no attributes, so there it is. -/
theorem filters_read_exactly_weight :
    let filter : Json := .object
      [("attributes", .object [("weight", .object [("unit", .object [("$eq", .string "kg")]), ("value", .object [])])]),
        ("brand", .number (.ofNat 5)), ("id", .object [("$ne", .string "p2")])]
    let faulty : Json := .object
      [("attributes", .object [("weight", .object [("unit", .object []), ("value", .number (.ofNat 5))])]),
        ("brand", .number (.ofNat 5)), ("id", .number (.ofNat 7))]
    (∃ f, ProductFilter.read filter = .ok f ∧ f.IsOf filter ∧ f.names = ["id", "attributes", "brand"]) ∧
      faulty.Refuses ProductFilter.MemberFault ⟨"attributes.weight.value", .expectedOperators⟩ ∧
      faulty.Refuses DefinitionFilter.MemberFault ⟨"id", .expectedOperators⟩ := by
  intro filter faulty
  have hself : filter.ordered = filter := rfl
  have hself' : faulty.ordered = faulty := rfl
  obtain ⟨hfilter, -⟩ := filters_read_exactly filter (hself ▸ Json.isOrdered_ordered filter)
  obtain ⟨hproducts, hdefinitions⟩ := filters_read_exactly faulty (hself' ▸ Json.isOrdered_ordered faulty)
  have hread : ProductFilter.read filter = .ok ⟨[(.id, ⟨[.ne (.string "p2")]⟩)],
      some [("weight", .structured (some ⟨[]⟩) (some ⟨[.eq (.string "kg")]⟩))], ["brand"]⟩ := rfl
  exact ⟨⟨_, hread, hfilter.content _ hread, rfl⟩, (hproducts.refused _).1 rfl, (hdefinitions.refused _).1 rfl⟩

end ProductQuery
