import ProductQuery.Filter.Matching
import ProductQuery.Proofs.JsonOrder
import ProductQuery.Proofs.Names
import ProductQuery.Proofs.Steps
/-!
# Proofs.FilterMeaning — what a filter of products demands

A filter is a JSON document, and what it demands of a product can be said of the document and the product alone
(`Product.Meets`): no reader, no conditions and no look-up of fields, only members and their operands, and what stands in
the product.  A filter that is read is satisfied by exactly the products that meet the document it was read from
(`Product.satisfies_iff_meets`).  Documents are in order, as every value that comes out of text is.
-/
namespace ProductQuery

/-! ## What a document demands -/

/-- A scalar as operators see it: numbers are doubles. -/
inductive Scalar.Shows : Scalar → FieldValue → Prop
  | null : Shows .null .null
  | bool (b : Bool) : Shows (.bool b) (.bool b)
  | number (n : Number) : Shows (.number n) (.number n.toBinary64)
  | string (s : String) : Shows (.string s) (.string s)

/-- A component of a measure as operators see it: undefined if there is none. -/
inductive Measure.Shows : Option Scalar → FieldValue → Prop
  | missing : Shows none .undefined
  | present {s : Scalar} {t : FieldValue} (h : s.Shows t) : Shows (some s) t

/-- The value of an attribute as operators see it. -/
inductive AttributeValue.Shows : AttributeValue → FieldValue → Prop
  | scalar {s : Scalar} {t : FieldValue} (h : s.Shows t) : Shows (.scalar s) t
  | array (items : List Scalar) : Shows (.array items) (.array items)
  | structured (m : Measure) : Shows (.structured m) (.structured m)

namespace FieldValue

/-- Equality of type and value.  Numbers are equal as doubles; an undefined field, an array and a measure equal
nothing. -/
inductive Equals : FieldValue → Json → Prop
  | null : Equals .null .null
  | bool (b : Bool) : Equals (.bool b) (.bool b)
  | number {x : Binary64} {n : Number} (h : x.value = n.toBinary64.value) : Equals (.number x) (.number n)
  | string (s : String) : Equals (.string s) (.string s)

/-- Two numbers that are related as doubles. -/
inductive Compares (rel : Int → Int → Prop) : FieldValue → Json → Prop
  | number {x : Binary64} {n : Number} (h : rel x.value n.toBinary64.value) : Compares rel (.number x) (.number n)

/-- A text, and a pattern that matches some part of it. -/
inductive Matches : FieldValue → Json → Prop
  | string {s source : String} {p : Pattern} (hp : Pattern.ofText? source = some p) (h : p.matchesIn s = true) :
      Matches (.string s) (.string source)

end FieldValue

/-- What an operator demands of a value. -/
def OperatorName.Demands (t : FieldValue) (operand : Json) : OperatorName → Prop
  | .eq => t.Equals operand
  | .ne => ¬t.Equals operand
  | .gt => t.Compares (· > ·) operand
  | .gte => t.Compares (· ≥ ·) operand
  | .lt => t.Compares (· < ·) operand
  | .lte => t.Compares (· ≤ ·) operand
  | .among => ∃ candidates, operand = .array candidates ∧ ∃ c ∈ candidates, t.Equals c
  | .exists => ∃ expected, operand = .bool expected ∧ (expected = true ↔ t ≠ .undefined ∧ t ≠ .null)
  | .regex => t.Matches operand

/-- What a member demands of a value: what the operator of its name does, or equality if there is none. -/
def FieldValue.Demanded (t : FieldValue) (name : String) (operand : Json) : Prop :=
  (∃ op : OperatorName, op.name = name ∧ op.Demands t operand) ∨
    (∀ op : OperatorName, op.name ≠ name) ∧ t.Equals operand

namespace Json

/-- All members of an object hold of a value. -/
def HoldsOf (entry : Json) (t : FieldValue) : Prop := ∀ name operand, entry.Has name operand → t.Demanded name operand

/-- An entry names a component and no operator. -/
structure NamesComponents (entry : Json) : Prop where
  component : ∃ v, entry.Has "value" v ∨ entry.Has "unit" v
  noOperator : ∀ (op : OperatorName) v, ¬entry.Has op.name v

end Json

namespace AttributeValue

/-- The value is a measure, and what an entry gives for a component holds of that component. -/
def MeetsComponents (a : AttributeValue) (entry : Json) : Prop :=
  ∃ m, a = .structured m ∧ (∀ v, entry.Has "value" v → ∃ t, Measure.Shows m.value t ∧ v.HoldsOf t) ∧
    ∀ v, entry.Has "unit" v → ∃ t, Measure.Shows m.unit t ∧ v.HoldsOf t

/-- An entry holds of the value or, if that is a measure, of one of the components that it has. -/
def MeetsWhole (a : AttributeValue) (entry : Json) : Prop :=
  (∃ t, a.Shows t ∧ entry.HoldsOf t) ∨ ∃ m, a = .structured m ∧
    ((∃ s t, m.value = some s ∧ s.Shows t ∧ entry.HoldsOf t) ∨ ∃ s t, m.unit = some s ∧ s.Shows t ∧ entry.HoldsOf t)

end AttributeValue

namespace Product

/-- An attribute is the first of a product that has the key. -/
def HasFirst (p : Product) (key : String) (a : Attribute) : Prop :=
  ∃ before after, p.attributes = before ++ a :: after ∧ a.key = key ∧ ∀ b ∈ before, b.key ≠ key

/-- What the entry of an attribute demands of a product. -/
structure MeetsEntry (p : Product) (key : String) (entry : Json) : Prop where
  missing : (∀ a ∈ p.attributes, a.key ≠ key) → entry = .object [("$exists", .bool false)]
  components : ∀ a, p.HasFirst key a → entry.NamesComponents → a.value.MeetsComponents entry
  whole : ∀ a, p.HasFirst key a → ¬entry.NamesComponents → a.value.MeetsWhole entry

/-- **What a filter demands of a product.** -/
structure Meets (p : Product) (filter : Json) : Prop where
  id : ∀ entry, filter.Has "id" entry → entry.HoldsOf (.string p.id)
  skuId : ∀ entry, filter.Has "skuId" entry → entry.HoldsOf (.string p.skuId)
  createdAt : ∀ entry, filter.Has "createdAt" entry → entry.HoldsOf (.number (.ofInt p.createdAt.toInt))
  updatedAt : ∀ entry, filter.Has "updatedAt" entry → entry.HoldsOf (.number (.ofInt p.updatedAt.toInt))
  attributes : ∀ entries, filter.Has "attributes" entries → ∀ key entry, entries.Has key entry → p.MeetsEntry key entry

end Product

/-! ## What is seen of a product -/

@[simp]
theorem Scalar.shows_iff {s : Scalar} {t : FieldValue} : s.Shows t ↔ t = .ofScalar s := by
  constructor
  · rintro ⟨⟩ <;> rfl
  · rintro rfl
    cases s <;> constructor

@[simp]
theorem Measure.shows_iff {s : Option Scalar} {t : FieldValue} : Shows s t ↔ t = .ofOption s := by
  constructor
  · rintro (_ | h)
    · rfl
    · exact Scalar.shows_iff.1 h
  · rintro rfl
    cases s with
    | none => exact .missing
    | some s => exact .present (Scalar.shows_iff.2 rfl)

theorem Measure.any_components_iff {m : Measure} {p : Scalar → Bool} : m.components.any p = true ↔
    (∃ s, m.value = some s ∧ p s = true) ∨ ∃ s, m.unit = some s ∧ p s = true := by
  simp [components]

namespace AttributeValue

variable {a : AttributeValue} {entry : Json}

@[simp]
theorem shows_iff {t : FieldValue} : a.Shows t ↔ t = .ofAttribute a := by
  constructor
  · rintro (h | _ | _)
    · exact Scalar.shows_iff.1 h
    · rfl
    · rfl
  · rintro rfl
    cases a with
    | scalar s => exact .scalar (Scalar.shows_iff.2 rfl)
    | array items => exact .array items
    | structured m => exact .structured m

theorem meetsComponents_iff : a.MeetsComponents entry ↔ ∃ m, a = .structured m ∧
    (∀ v, entry.Has "value" v → v.HoldsOf (.ofOption m.value)) ∧
      ∀ v, entry.Has "unit" v → v.HoldsOf (.ofOption m.unit) := by
  simp [MeetsComponents]

theorem meetsWhole_iff : a.MeetsWhole entry ↔ entry.HoldsOf (.ofAttribute a) ∨ ∃ m, a = .structured m ∧
    ((∃ s, m.value = some s ∧ entry.HoldsOf (.ofScalar s)) ∨ ∃ s, m.unit = some s ∧ entry.HoldsOf (.ofScalar s)) := by
  simp [MeetsWhole]

end AttributeValue

namespace Product

variable {p : Product} {key : String} {a : Attribute} {entry : Json}

theorem attribute?_eq_some_iff : p.attribute? key = some a ↔ p.HasFirst key a := by
  rw [attribute?, List.find?_eq_some_iff_append, decide_eq_true_iff]
  constructor
  · rintro ⟨hkey, before, after, hsplit, hbefore⟩
    exact ⟨before, after, hsplit, hkey, fun b hb => by simpa using hbefore b hb⟩
  · rintro ⟨before, after, hsplit, hkey, hbefore⟩
    exact ⟨hkey, before, after, hsplit, fun b hb => by simpa using hbefore b hb⟩

theorem attribute?_eq_none_iff : p.attribute? key = none ↔ ∀ a ∈ p.attributes, a.key ≠ key := by
  simp only [attribute?, List.find?_eq_none, decide_eq_true_iff]

/-- Of a product without the attribute an entry demands to be the one for that. -/
theorem meetsEntry_of_none (h : p.attribute? key = none) :
    p.MeetsEntry key entry ↔ entry = .object [("$exists", .bool false)] := by
  have hfirst : ∀ b, ¬p.HasFirst key b := by
    intro b hb
    cases h.symm.trans (attribute?_eq_some_iff.2 hb)
  exact ⟨fun hm => hm.missing (attribute?_eq_none_iff.1 h),
    fun he => ⟨fun _ => he, fun b hb => absurd hb (hfirst b), fun b hb => absurd hb (hfirst b)⟩⟩

/-- Of a product with the attribute an entry demands what its kind does. -/
theorem meetsEntry_of_some (h : p.attribute? key = some a) : p.MeetsEntry key entry ↔
    (entry.NamesComponents → a.value.MeetsComponents entry) ∧
      (¬entry.NamesComponents → a.value.MeetsWhole entry) := by
  have hfirst : ∀ b, p.HasFirst key b ↔ a = b := by
    intro b
    rw [← attribute?_eq_some_iff, h, Option.some.injEq]
  have hsome : ¬∀ b ∈ p.attributes, b.key ≠ key := by
    rw [← attribute?_eq_none_iff, h]
    exact nofun
  constructor
  · exact fun hm => ⟨hm.components a ((hfirst a).2 rfl), hm.whole a ((hfirst a).2 rfl)⟩
  · rintro ⟨hcomponents, hwhole⟩
    refine ⟨fun hnone => absurd hnone hsome, fun b hb => ?_, fun b hb => ?_⟩
    · obtain rfl := (hfirst b).1 hb
      exact hcomponents
    · obtain rfl := (hfirst b).1 hb
      exact hwhole

theorem meets_iff {filter : Json} : p.Meets filter ↔
    (∀ (f : ProductField) entry, filter.Has f.name entry → entry.HoldsOf (p.field f)) ∧
      ∀ entries, filter.Has "attributes" entries → ∀ key entry, entries.Has key entry → p.MeetsEntry key entry := by
  constructor
  · rintro ⟨hid, hskuId, hcreatedAt, hupdatedAt, hattributes⟩
    refine ⟨fun f => ?_, hattributes⟩
    cases f with
    | id => exact hid
    | skuId => exact hskuId
    | createdAt => exact hcreatedAt
    | updatedAt => exact hupdatedAt
  · rintro ⟨hfields, hattributes⟩
    exact ⟨hfields .id, hfields .skuId, hfields .createdAt, hfields .updatedAt, hattributes⟩

end Product

/-! ## Operators and conditions -/

theorem OperatorName.demands_exists_iff {t : FieldValue} {operand : Json} :
    OperatorName.exists.Demands t operand ↔ operand = .bool (!t.isAbsent) := by
  have hpresent : ∀ expected : Bool, (expected = true ↔ t ≠ .undefined ∧ t ≠ .null) ↔ expected = !t.isAbsent := by
    intro expected
    cases t <;> cases expected <;> simp
  simp only [Demands, hpresent, exists_eq_right]

theorem FieldValue.strictEq_iff (t : FieldValue) (v : Json) : t.strictEq v = true ↔ t.Equals v := by
  constructor
  · intro h
    unfold strictEq at h
    split at h
    · exact .null
    · obtain rfl := of_decide_eq_true h
      exact .bool _
    · exact .number (of_decide_eq_true h)
    · obtain rfl := of_decide_eq_true h
      exact .string _
    · cases h
  · intro h
    cases h with
    | null => rfl
    | bool b => exact decide_eq_true rfl
    | number h => exact decide_eq_true h
    | string s => exact decide_eq_true rfl

theorem FieldValue.comparesTo_iff (rel : Int → Int → Prop) (holds : Binary64 → Binary64 → Bool)
    (hrel : ∀ x y, holds x y = true ↔ rel x.value y.value) (t : FieldValue) (v : Json) :
    t.comparesTo v holds = true ↔ t.Compares rel v := by
  constructor
  · intro h
    unfold comparesTo at h
    split at h
    · exact .number ((hrel _ _).1 h)
    · cases h
  · intro h
    cases h with
    | number h => exact (hrel _ _).2 h

namespace Operator

theorem holds_among (t : FieldValue) (v : Json) :
    (among v).holds t = true ↔ ∃ candidates, v = .array candidates ∧ ∃ c ∈ candidates, t.Equals c := by
  cases v with
  | array candidates =>
    rw [holds, List.any_eq_true]
    constructor
    · rintro ⟨c, hc, h⟩
      exact ⟨candidates, rfl, c, hc, (t.strictEq_iff c).1 h⟩
    · rintro ⟨_, ⟨⟩, c, hc, h⟩
      exact ⟨c, hc, (t.strictEq_iff c).2 h⟩
  | _ =>
    refine iff_of_false (fun h => by cases h) ?_
    rintro ⟨_, h, -⟩
    cases h

theorem holds_exists (t : FieldValue) (v : Json) : (Operator.exists v).holds t = true ↔ v = .bool (!t.isAbsent) := by
  cases v with
  | bool expected =>
    rw [holds, decide_eq_true_iff, Json.bool.injEq]
    exact eq_comm
  | _ => exact iff_of_false (fun h => by cases h) (fun h => by cases h)

theorem holds_regex (t : FieldValue) (v : Json) : (regex (pattern? v)).holds t = true ↔ t.Matches v := by
  constructor
  · intro h
    simp only [holds] at h
    split at h
    · rename_i s p hp
      cases v with
      | string source => exact .string hp h
      | _ => cases hp
    · cases h
  · intro h
    cases h with
    | string hp h => simp only [holds, pattern?, hp, h]

/-- **An operator that is read holds of what it demands.** -/
theorem holds_ofMember_name (t : FieldValue) (op : OperatorName) (v : Json) :
    (ofMember op.name v).holds t = true ↔ op.Demands t v := by
  unfold ofMember
  rw [OperatorName.ofName?_name]
  cases op with
  | eq => exact t.strictEq_iff v
  | ne =>
    show (!t.strictEq v) = true ↔ ¬t.Equals v
    rw [← t.strictEq_iff, Bool.not_eq_true', Bool.not_eq_true]
  | gt => exact FieldValue.comparesTo_iff (· > ·) (fun a b => b.lt a) (fun _ _ => decide_eq_true_iff) t v
  | gte => exact FieldValue.comparesTo_iff (· ≥ ·) (fun a b => b.le a) (fun _ _ => decide_eq_true_iff) t v
  | lt => exact FieldValue.comparesTo_iff (· < ·) (fun a b => a.lt b) (fun _ _ => decide_eq_true_iff) t v
  | lte => exact FieldValue.comparesTo_iff (· ≤ ·) (fun a b => a.le b) (fun _ _ => decide_eq_true_iff) t v
  | among => exact holds_among t v
  | «exists» => exact (holds_exists t v).trans OperatorName.demands_exists_iff.symm
  | regex => exact holds_regex t v

theorem holds_ofMember (t : FieldValue) (name : String) (v : Json) :
    (ofMember name v).holds t = true ↔ t.Demanded name v := by
  cases hname : OperatorName.ofName? name with
  | some op =>
    obtain rfl := OperatorName.ofName?_eq_some_iff.1 hname
    rw [holds_ofMember_name]
    constructor
    · exact fun h => .inl ⟨op, rfl, h⟩
    · rintro (⟨op', hop, h⟩ | ⟨hno, -⟩)
      · obtain rfl := OperatorName.name_inj hop
        exact h
      · exact absurd rfl (hno op)
  | none =>
    have hno := OperatorName.ofName?_eq_none_iff.1 hname
    have hop : ofMember name v = .unrecognized name v := by rw [ofMember, hname]
    rw [hop, holds, FieldValue.strictEq_iff]
    constructor
    · exact fun h => .inr ⟨hno, h⟩
    · rintro (⟨op, hop, -⟩ | ⟨-, h⟩)
      · exact absurd hop (hno op)
      · exact h

end Operator

namespace Condition

/-- **The condition of an object holds of what the object demands.** -/
theorem holds_ofMembers (members : List (String × Json)) (t : FieldValue) :
    (ofMembers members).holds t = true ↔ (Json.object members).HoldsOf t := by
  rw [holds, ofMembers, List.all_map, List.all_eq_true]
  constructor
  · intro h name operand hmem
    exact (Operator.holds_ofMember t name operand).1 (h (name, operand) hmem)
  · intro h m hmem
    exact (Operator.holds_ofMember t m.1 m.2).2 (h m.1 m.2 hmem)

theorem ofMember_eq_exists_iff {name : String} {v operand : Json} :
    Operator.ofMember name v = .exists operand ↔ name = "$exists" ∧ v = operand := by
  constructor
  · intro h
    unfold Operator.ofMember at h
    split at h <;> cases h
    rename_i hname
    exact ⟨(OperatorName.ofName?_eq_some_iff.1 hname).symm, rfl⟩
  · rintro ⟨rfl, rfl⟩
    rfl

/-- Only one object is exactly the demand that the value be absent. -/
theorem isNotExists_ofMembers (members : List (String × Json)) :
    (ofMembers members).isNotExists = true ↔ members = [("$exists", .bool false)] := by
  constructor
  · intro h
    unfold isNotExists at h
    split at h
    · rename_i hops
      obtain ⟨m, rfl, hm⟩ := List.map_eq_singleton_iff.1 hops
      obtain ⟨hname, hv⟩ := ofMember_eq_exists_iff.1 hm
      rw [← hname, ← hv]
    · cases h
  · rintro rfl
    rfl

theorem holds_of_read {path : String} {v : Json} {c : Condition} (h : read path v = .ok c) (t : FieldValue) :
    c.holds t = true ↔ v.HoldsOf t := by
  cases v with
  | object members =>
    obtain rfl := Except.ok.inj h
    exact holds_ofMembers members t
  | _ => cases h

end Condition

/-! ## Entries of attributes -/

theorem Json.membersAt_eq_ok {path : String} {v : Json} {members : List (String × Json)}
    (h : v.membersAt path = .ok members) : v = .object members := by
  cases v with
  | object _ => rw [Except.ok.inj h]
  | _ => cases h

namespace AttributeFilter

theorem isStructured_iff (members : List (String × Json)) :
    isStructured members = true ↔ (Json.object members).NamesComponents := by
  unfold isStructured
  rw [Bool.and_eq_true, List.any_eq_true, Bool.not_eq_true', List.any_eq_false]
  constructor
  · rintro ⟨⟨⟨name, v⟩, hmem, hname⟩, hno⟩
    refine ⟨⟨v, ?_⟩, fun op w hop => hno _ hop (isOperatorName_iff.2 ⟨op, rfl⟩)⟩
    rw [Bool.or_eq_true, decide_eq_true_iff, decide_eq_true_iff] at hname
    rcases hname with rfl | rfl
    · exact .inl hmem
    · exact .inr hmem
  · rintro ⟨⟨v, hv⟩, hno⟩
    refine ⟨?_, fun m hm hop => ?_⟩
    · rcases hv with hv | hv
      · exact ⟨_, hv, rfl⟩
      · exact ⟨_, hv, rfl⟩
    · obtain ⟨op, hop⟩ := isOperatorName_iff.1 hop
      exact hno op m.2 (hop ▸ hm)

/-- The condition that is read for a component holds if the component meets what is given for it. -/
theorem holds_of_readComponent {path name : String} {members : List (String × Json)} {c : Option Condition}
    (h : readComponent path name members = .ok c) (hordered : (Json.object members).IsOrdered) (t : FieldValue) :
    c.all (·.holds t) = true ↔ ∀ v, (Json.object members).Has name v → v.HoldsOf t := by
  unfold readComponent at h
  cases hm : Json.member? name members with
  | none =>
    rw [hm] at h
    obtain rfl := Except.ok.inj h
    refine iff_of_true rfl fun v hv => ?_
    rw [← hordered.member?_eq_some_iff, hm] at hv
    cases hv
  | some w =>
    rw [hm] at h
    cases hread : Condition.read (path ++ "." ++ name) w with
    | error e =>
      simp only [hread] at h
      cases h
    | ok c' =>
      simp only [hread] at h
      obtain rfl := Except.ok.inj h
      rw [Option.all_some, Condition.holds_of_read hread]
      constructor
      · intro hw v hv
        rw [← hordered.member?_eq_some_iff, hm] at hv
        obtain rfl := Option.some.inj hv
        exact hw
      · exact fun hall => hall w (hordered.member?_eq_some_iff.1 hm)

/-- **How an entry is read**: as conditions on components, or as one on the value as a whole. -/
theorem read_eq_ok {path : String} {entry : Json} {f : AttributeFilter} (h : read path entry = .ok f) :
    ∃ members, entry = .object members ∧
      ((isStructured members = true ∧ ∃ value unit, readComponent path "value" members = .ok value ∧
          readComponent path "unit" members = .ok unit ∧ f = .structured value unit) ∨
        (isStructured members = false ∧ f = .plain (.ofMembers members))) := by
  unfold read at h
  obtain ⟨members, hmembers, h⟩ := bind_eq_ok_iff.1 h
  refine ⟨members, Json.membersAt_eq_ok hmembers, ?_⟩
  cases hs : isStructured members with
  | true =>
    rw [hs, if_pos rfl] at h
    obtain ⟨value, hvalue, h⟩ := bind_eq_ok_iff.1 h
    obtain ⟨unit, hunit, h⟩ := bind_eq_ok_iff.1 h
    exact .inl ⟨rfl, value, unit, hvalue, hunit, (Except.ok.inj h).symm⟩
  | false =>
    rw [hs, if_neg Bool.false_ne_true] at h
    exact .inr ⟨rfl, (Except.ok.inj h).symm⟩

/-- The condition of an entry, tried on a value and then on the components of a measure. -/
theorem holds_plain (members : List (String × Json)) (a : AttributeValue) :
    (plain (.ofMembers members)).holds a = true ↔ a.MeetsWhole (.object members) := by
  unfold holds Condition.holdsWithin
  rw [Bool.or_eq_true, Condition.holds_ofMembers, AttributeValue.meetsWhole_iff]
  refine or_congr_right ?_
  cases a with
  | structured m =>
    show m.components.any _ = true ↔ _
    simp only [Measure.any_components_iff, Condition.holds_ofMembers]
    constructor
    · exact fun h => ⟨m, rfl, h⟩
    · rintro ⟨_, ⟨⟩, h⟩
      exact h
  | scalar s =>
    refine iff_of_false (fun h => ?_) (fun ⟨_, h, _⟩ => by cases h)
    cases s <;> cases h
  | array items => exact iff_of_false (fun h => by cases h) (fun ⟨_, h, _⟩ => by cases h)

/-- The conditions of an entry, each on its component of a measure. -/
theorem holds_structured {path : String} {members : List (String × Json)} {value unit : Option Condition}
    (hvalue : readComponent path "value" members = .ok value) (hunit : readComponent path "unit" members = .ok unit)
    (hordered : (Json.object members).IsOrdered) (a : AttributeValue) :
    (structured value unit).holds a = true ↔ a.MeetsComponents (.object members) := by
  rw [AttributeValue.meetsComponents_iff]
  cases a with
  | structured m =>
    show (value.all _ && unit.all _) = true ↔ _
    rw [Bool.and_eq_true, holds_of_readComponent hvalue hordered, holds_of_readComponent hunit hordered]
    constructor
    · exact fun h => ⟨m, rfl, h⟩
    · rintro ⟨_, ⟨⟩, h⟩
      exact h
  | scalar s => exact iff_of_false (fun h => by cases h) (fun ⟨_, h, _⟩ => by cases h)
  | array items => exact iff_of_false (fun h => by cases h) (fun ⟨_, h, _⟩ => by cases h)

/-- Only an entry that is exactly the demand that the attribute be absent holds where there is none. -/
theorem holdsOfMissing_iff {path : String} {entry : Json} {f : AttributeFilter} (h : read path entry = .ok f) :
    f.holdsOfMissing = true ↔ entry = .object [("$exists", .bool false)] := by
  obtain ⟨members, rfl, ⟨hs, value, unit, -, -, rfl⟩ | ⟨-, rfl⟩⟩ := read_eq_ok h
  · refine iff_of_false Bool.false_ne_true ?_
    rintro ⟨⟩
    exact absurd hs (by decide)
  · rw [holdsOfMissing, Condition.isNotExists_ofMembers, Json.object.injEq]

theorem holds_iff {path : String} {entry : Json} {f : AttributeFilter} (h : read path entry = .ok f)
    (hordered : entry.IsOrdered) (a : AttributeValue) :
    f.holds a = true ↔ (entry.NamesComponents → a.MeetsComponents entry) ∧
      (¬entry.NamesComponents → a.MeetsWhole entry) := by
  obtain ⟨members, rfl, ⟨hs, value, unit, hvalue, hunit, rfl⟩ | ⟨hs, rfl⟩⟩ := read_eq_ok h
  · have hnames := (isStructured_iff members).1 hs
    rw [holds_structured hvalue hunit hordered]
    exact ⟨fun h => ⟨fun _ => h, fun hn => absurd hnames hn⟩, fun h => h.1 hnames⟩
  · have hnames : ¬(Json.object members).NamesComponents := by
      rw [← isStructured_iff, hs]
      exact Bool.false_ne_true
    rw [holds_plain]
    exact ⟨fun h => ⟨fun hn => absurd hn hnames, fun _ => h⟩, fun h => h.2 hnames⟩

/-- **A product satisfies an entry that is read if it meets the entry.** -/
theorem attributeSatisfies_iff {path : String} {entry : Json} {f : AttributeFilter} (h : read path entry = .ok f)
    (hordered : entry.IsOrdered) (p : Product) (key : String) :
    p.attributeSatisfies key f = true ↔ p.MeetsEntry key entry := by
  unfold Product.attributeSatisfies
  cases ha : p.attribute? key with
  | none => rw [Product.meetsEntry_of_none ha, holdsOfMissing_iff h]
  | some a => rw [Product.meetsEntry_of_some ha, holds_iff h hordered]

end AttributeFilter

/-! ## Filters of products -/

namespace ProductFilter

theorem all_readEntries : ∀ {members : List (String × Json)} {entries : List (String × AttributeFilter)},
    readEntries members = .ok entries → (∀ m ∈ members, m.2.IsOrdered) → ∀ p : Product,
      (entries.all (fun e => p.attributeSatisfies e.1 e.2) = true ↔ ∀ m ∈ members, p.MeetsEntry m.1 m.2)
  | [], entries, h, _, p => by
    obtain rfl : [] = entries := Except.ok.inj h
    exact iff_of_true rfl (fun m hm => by cases hm)
  | (key, entry) :: rest, entries, h, hordered, p => by
    unfold readEntries at h
    obtain ⟨f, hf, h⟩ := bind_eq_ok_iff.1 h
    obtain ⟨others, hothers, h⟩ := bind_eq_ok_iff.1 h
    obtain rfl := Except.ok.inj h
    have hrest := all_readEntries hothers (fun m hm => hordered m (List.mem_cons_of_mem _ hm)) p
    have hhead := AttributeFilter.attributeSatisfies_iff hf (hordered _ List.mem_cons_self) p key
    rw [List.all_cons, Bool.and_eq_true, hhead, hrest, List.forall_mem_cons]

theorem all_readAttributes {filter : Json} {entries : List (String × AttributeFilter)}
    (h : readAttributes filter = .ok entries) (hordered : filter.IsOrdered) (p : Product) :
    entries.all (fun e => p.attributeSatisfies e.1 e.2) = true ↔
      ∀ key entry, filter.Has key entry → p.MeetsEntry key entry := by
  unfold readAttributes at h
  obtain ⟨members, hmembers, hread⟩ := bind_eq_ok_iff.1 h
  obtain rfl := Json.membersAt_eq_ok hmembers
  split at hread
  · cases hread
  · rw [all_readEntries hread (fun m hm => hordered.of_has hm)]
    exact ⟨fun hall key entry hmem => hall (key, entry) hmem, fun hall m hm => hall m.1 m.2 hm⟩

/-- **What reading one more member adds to a filter.** -/
theorem readMembers_cons_eq_ok {name : String} {entry : Json} {rest : List (String × Json)} {f : ProductFilter}
    (h : readMembers ((name, entry) :: rest) = .ok f) : ∃ g, readMembers rest = .ok g ∧
      ((name = "attributes" ∧ ∃ entries, readAttributes entry = .ok entries ∧
          f = { g with attributes := some (g.attributes.getD entries) }) ∨
        (∃ (field : ProductField) (c : Condition), name = field.name ∧ Condition.read name entry = .ok c ∧
          f = { g with fields := (field, c) :: g.fields }) ∨
        (name ≠ "attributes" ∧ (∀ field : ProductField, field.name ≠ name) ∧
          f = { g with unknownFields := name :: g.unknownFields })) := by
  unfold readMembers at h
  split at h
  · rename_i hname
    obtain ⟨entries, hentries, h⟩ := bind_eq_ok_iff.1 h
    obtain ⟨g, hg, h⟩ := bind_eq_ok_iff.1 h
    exact ⟨g, hg, .inl ⟨hname, entries, hentries, (Except.ok.inj h).symm⟩⟩
  · rename_i hname
    split at h
    · rename_i field hfield
      obtain ⟨c, hc, h⟩ := bind_eq_ok_iff.1 h
      obtain ⟨g, hg, h⟩ := bind_eq_ok_iff.1 h
      exact ⟨g, hg, .inr (.inl ⟨field, c, (ProductField.ofName?_eq_some_iff.1 hfield).symm, hc,
        (Except.ok.inj h).symm⟩)⟩
    · rename_i hnone
      obtain ⟨g, hg, h⟩ := bind_eq_ok_iff.1 h
      exact ⟨g, hg, .inr (.inr ⟨hname, ProductField.ofName?_eq_none_iff.1 hnone, (Except.ok.inj h).symm⟩)⟩

theorem forall_mem_cons_of_ne {key name : String} (h : key ≠ name) {entry : Json} {rest : List (String × Json)}
    {P : Json → Prop} : (∀ v, (key, v) ∈ (name, entry) :: rest → P v) ↔ ∀ v, (key, v) ∈ rest → P v := by
  refine forall_congr' fun v => ?_
  rw [List.mem_cons, Prod.mk.injEq]
  simp only [h, false_and, false_or]

/-- A member that names a field makes a difference to that field only. -/
theorem forall_mem_cons_of_name {K : Type} {name : K → String} (hname : ∀ {a b}, name a = name b → a = b) {k : K}
    {entry : Json} {rest : List (String × Json)} {P : K → Json → Prop} :
    (∀ a v, (name a, v) ∈ (name k, entry) :: rest → P a v) ↔ P k entry ∧ ∀ a v, (name a, v) ∈ rest → P a v := by
  constructor
  · exact fun h => ⟨h k entry List.mem_cons_self, fun a v hm => h a v (List.mem_cons_of_mem _ hm)⟩
  · rintro ⟨hhead, hrest⟩ a v hm
    rcases List.mem_cons.1 hm with heq | hm
    · obtain ⟨ha, rfl⟩ := Prod.mk.inj heq
      obtain rfl := hname ha
      exact hhead
    · exact hrest a v hm

theorem name_ne_attributes (field : ProductField) : field.name ≠ "attributes" := by cases field <;> decide

theorem all_fields_readMembers {p : Product} : ∀ {members : List (String × Json)} {f : ProductFilter},
    readMembers members = .ok f → (f.fields.all (fun e => e.2.holds (p.field e.1)) = true ↔
      ∀ (field : ProductField) entry, (field.name, entry) ∈ members → entry.HoldsOf (p.field field))
  | [], f, h => by
    obtain rfl := Except.ok.inj h
    exact iff_of_true rfl (fun _ _ hm => by cases hm)
  | (name, entry) :: rest, f, h => by
    obtain ⟨g, hg, hcases⟩ := readMembers_cons_eq_ok h
    have ih := all_fields_readMembers (p := p) hg
    -- A member that names no field leaves the conditions on fields as they are, and has no say in what they demand.
    have hother : (∀ field : ProductField, field.name ≠ name) →
        (g.fields.all (fun e => e.2.holds (p.field e.1)) = true ↔
          ∀ (field : ProductField) v, (field.name, v) ∈ (name, entry) :: rest → v.HoldsOf (p.field field)) := by
      intro hname
      rw [ih]
      exact forall_congr' fun field => (forall_mem_cons_of_ne (hname field)).symm
    rcases hcases with ⟨rfl, entries, -, rfl⟩ | ⟨field, c, rfl, hc, rfl⟩ | ⟨-, hname, rfl⟩
    · exact hother name_ne_attributes
    · rw [List.all_cons, Bool.and_eq_true, Condition.holds_of_read hc, ih]
      exact (forall_mem_cons_of_name (P := fun a v => v.HoldsOf (p.field a)) ProductField.name_inj).symm
    · exact hother hname

theorem attributes_eq_none : ∀ {members : List (String × Json)} {f : ProductFilter}, readMembers members = .ok f →
    (∀ v, ¬(Json.object members).Has "attributes" v) → f.attributes = none
  | [], f, h, _ => by
    obtain rfl := Except.ok.inj h
    rfl
  | (name, entry) :: rest, f, h, hno => by
    obtain ⟨g, hg, hcases⟩ := readMembers_cons_eq_ok h
    have ih := attributes_eq_none hg (fun v hv => hno v (List.mem_cons_of_mem _ hv))
    rcases hcases with ⟨rfl, -⟩ | ⟨field, c, -, -, rfl⟩ | ⟨-, -, rfl⟩
    · exact absurd List.mem_cons_self (hno entry)
    · exact ih
    · exact ih

theorem all_attributes_readMembers {p : Product} : ∀ {members : List (String × Json)} {f : ProductFilter},
    readMembers members = .ok f → (Json.object members).IsOrdered →
      (f.attributes.all (·.all (fun e => p.attributeSatisfies e.1 e.2)) = true ↔
        ∀ entries, ("attributes", entries) ∈ members → ∀ key entry, entries.Has key entry → p.MeetsEntry key entry)
  | [], f, h, _ => by
    obtain rfl := Except.ok.inj h
    exact iff_of_true rfl (fun _ hm => by cases hm)
  | (name, entry) :: rest, f, h, hordered => by
    obtain ⟨g, hg, hcases⟩ := readMembers_cons_eq_ok h
    have ih := all_attributes_readMembers (p := p) hg hordered.tail
    have hother : name ≠ "attributes" →
        (g.attributes.all (·.all (fun e => p.attributeSatisfies e.1 e.2)) = true ↔
          ∀ entries, ("attributes", entries) ∈ (name, entry) :: rest →
            ∀ key v, entries.Has key v → p.MeetsEntry key v) := by
      intro hname
      rw [ih]
      exact (forall_mem_cons_of_ne (Ne.symm hname)).symm
    rcases hcases with ⟨rfl, entries, hentries, rfl⟩ | ⟨field, c, rfl, -, rfl⟩ | ⟨hname, -, rfl⟩
    · -- No other member has this name, so the rest has no conditions on attributes.
      have hnone := attributes_eq_none hg hordered.not_has_head
      simp only [hnone, Option.getD_none, Option.all_some]
      rw [all_readAttributes hentries hordered.head]
      constructor
      · intro hall entries' hm
        rcases List.mem_cons.1 hm with heq | hm
        · obtain ⟨-, rfl⟩ := Prod.mk.inj heq
          exact hall
        · exact absurd hm (hordered.not_has_head entries')
      · exact fun hall => hall entry List.mem_cons_self
    · exact hother (name_ne_attributes field)
    · exact hother hname

theorem satisfies_readMembers {members : List (String × Json)} {f : ProductFilter} (h : readMembers members = .ok f)
    (hordered : (Json.object members).IsOrdered) (p : Product) : p.satisfies f = true ↔ p.Meets (.object members) := by
  rw [Product.satisfies, Bool.and_eq_true, all_fields_readMembers h, all_attributes_readMembers h hordered,
    Product.meets_iff]
  exact Iff.rfl

end ProductFilter

/-- **A filter that is read is satisfied by the products that meet its document.** -/
theorem Product.satisfies_iff_meets {filter : Json} {f : ProductFilter} (hread : ProductFilter.read filter = .ok f)
    (hordered : filter.IsOrdered) (p : Product) : p.satisfies f = true ↔ p.Meets filter := by
  obtain ⟨members, hmembers, h⟩ := bind_eq_ok_iff.1 hread
  obtain rfl := Json.membersAt_eq_ok hmembers
  exact ProductFilter.satisfies_readMembers h hordered p

/-- A product meets a filter of all kinds of entries: on fixed fields, on a null value, on a missing attribute, on a measure
as a whole and on the components of one.  It does not with another identifier, at another time, or without its unit. -/
theorem Product.satisfies_iff_meets_weight :
    let filter : Json := .object
      [("attributes", .object [("note", .object [("$eq", .null)]), ("origin", .object [("$exists", .bool false)]),
          ("size", .object [("$eq", .string "cm")]),
          ("weight", .object [("unit", .object [("$in", .array [.string "kg", .string "g"])]),
            ("value", .object [("$gte", .number (.ofInt64 2))])])]),
        ("createdAt", .object [("$eq", .number (.ofInt64 5))]), ("id", .object [("$eq", .string "p1")])]
    let note : Attribute := ⟨"note", .scalar .null⟩
    let size : Attribute := ⟨"size", .structured ⟨some (.ofInt64 3), some (.string "cm"), []⟩⟩
    let weighed : Product :=
      ⟨"p1", "s", 5, 0, [note, size, ⟨"weight", .structured ⟨some (.ofInt64 3), some (.string "kg"), []⟩⟩]⟩
    filter.IsOrdered ∧ weighed.Meets filter ∧ ¬{ weighed with id := "p2" : Product }.Meets filter ∧
      ¬{ weighed with createdAt := 6 : Product }.Meets filter ∧
      ¬{ weighed with attributes := [note, size, ⟨"weight", .structured ⟨some (.ofInt64 3), none, []⟩⟩] : Product }.Meets
        filter := by
  intro filter note size weighed
  have hself : filter.ordered = filter := rfl
  have hordered : filter.IsOrdered := hself ▸ Json.isOrdered_ordered filter
  have hread : ProductFilter.read filter = .ok ⟨[(.createdAt, ⟨[.eq (.number (.ofInt64 5))]⟩), (.id, ⟨[.eq (.string "p1")]⟩)],
      some [("note", .plain ⟨[.eq .null]⟩), ("origin", .plain ⟨[.exists (.bool false)]⟩),
        ("size", .plain ⟨[.eq (.string "cm")]⟩),
        ("weight", .structured (some ⟨[.gte (.number (.ofInt64 2))]⟩)
          (some ⟨[.among (.array [.string "kg", .string "g"])]⟩))], []⟩ := rfl
  refine ⟨hordered, (satisfies_iff_meets hread hordered weighed).1 (by decide +kernel), fun h => ?_, fun h => ?_, fun h => ?_⟩
  · exact absurd ((satisfies_iff_meets hread hordered _).2 h) (by decide +kernel)
  · exact absurd ((satisfies_iff_meets hread hordered _).2 h) (by decide +kernel)
  · exact absurd ((satisfies_iff_meets hread hordered _).2 h) (by decide +kernel)

end ProductQuery
