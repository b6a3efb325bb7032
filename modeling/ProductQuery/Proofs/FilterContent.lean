import Mathlib.Data.List.Forall2
import ProductQuery.Proofs.ByteOrder
import ProductQuery.Proofs.FilterShape
/-!
# Proofs.FilterContent — what a filter keeps of its document

What is read of an object is kept as rows, one for each member of a kind, in the order of the members' names
(`Json.Tabulates`): the operators of a condition, the entries for attributes, the fields and the names that no field has.
So a filter that is read has everything that its document says (`ProductFilter.isOf_of_read`,
`DefinitionFilter.isOf_of_read`), and its names are the names in the document, each once.
-/
namespace ProductQuery

/-! ## Rows for members -/

namespace Json

section

variable {α : Type} {kind : String → Prop} {name : α → String} {fits : α → Json → Prop} {rows : List α}
  {members : List (String × Json)}

/-- Rows for the members of an object whose names are of a kind: one for each, in the order of the names' bytes, and each
fits its member. -/
structure Tabulates (v : Json) (kind : String → Prop) (name : α → String) (fits : α → Json → Prop) (rows : List α) :
    Prop where
  object : v.IsObject
  mem_iff : ∀ key, key ∈ rows.map name ↔ kind key ∧ ∃ w, v.Has key w
  ordered : (rows.map name).Pairwise (fun a b => Text.bytes a < Text.bytes b)
  fits : ∀ row ∈ rows, ∃ w, v.Has (name row) w ∧ fits row w

theorem map_eq_of_forall₂ {kept : List (String × Json)}
    (h : List.Forall₂ (fun m row => name row = m.1 ∧ fits row m.2) kept rows) : rows.map name = kept.map Prod.fst := by
  induction h with
  | nil => rfl
  | cons hrow _ ih => rw [List.map_cons, List.map_cons, hrow.1, ih]

theorem exists_mem_of_forall₂ {kept : List (String × Json)}
    (h : List.Forall₂ (fun m row => name row = m.1 ∧ fits row m.2) kept rows) :
    ∀ row ∈ rows, ∃ w, (name row, w) ∈ kept ∧ fits row w := by
  induction h with
  | nil => exact fun _ hrow => by cases hrow
  | @cons m row _ _ hrow _ ih =>
    refine List.forall_mem_cons.2 ⟨⟨m.2, hrow.1 ▸ List.mem_cons_self, hrow.2⟩, fun row' hrow' => ?_⟩
    obtain ⟨w, hw, hfits⟩ := ih row' hrow'
    exact ⟨w, List.mem_cons_of_mem _ hw, hfits⟩

/-- **One row for each member of a kind, in their order, tabulates an object that is in order.** -/
theorem tabulates_of_forall₂ [DecidablePred kind] (hordered : (Json.object members).IsOrdered)
    (h : List.Forall₂ (fun m row => name row = m.1 ∧ fits row m.2) (members.filter (fun m => kind m.1)) rows) :
    (Json.object members).Tabulates kind name fits rows where
  object := ⟨members, rfl⟩
  mem_iff := by
    intro key
    rw [map_eq_of_forall₂ h, List.mem_map]
    constructor
    · rintro ⟨m, hm, rfl⟩
      obtain ⟨hmem, hkind⟩ := List.mem_filter.1 hm
      exact ⟨of_decide_eq_true hkind, m.2, hmem⟩
    · rintro ⟨hkind, w, hw⟩
      exact ⟨(key, w), List.mem_filter.2 ⟨hw, decide_eq_true hkind⟩, rfl⟩
  ordered := by
    rw [map_eq_of_forall₂ h]
    exact hordered.pairwise_bytes.sublist (List.filter_sublist.map Prod.fst)
  fits := by
    intro row hrow
    obtain ⟨w, hw, hfits⟩ := exists_mem_of_forall₂ h row hrow
    exact ⟨w, (List.mem_filter.1 hw).1, hfits⟩

theorem tabulates_all (hordered : (Json.object members).IsOrdered)
    (h : List.Forall₂ (fun m row => name row = m.1 ∧ fits row m.2) members rows) :
    (Json.object members).Tabulates (fun _ => True) name fits rows := by
  refine tabulates_of_forall₂ hordered ?_
  rwa [List.filter_eq_self.2 fun _ _ => decide_eq_true trivial]

/-- The names of a kind, as they stand. -/
theorem tabulates_names [DecidablePred kind] (hordered : (Json.object members).IsOrdered) :
    (Json.object members).Tabulates kind id (fun _ _ => True) ((members.map Prod.fst).filter (kind ·)) := by
  refine tabulates_of_forall₂ hordered ?_
  rw [List.filter_map, List.forall₂_map_right_iff]
  exact List.forall₂_same.2 fun _ _ => ⟨rfl, trivial⟩

end

/-- What is kept of the member of a name, if there is one. -/
inductive Gives {α : Type} (v : Json) (name : String) (fits : α → Json → Prop) : Option α → Prop
  | missing (h : ∀ w, ¬v.Has name w) : Gives v name fits none
  | present {w : Json} {a : α} (h : v.Has name w) (hfits : fits a w) : Gives v name fits (some a)

theorem Gives.cons_of_ne {α : Type} {name key : String} {fits : α → Json → Prop} {o : Option α}
    {rest : List (String × Json)} (h : (Json.object rest).Gives name fits o) (hne : name ≠ key) (entry : Json) :
    (Json.object ((key, entry) :: rest)).Gives name fits o := by
  cases h with
  | missing h =>
    refine .missing fun w hw => ?_
    rcases List.mem_cons.1 hw with heq | hw
    · exact hne (Prod.mk.inj heq).1
    · exact h w hw
  | present h hfits => exact .present (List.mem_cons_of_mem _ h) hfits

/-- The names of a kind that an object has, each once. -/
structure Names (v : Json) (kind : String → Prop) (names : List String) : Prop where
  mem_iff : ∀ key, key ∈ names ↔ kind key ∧ ∃ w, v.Has key w
  nodup : names.Nodup

theorem Tabulates.names {α : Type} {v : Json} {kind : String → Prop} {name : α → String} {fits : α → Json → Prop}
    {rows : List α} (h : v.Tabulates kind name fits rows) : v.Names kind (rows.map name) :=
  ⟨h.mem_iff, h.ordered.imp fun hlt heq => absurd (heq ▸ hlt) (List.lt_irrefl _)⟩

theorem Gives.names {α : Type} {v : Json} {name : String} {fits : α → Json → Prop} {o : Option α}
    (h : v.Gives name fits o) : v.Names (· = name) (o.map (fun _ => name)).toList := by
  cases h with
  | missing h =>
    refine ⟨fun key => iff_of_false List.not_mem_nil ?_, List.nodup_nil⟩
    rintro ⟨rfl, w, hw⟩
    exact h w hw
  | present h hfits =>
    refine ⟨fun key => ?_, List.pairwise_singleton _ _⟩
    rw [Option.map_some, Option.toList_some, List.mem_singleton]
    exact ⟨fun hkey => ⟨hkey, _, hkey ▸ h⟩, And.left⟩

namespace Names

variable {v : Json} {kind kind' : String → Prop} {names names' : List String}

theorem append (h : v.Names kind names) (h' : v.Names kind' names') (hkinds : ∀ key, kind key → ¬kind' key) :
    v.Names (fun key => kind key ∨ kind' key) (names ++ names') where
  mem_iff := by
    intro key
    rw [List.mem_append, h.mem_iff, h'.mem_iff, or_and_right]
  nodup := by
    refine List.nodup_append.2 ⟨h.nodup, h'.nodup, fun a ha b hb heq => ?_⟩
    subst heq
    exact hkinds a ((h.mem_iff a).1 ha).1 ((h'.mem_iff a).1 hb).1

theorem all_of (h : v.Names kind names) (hkind : ∀ key, kind key) : v.Names (fun _ => True) names :=
  ⟨fun key => (h.mem_iff key).trans (and_congr_left' (iff_true_intro (hkind key))), h.nodup⟩

end Names

end Json

/-! ## Conditions -/

namespace Operator

/-- An operator has the operand that its member gives: of a pattern, what the text compiles to, if it does. -/
inductive Keeps : Operator → Json → Prop
  | eq (v : Json) : Keeps (.eq v) v
  | ne (v : Json) : Keeps (.ne v) v
  | gt (v : Json) : Keeps (.gt v) v
  | gte (v : Json) : Keeps (.gte v) v
  | lt (v : Json) : Keeps (.lt v) v
  | lte (v : Json) : Keeps (.lte v) v
  | among (v : Json) : Keeps (.among v) v
  | exists (v : Json) : Keeps (.exists v) v
  | regex {p : Option Pattern} {v : Json}
      (h : ∀ q, p = some q ↔ ∃ source, v = .string source ∧ Pattern.ofText? source = some q) : Keeps (.regex p) v
  | unrecognized {name : String} (h : ∀ op : OperatorName, op.name ≠ name) (v : Json) : Keeps (.unrecognized name v) v

theorem pattern?_eq_some_iff {v : Json} {p : Pattern} :
    pattern? v = some p ↔ ∃ source, v = .string source ∧ Pattern.ofText? source = some p := by
  cases v with
  | string source => simp [pattern?]
  | _ => simp [pattern?]

/-- **The operator of a member has its name and keeps its operand.** -/
theorem ofMember_spec (name : String) (v : Json) : (ofMember name v).name = name ∧ (ofMember name v).Keeps v := by
  unfold ofMember
  cases hname : OperatorName.ofName? name with
  | none => exact ⟨rfl, .unrecognized (OperatorName.ofName?_eq_none_iff.1 hname) v⟩
  | some op =>
    obtain rfl := OperatorName.ofName?_eq_some_iff.1 hname
    cases op with
    | eq => exact ⟨rfl, .eq v⟩
    | ne => exact ⟨rfl, .ne v⟩
    | gt => exact ⟨rfl, .gt v⟩
    | gte => exact ⟨rfl, .gte v⟩
    | lt => exact ⟨rfl, .lt v⟩
    | lte => exact ⟨rfl, .lte v⟩
    | among => exact ⟨rfl, .among v⟩
    | «exists» => exact ⟨rfl, .exists v⟩
    | regex => exact ⟨rfl, .regex fun _ => pattern?_eq_some_iff⟩

end Operator

namespace Condition

/-- A condition that says what an object does: an operator for each member. -/
def IsOf (c : Condition) (v : Json) : Prop := v.Tabulates (fun _ => True) Operator.name Operator.Keeps c.operators

theorem isOf_ofMembers {members : List (String × Json)} (hordered : (Json.object members).IsOrdered) :
    (ofMembers members).IsOf (.object members) := by
  refine Json.tabulates_all hordered ?_
  rw [ofMembers, List.forall₂_map_right_iff]
  exact List.forall₂_same.2 fun m _ => Operator.ofMember_spec m.1 m.2

theorem isOf_of_read {path : String} {v : Json} {c : Condition} (h : read path v = .ok c) (hordered : v.IsOrdered) :
    c.IsOf v := by
  cases v with
  | object members =>
    obtain rfl := Except.ok.inj h
    exact isOf_ofMembers hordered
  | _ => cases h

end Condition

/-! ## Entries of attributes -/

namespace AttributeFilter

/-- What an entry says of an attribute: of each component that it gives, or of the value as a whole. -/
inductive IsOf : AttributeFilter → Json → Prop
  | plain {c : Condition} {entry : Json} (h : ¬entry.NamesComponents) (hc : c.IsOf entry) : IsOf (.plain c) entry
  | structured {value unit : Option Condition} {entry : Json} (h : entry.NamesComponents)
      (hvalue : entry.Gives "value" Condition.IsOf value) (hunit : entry.Gives "unit" Condition.IsOf unit) :
      IsOf (.structured value unit) entry

theorem gives_of_readComponent {path name : String} {members : List (String × Json)} {c : Option Condition}
    (h : readComponent path name members = .ok c) (hordered : (Json.object members).IsOrdered) :
    (Json.object members).Gives name Condition.IsOf c := by
  unfold readComponent at h
  cases hm : Json.member? name members with
  | none =>
    rw [hm] at h
    obtain rfl := Except.ok.inj h
    refine .missing fun w hw => ?_
    rw [← hordered.member?_eq_some_iff, hm] at hw
    cases hw
  | some w =>
    rw [hm] at h
    cases hread : Condition.read (path ++ "." ++ name) w with
    | error e =>
      simp only [hread] at h
      cases h
    | ok c' =>
      simp only [hread] at h
      obtain rfl := Except.ok.inj h
      exact .present (hordered.member?_eq_some_iff.1 hm) (Condition.isOf_of_read hread (hordered.of_member? hm))

theorem isOf_of_read {path : String} {entry : Json} {f : AttributeFilter} (h : read path entry = .ok f)
    (hordered : entry.IsOrdered) : f.IsOf entry := by
  obtain ⟨members, rfl, ⟨hs, value, unit, hvalue, hunit, rfl⟩ | ⟨hs, rfl⟩⟩ := read_eq_ok h
  · exact .structured ((isStructured_iff members).1 hs) (gives_of_readComponent hvalue hordered)
      (gives_of_readComponent hunit hordered)
  · refine .plain (fun hnames => ?_) (Condition.isOf_ofMembers hordered)
    rw [(isStructured_iff members).2 hnames] at hs
    cases hs

/-- What is said of attributes, for each of their keys. -/
def AreOf (entries : List (String × AttributeFilter)) (v : Json) : Prop :=
  v.Tabulates (fun _ => True) Prod.fst (fun e => e.2.IsOf) entries

end AttributeFilter

namespace ProductFilter

theorem forall₂_readEntries : ∀ {members : List (String × Json)} {entries : List (String × AttributeFilter)},
    readEntries members = .ok entries → (∀ m ∈ members, m.2.IsOrdered) →
      List.Forall₂ (fun m e => e.1 = m.1 ∧ e.2.IsOf m.2) members entries
  | [], entries, h, _ => by
    obtain rfl : [] = entries := Except.ok.inj h
    exact .nil
  | (key, entry) :: rest, entries, h, hordered => by
    unfold readEntries at h
    obtain ⟨f, hf, h⟩ := bind_eq_ok_iff.1 h
    obtain ⟨others, hothers, h⟩ := bind_eq_ok_iff.1 h
    obtain rfl := Except.ok.inj h
    have hhead : f.IsOf entry := AttributeFilter.isOf_of_read hf (hordered _ List.mem_cons_self)
    exact .cons ⟨rfl, hhead⟩ (forall₂_readEntries hothers fun m hm => hordered m (List.mem_cons_of_mem _ hm))

theorem areOf_of_readAttributes {v : Json} {entries : List (String × AttributeFilter)}
    (h : readAttributes v = .ok entries) (hordered : v.IsOrdered) : AttributeFilter.AreOf entries v := by
  unfold readAttributes at h
  obtain ⟨members, hmembers, hread⟩ := bind_eq_ok_iff.1 h
  obtain rfl := Json.membersAt_eq_ok hmembers
  split at hread
  · cases hread
  · exact Json.tabulates_all hordered (forall₂_readEntries hread fun m hm => hordered.of_has hm)

/-! ## Filters of products -/

/-- The names of the fields of products. -/
def fieldNames : List String := ProductField.all.map ProductField.name

/-- The names that a filter has. -/
def names (f : ProductFilter) : List String :=
  f.fields.map (·.1.name) ++ (f.attributes.map (fun _ => "attributes")).toList ++ f.unknownFields

/-- A filter that holds what a document does. -/
structure IsOf (f : ProductFilter) (filter : Json) : Prop where
  fields : filter.Tabulates (· ∈ fieldNames) (·.1.name) (fun m => m.2.IsOf) f.fields
  attributes : filter.Gives "attributes" AttributeFilter.AreOf f.attributes
  unknownFields : filter.Tabulates (· ∉ knownNames) id (fun _ _ => True) f.unknownFields
  /-- Every name in the document has its place, and only one. -/
  names : filter.Names (fun _ => True) f.names

theorem mem_fieldNames {name : String} : name ∈ fieldNames ↔ ∃ field : ProductField, field.name = name := by
  rw [fieldNames, ← exists_find?_eq_iff]
  exact exists_congr fun _ => ProductField.ofName?_eq_some_iff

theorem forall₂_fields : ∀ {members : List (String × Json)} {f : ProductFilter}, readMembers members = .ok f →
    (∀ m ∈ members, m.2.IsOrdered) → List.Forall₂ (fun m e => e.1.name = m.1 ∧ e.2.IsOf m.2)
      (members.filter (fun m => m.1 ∈ fieldNames)) f.fields
  | [], f, h, _ => by
    obtain rfl := Except.ok.inj h
    exact .nil
  | (name, entry) :: rest, f, h, hordered => by
    obtain ⟨g, hg, hcases⟩ := readMembers_cons_eq_ok h
    have ih := forall₂_fields hg fun m hm => hordered m (List.mem_cons_of_mem _ hm)
    rcases hcases with ⟨rfl, entries, -, rfl⟩ | ⟨field, c, rfl, hc, rfl⟩ | ⟨-, hno, rfl⟩
    · have hnot : "attributes" ∉ fieldNames := by decide
      rwa [List.filter_cons_of_neg (by simpa using hnot)]
    · have hmem : field.name ∈ fieldNames := mem_fieldNames.2 ⟨field, rfl⟩
      rw [List.filter_cons_of_pos (by simpa using hmem)]
      exact .cons ⟨rfl, Condition.isOf_of_read hc (hordered _ List.mem_cons_self)⟩ ih
    · have hnot : name ∉ fieldNames := by
        rw [mem_fieldNames]
        exact not_exists.2 hno
      rwa [List.filter_cons_of_neg (by simpa using hnot)]

theorem gives_attributes : ∀ {members : List (String × Json)} {f : ProductFilter}, readMembers members = .ok f →
    (Json.object members).IsOrdered → (Json.object members).Gives "attributes" AttributeFilter.AreOf f.attributes
  | [], f, h, _ => by
    obtain rfl := Except.ok.inj h
    exact .missing fun _ hw => by cases hw
  | (name, entry) :: rest, f, h, hordered => by
    obtain ⟨g, hg, hcases⟩ := readMembers_cons_eq_ok h
    have ih := gives_attributes hg hordered.tail
    rcases hcases with ⟨rfl, entries, hentries, rfl⟩ | ⟨field, c, rfl, -, rfl⟩ | ⟨hname, -, rfl⟩
    · -- No later member has the name, so nothing overrides these entries.
      have hnone := attributes_eq_none hg hordered.not_has_head
      simp only [hnone, Option.getD_none]
      exact .present List.mem_cons_self (areOf_of_readAttributes hentries hordered.head)
    · exact ih.cons_of_ne (Ne.symm (name_ne_attributes field)) entry
    · exact ih.cons_of_ne (Ne.symm hname) entry

/-- **A filter of products that is read holds what its document does.** -/
theorem isOf_of_read {filter : Json} {f : ProductFilter} (h : read filter = .ok f) (hordered : filter.IsOrdered) :
    f.IsOf filter := by
  obtain ⟨members, hmembers, hread⟩ := bind_eq_ok_iff.1 h
  obtain rfl := Json.membersAt_eq_ok hmembers
  have hfields := Json.tabulates_of_forall₂ hordered (forall₂_fields hread fun m hm => hordered.of_has hm)
  have hattributes := gives_attributes hread hordered
  have hunknown : (Json.object members).Tabulates (· ∉ knownNames) id (fun _ _ => True) f.unknownFields := by
    rw [unknownFields_readMembers hread]
    exact Json.tabulates_names hordered
  have hnames := hunknown.names
  rw [List.map_id] at hnames
  have hknown : ∀ key, key ∈ fieldNames ∨ key = "attributes" ↔ key ∈ knownNames := fun key => by
    rw [knownNames, List.mem_cons, or_comm]
    exact Iff.rfl
  refine ⟨hfields, hattributes, hunknown, ?_⟩
  -- The three kinds exclude each other, and every name is of one of them.
  refine ((hfields.names.append hattributes.names ?_).append hnames ?_).all_of ?_
  · rintro key hkey rfl
    exact absurd hkey (by decide)
  · exact fun key hkey hnot => hnot ((hknown key).1 hkey)
  · intro key
    rw [hknown]
    exact Decidable.em _

end ProductFilter

/-! ## Filters of definitions -/

namespace DefinitionFilter

/-- The names that a filter has. -/
def names (f : DefinitionFilter) : List String := f.fields.map (·.1.wireName) ++ f.unknownFields

/-- A filter that holds what a document does. -/
structure IsOf (f : DefinitionFilter) (filter : Json) : Prop where
  fields : filter.Tabulates (· ∈ knownNames) (·.1.wireName) (fun m => m.2.IsOf) f.fields
  unknownFields : filter.Tabulates (· ∉ knownNames) id (fun _ _ => True) f.unknownFields
  /-- Every name in the document has its place, and only one. -/
  names : filter.Names (fun _ => True) f.names

theorem forall₂_fields : ∀ {members : List (String × Json)} {f : DefinitionFilter}, readMembers members = .ok f →
    (∀ m ∈ members, m.2.IsOrdered) → List.Forall₂ (fun m e => e.1.wireName = m.1 ∧ e.2.IsOf m.2)
      (members.filter (fun m => m.1 ∈ knownNames)) f.fields
  | [], f, h, _ => by
    obtain rfl := Except.ok.inj h
    exact .nil
  | (name, entry) :: rest, f, h, hordered => by
    obtain ⟨g, hg, hcases⟩ := readMembers_cons_eq_ok h
    have ih := forall₂_fields hg fun m hm => hordered m (List.mem_cons_of_mem _ hm)
    rcases hcases with ⟨field, c, rfl, hc, rfl⟩ | ⟨hno, rfl⟩
    · rw [List.filter_cons_of_pos (by simp)]
      exact .cons ⟨rfl, Condition.isOf_of_read hc (hordered _ List.mem_cons_self)⟩ ih
    · have hnot : name ∉ knownNames := by
        rw [mem_knownNames]
        exact not_exists.2 hno
      rwa [List.filter_cons_of_neg (by simpa using hnot)]

/-- **A filter of definitions that is read holds what its document does.** -/
theorem isOf_of_read {filter : Json} {f : DefinitionFilter} (h : read filter = .ok f) (hordered : filter.IsOrdered) :
    f.IsOf filter := by
  obtain ⟨members, hmembers, hread⟩ := bind_eq_ok_iff.1 h
  obtain rfl := Json.membersAt_eq_ok hmembers
  have hfields := Json.tabulates_of_forall₂ hordered (forall₂_fields hread fun m hm => hordered.of_has hm)
  have hunknown : (Json.object members).Tabulates (· ∉ knownNames) id (fun _ _ => True) f.unknownFields := by
    rw [unknownFields_readMembers hread]
    exact Json.tabulates_names hordered
  have hnames := hunknown.names
  rw [List.map_id] at hnames
  refine ⟨hfields, hunknown, ?_⟩
  exact (hfields.names.append hnames fun key hkey hnot => hnot hkey).all_of fun key => Decidable.em _

end DefinitionFilter
end ProductQuery
