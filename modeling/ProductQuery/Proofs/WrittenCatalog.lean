import Mathlib.Data.Option.Basic
import ProductQuery.Proofs.ByteOrder
import ProductQuery.Proofs.Rereading
/-!
# Proofs.WrittenCatalog — writing a catalog and loading it again

What is loaded from two documents can be written as two documents, and these are loaded as the same catalog
(`Catalog.reload`): every field is written in the form in which it is read, and what is left out of a document is what its
standard stands for.  Only an attribute value could be otherwise, since an object is written without the components that
it lacks; but no loaded measure has a null component, or another member of the name of one.
-/
namespace ProductQuery

open Json

/-! ## Scalars and choices -/

namespace Scalar

theorem rereads (s : Scalar) : Rereads decode toJson s :=
  .of_scalar rfl (decode_ofJson_eq_ok_iff.2 rfl)

theorem toJson_ne_null {s : Scalar} (hs : s ≠ .null) : s.toJson ≠ .null := by
  cases s with
  | null => exact absurd rfl hs
  | _ => exact fun h => by cases h

end Scalar

namespace Json

theorem Keeps.of_scalar {α : Type} {decode : Decoder α} {toJson : α → Json} {a : α} {s : Scalar}
    (hwritten : toJson a = s.toJson) (hs : s ≠ .null) (h : decode (.ofJson (toJson a)) = .ok a) : Keeps decode toJson a :=
  ⟨.of_scalar hwritten h, hwritten ▸ Scalar.toJson_ne_null hs⟩

theorem keeps_string (s : String) : Keeps Decode.string .string s :=
  .of_scalar (s := .string s) rfl nofun rfl

theorem keeps_bool (b : Bool) : Keeps Decode.bool .bool b :=
  .of_scalar (s := .bool b) rfl nofun rfl

theorem keeps_int64 (n : Int64) : Keeps Decode.int64 (fun n => .number (.ofInt64 n)) n :=
  .of_scalar (s := .number (.ofInt64 n)) rfl nofun (Decode.int64_eq_ok_iff.2 rfl)

theorem keeps_float (x : Binary64) : Keeps Decode.float (fun x => .number (.float x)) x :=
  .of_scalar (s := .number (.float x)) rfl nofun rfl

theorem keeps_uint64 (n : UInt64) : Keeps Decode.uint64 (fun n => .number (.ofUInt64 n)) n := by
  refine .of_scalar (s := .number (.ofUInt64 n)) rfl nofun ?_
  have hmost := n.toNat_lt
  have hrange : (0 : Int) ≤ n.toNat ∧ (n.toNat : Int) ≤ 0xFFFFFFFFFFFFFFFF := by omega
  show (ite _ _ _ : Decoded Int).map _ = .ok n
  rw [if_pos hrange]
  show Except.ok (UInt64.ofNat (n.toNat : Int).toNat) = _
  rw [Int.toNat_natCast, UInt64.ofNat_toNat]

theorem keeps_inputType (t : InputType) : Keeps InputType.decode (fun t => .string t.name) t :=
  .of_scalar (s := .string t.name) rfl nofun (by cases t <;> rfl)

theorem keeps_group (g : Group) : Keeps Group.decode (fun g => .string g.name) g :=
  .of_scalar (s := .string g.name) rfl nofun (by cases g <;> rfl)

theorem keeps_strings (l : List String) : Keeps (Decode.list Decode.string) (fun l => .array (l.map .string)) l :=
  ⟨.list fun s _ => (keeps_string s).rereads, nofun⟩

end Json

/-! ## Members of a record -/

namespace Json

variable {α : Type} {fields : List (String × Option Json)}

@[simp]
theorem optionalMember_some (name : String) (toJson : α → Json) (a : α) :
    optionalMember name toJson (some a) = [(name, toJson a)] := rfl

@[simp]
theorem optionalMember_map (name : String) (toJson : α → Json) (o : Option α) :
    optionalMember name id (o.map toJson) = optionalMember name toJson o := by
  cases o <;> rfl

/-- The members of the fields that have a value. -/
def presentMembers (fields : List (String × Option Json)) : List (String × Json) :=
  fields.filterMap fun f => f.2.map fun v => (f.1, v)

@[simp]
theorem presentMembers_nil : presentMembers [] = [] := rfl

@[simp]
theorem presentMembers_cons (name : String) (v : Option Json) (fields : List (String × Option Json)) :
    presentMembers ((name, v) :: fields) = optionalMember name id v ++ presentMembers fields := by
  cases v <;> rfl

theorem keys_presentMembers : ∀ fields : List (String × Option Json),
    ((presentMembers fields).map Prod.fst).Sublist (fields.map Prod.fst)
  | [] => List.Sublist.refl _
  | (name, none) :: rest => (keys_presentMembers rest).cons name
  | (name, some _) :: rest => (keys_presentMembers rest).cons_cons name

theorem member?_presentMembers_of_mem : ∀ {fields : List (String × Option Json)}, (fields.map Prod.fst).Nodup →
    ∀ f ∈ fields, member? f.1 (presentMembers fields) = f.2
  | (name, v) :: rest, h, f, hf => by
    obtain ⟨hname, hrest⟩ := List.nodup_cons.1 h
    rw [presentMembers_cons, member?_append]
    rcases List.mem_cons.1 hf with rfl | hf
    · have hnone : member? name (presentMembers rest) = none :=
        member?_eq_none_of_notMem fun hmem => hname ((keys_presentMembers rest).subset hmem)
      cases v <;> simp [optionalMember, hnone]
    · have hne : f.1 ≠ name := fun heq => hname (List.mem_map.2 ⟨f, hf, heq⟩)
      have hother : member? f.1 (optionalMember name id v) = none := by
        cases v <;> simp [optionalMember, hne]
      rw [hother, Option.none_or, member?_presentMembers_of_mem hrest f hf]

/-- **Of fields with distinct names each is found under its own.** -/
theorem member?_presentMembers (h : (fields.map Prod.fst).Nodup) :
    ∀ f ∈ fields, member? f.1 (presentMembers fields).reverse = f.2 := by
  intro f hf
  rw [member?_reverse_of_nodup ((keys_presentMembers fields).nodup h), member?_presentMembers_of_mem h f hf]

/-- A record of fields with distinct names has no name twice. -/
theorem HasDistinctKeys.of_fields (h : (fields.map Prod.fst).Nodup) (hvalues : ∀ f ∈ fields, ∀ v ∈ f.2, v.HasDistinctKeys) :
    (Json.object (presentMembers fields)).HasDistinctKeys := by
  refine .object ((keys_presentMembers fields).nodup h) fun m hm => ?_
  obtain ⟨f, hf, hpresent⟩ := List.mem_filterMap.1 hm
  obtain ⟨v, hv, rfl⟩ := Option.map_eq_some_iff.1 hpresent
  exact hvalues f hf v hv

end Json

/-! ## Attribute values -/

theorem Scalar.mapM_ofItems : ∀ items : List Scalar, (Node.ofItems (items.map toJson)).mapM ofNode? = some items
  | [] => rfl
  | s :: rest => by
    rw [List.map_cons, Node.ofItems, List.mapM_cons, ofNode?_ofJson.2 rfl, mapM_ofItems rest]
    rfl

namespace Measure

variable {m : Measure} {v : Json}

/-- The members of a measure, in the order in which they are written. -/
def members (m : Measure) : List (String × Json) := memberOf "value" m.value ++ memberOf "unit" m.unit ++ m.extra

theorem IsStored.notMem_extra (hm : m.IsStored) {name : String} (hname : name ∈ shape.fields) :
    name ∉ m.extra.map Prod.fst := by
  intro h
  obtain ⟨x, hx, rfl⟩ := List.mem_map.1 h
  exact hm.others x hx hname

theorem IsStored.member?_extra (hm : m.IsStored) {name : String} (hname : name ∈ shape.fields) :
    member? name m.extra = none :=
  member?_eq_none_of_notMem (hm.notMem_extra hname)

theorem IsStored.member?_members (hm : m.IsStored) (name : String) : member? name m.members.reverse =
    if name = "value" then m.value.map Scalar.toJson
    else if name = "unit" then m.unit.map Scalar.toJson else member? name m.extra := by
  rw [members, List.reverse_append, List.reverse_append, member?_append, member?_append,
    member?_reverse_of_nodup hm.extra.keys_nodup]
  by_cases hvalue : name = "value"
  · subst hvalue
    rw [hm.member?_extra (by decide)]
    simp
  · by_cases hunit : name = "unit"
    · subst hunit
      rw [hm.member?_extra (by decide)]
      simp
    · simp [hvalue, hunit]

theorem IsStored.extraPart_of_rearranges (hm : m.IsStored) {members : List (String × Json)}
    (hv : (Json.object members).Rearranges m.toJson) : extraPart (Node.ofMembers members) = .ok m.extra := by
  obtain ⟨extra, hextra⟩ := exists_extraPart_ofMembers members
  obtain ⟨hextraKeys, -, -⟩ := member?_of_extraPart hextra ""
  have hwritten : orderMembers (Node.memberValues (Node.ofMembers members)) =
      orderMembers (orderedMembers m.members) := by
    rw [Node.memberValues_ofMembers_eq_ordered]
    exact Json.object.inj hv.ordered
  rw [hextra, Piece.ok.injEq]
  -- Both lists are in order, so they are the same if every name is found alike in them.
  refine eq_of_member?_eq hextraKeys hm.extra.pairwise_precedes fun name => ?_
  obtain ⟨-, -, hlookup⟩ := member?_of_extraPart hextra name
  rw [hlookup]
  split
  · rename_i hcomponent
    exact (hm.member?_extra (List.contains_iff_mem.1 hcomponent)).symm
  · rename_i hother
    obtain ⟨hvalue, hunit⟩ : name ≠ "value" ∧ name ≠ "unit" := by simpa using hother
    rw [hwritten, member?_orderMembers, orderedMembers_eq_map, ← List.map_reverse, member?_orderedMembers,
      hm.member?_members, if_neg hvalue, if_neg hunit]
    cases hkept : member? name m.extra with
    | none => rfl
    | some w => rw [Option.map_some, ordered_of_isOrdered (hm.extra.of_member? hkept)]

/-- **A measure is read back.** -/
theorem IsStored.decode_of_rearranges (hm : m.IsStored) (hv : v.Rearranges m.toJson) :
    decode (.ofJson v) = .ok m := by
  obtain ⟨members, rfl, hkeys, hmembers⟩ := hv.exists_members
  have hrecord : (Record.members (Node.ofMembers members) none).Rearranges m.members := ⟨members, rfl, hkeys, hmembers⟩
  have hcomponent : ∀ {o : Option Scalar}, o ≠ some .null → ∀ s ∈ o, Keeps Scalar.decode Scalar.toJson s := by
    intro o ho s hs
    refine ⟨s.rereads, Scalar.toJson_ne_null fun h => ho ?_⟩
    rw [← h]
    exact hs
  rw [Node.ofJson, decode_object_eq_ok_iff]
  refine ⟨hrecord.optional (hcomponent hm.value) ?_, hrecord.optional (hcomponent hm.unit) ?_,
    hm.extraPart_of_rearranges hv, rfl⟩
  · rw [hm.member?_members, if_pos rfl]
  · rw [hm.member?_members, if_neg (by decide), if_pos rfl]

end Measure

namespace AttributeValue

variable {a : AttributeValue}

/-- **A value is read back.** -/
theorem rereads (ha : a.IsStored) : Rereads decode toJson a := by
  intro v hv
  rw [decode_eq_ok_iff]
  refine ⟨Node.readError?_ofJson v, ?_⟩
  cases a with
  | scalar s =>
    rw [hv.eq_of_scalar (s := s)]
    cases s <;> rfl
  | array items =>
    obtain ⟨vs, rfl, hitems⟩ := hv.exists_items
    rw [List.forall₂_map_right_iff] at hitems
    have hvs : vs = items.map Scalar.toJson := by
      rw [← List.forall₂_eq_eq_eq, List.forall₂_map_right_iff]
      exact hitems.imp fun v s h => h.eq_of_scalar
    rw [hvs, Node.ofJson, ofNode?, Scalar.mapM_ofItems]
    rfl
  | structured m =>
    have hm : m.IsStored := ha
    have hdecode := hm.decode_of_rearranges hv
    obtain ⟨members, rfl, -, -⟩ := hv.exists_members
    rw [Node.ofJson] at hdecode
    rw [Node.ofJson, ofNode?, hdecode]
    rfl

end AttributeValue

/-! ## Records -/

namespace Attribute

theorem rereads {a : Attribute} (ha : a.value.IsStored) : Rereads decode toJson a := by
  intro v hv
  obtain ⟨r, hnode, hr⟩ := hv.exists_record
  exact decode_eq_ok_iff.2 ⟨r, hnode, ⟨hr.field (keeps_string _).rereads rfl none,
    hr.field (AttributeValue.rereads ha) rfl _⟩, hr.closed _ _⟩

end Attribute

namespace Product

/-- **A product is read back.** -/
theorem rereads {p : Product} (hp : p.IsStored) : Rereads decode toJson p := by
  intro v hv
  obtain ⟨r, hnode, hr⟩ := hv.exists_record
  refine decode_eq_ok_iff.2 ⟨r, hnode, ⟨?_, ?_, ?_, ?_, ?_⟩, hr.closed _ _⟩
  · exact hr.field (keeps_string _).rereads rfl none
  · exact hr.field (keeps_string _).rereads rfl none
  · exact hr.field (keeps_int64 _).rereads rfl none
  · exact hr.field (keeps_int64 _).rereads rfl none
  · exact hr.field (.list fun a ha => Attribute.rereads (hp a ha)) rfl _

end Product

namespace Constraints

variable {c : Constraints}

theorem decode_eq_ok_iff {n : Node} : decode n = .ok c ↔ ∃ r, n.record? = some r ∧
    (r.optional shape "required" Decode.bool = .ok c.required ∧ r.optional shape "order" Decode.int64 = .ok c.order ∧
      r.optional shape "maxLength" Decode.uint64 = .ok c.maxLength ∧
      r.optional shape "minLength" Decode.uint64 = .ok c.minLength ∧
      r.optional shape "regex" Decode.string = .ok c.regex ∧ r.optional shape "maximum" Decode.float = .ok c.maximum ∧
      r.optional shape "minimum" Decode.float = .ok c.minimum ∧ r.optional shape "integer" Decode.bool = .ok c.integer ∧
      r.optional shape "unitList" (Decode.list Decode.string) = .ok c.unitList ∧
      r.optional shape "selection" (Decode.list Decode.string) = .ok c.selection ∧
      r.optional shape "currency" Decode.string = .ok c.currency ∧
      r.optional shape "disabled" Decode.bool = .ok c.disabled) ∧
    r.closed .text shape = .ok () := by
  rw [decode, Decode.record_eq_ok_iff_exists]
  refine exists_congr fun r => and_congr_right fun _ => and_congr_left fun _ => ?_
  rw [Piece.eq_ok_iff_exists]
  simp only [Piece.exists_seq_ok_iff, Piece.exists_map_ok_iff]
  constructor
  · rintro ⟨_, hrequired, _, horder, _, hmaxLength, _, hminLength, _, hregex, _, hmaximum, _, hminimum, _, hinteger, _,
      hunitList, _, hselection, _, hcurrency, _, hdisabled, rfl⟩
    exact ⟨hrequired, horder, hmaxLength, hminLength, hregex, hmaximum, hminimum, hinteger, hunitList, hselection,
      hcurrency, hdisabled⟩
  · rintro ⟨hrequired, horder, hmaxLength, hminLength, hregex, hmaximum, hminimum, hinteger, hunitList, hselection,
      hcurrency, hdisabled⟩
    exact ⟨_, hrequired, _, horder, _, hmaxLength, _, hminLength, _, hregex, _, hmaximum, _, hminimum, _, hinteger, _,
      hunitList, _, hselection, _, hcurrency, _, hdisabled, rfl⟩

/-- What is written of limits, name by name. -/
def fields (c : Constraints) : List (String × Option Json) :=
  [("required", c.required.map .bool), ("order", c.order.map fun n => .number (.ofInt64 n)),
    ("maxLength", c.maxLength.map fun n => .number (.ofUInt64 n)),
    ("minLength", c.minLength.map fun n => .number (.ofUInt64 n)), ("regex", c.regex.map .string),
    ("maximum", c.maximum.map fun x => .number (.float x)), ("minimum", c.minimum.map fun x => .number (.float x)),
    ("integer", c.integer.map .bool), ("unitList", c.unitList.map fun l => .array (l.map .string)),
    ("selection", c.selection.map fun l => .array (l.map .string)), ("currency", c.currency.map .string),
    ("disabled", c.disabled.map .bool)]

theorem nodup_fields (c : Constraints) : (c.fields.map Prod.fst).Nodup :=
  show shape.fields.Nodup by decide

theorem toJson_eq (c : Constraints) : c.toJson = .object (presentMembers c.fields) := by
  simp [toJson, fields]

theorem rereads (c : Constraints) : Rereads decode toJson c := by
  intro v hv
  rw [toJson_eq] at hv
  obtain ⟨r, hnode, hr⟩ := hv.exists_record
  have hmembers := member?_presentMembers c.nodup_fields
  simp only [fields, List.forall_mem_cons] at hmembers
  obtain ⟨hrequired, horder, hmaxLength, hminLength, hregex, hmaximum, hminimum, hinteger, hunitList, hselection,
    hcurrency, hdisabled, -⟩ := hmembers
  exact decode_eq_ok_iff.2 ⟨r, hnode, ⟨hr.optional (fun b _ => keeps_bool b) hrequired,
    hr.optional (fun n _ => keeps_int64 n) horder, hr.optional (fun n _ => keeps_uint64 n) hmaxLength,
    hr.optional (fun n _ => keeps_uint64 n) hminLength, hr.optional (fun s _ => keeps_string s) hregex,
    hr.optional (fun x _ => keeps_float x) hmaximum, hr.optional (fun x _ => keeps_float x) hminimum,
    hr.optional (fun b _ => keeps_bool b) hinteger, hr.optional (fun l _ => keeps_strings l) hunitList,
    hr.optional (fun l _ => keeps_strings l) hselection, hr.optional (fun s _ => keeps_string s) hcurrency,
    hr.optional (fun b _ => keeps_bool b) hdisabled⟩, hr.closed _ _⟩

theorem keeps (c : Constraints) : Keeps decode toJson c := ⟨c.rereads, nofun⟩

end Constraints

namespace Definition

/-- What is written of a definition, name by name. -/
def fields (d : Definition) : List (String × Option Json) :=
  [("id", some (.string d.id)), ("key", some (.string d.key)), ("name", some (.string d.name)),
    ("type", some (.string d.inputType.name)), ("group", d.group.map fun g => .string g.name),
    ("description", d.description.map .string), ("placeHolder", d.placeHolder.map .string),
    ("option", d.option.map Constraints.toJson), ("createdAt", some (.number (.ofInt64 d.createdAt))),
    ("updatedAt", some (.number (.ofInt64 d.updatedAt)))]

theorem nodup_fields (d : Definition) : (d.fields.map Prod.fst).Nodup :=
  show shape.fields.Nodup by decide

theorem toJson_eq (d : Definition) : d.toJson = .object (presentMembers d.fields) := by
  simp [toJson, fields]

/-- **A definition is read back.** -/
theorem rereads (d : Definition) : Rereads decode toJson d := by
  intro v hv
  rw [toJson_eq] at hv
  obtain ⟨r, hnode, hr⟩ := hv.exists_record
  have hmembers := member?_presentMembers d.nodup_fields
  simp only [fields, List.forall_mem_cons] at hmembers
  obtain ⟨hid, hkey, hname, htype, hgroup, hdescription, hplaceHolder, hoption, hcreated, hupdated, -⟩ := hmembers
  exact decode_eq_ok_iff.2 ⟨r, hnode, ⟨hr.field (keeps_string _).rereads hid none,
    hr.field (keeps_string _).rereads hkey none, hr.field (keeps_string _).rereads hname none,
    hr.field (keeps_inputType _).rereads htype none, hr.optional (fun g _ => keeps_group g) hgroup,
    hr.optional (fun s _ => keeps_string s) hdescription, hr.optional (fun s _ => keeps_string s) hplaceHolder,
    hr.optional (fun c _ => c.keeps) hoption, hr.field (keeps_int64 _).rereads hcreated none,
    hr.field (keeps_int64 _).rereads hupdated none⟩, hr.closed _ _⟩

end Definition

/-! ## Names of written members -/

theorem Scalar.hasDistinctKeys (s : Scalar) : s.toJson.HasDistinctKeys := s.isOrdered_toJson.hasDistinctKeys

theorem Measure.IsStored.hasDistinctKeys {m : Measure} (hm : m.IsStored) : m.toJson.HasDistinctKeys := by
  have hcomponents : memberOf "value" m.value ++ memberOf "unit" m.unit =
      presentMembers [("value", m.value.map Scalar.toJson), ("unit", m.unit.map Scalar.toJson)] := by
    cases m.value <;> cases m.unit <;> rfl
  refine .object (?_ : (m.members.map Prod.fst).Nodup) (?_ : ∀ x ∈ m.members, x.2.HasDistinctKeys)
  · have hkeys : (m.members.map Prod.fst).Sublist (["value", "unit"] ++ m.extra.map Prod.fst) := by
      rw [members, hcomponents, List.map_append]
      exact (keys_presentMembers _).append (List.Sublist.refl _)
    have hvalue : "value" ∉ m.extra.map Prod.fst := hm.notMem_extra (by decide)
    have hunit : "unit" ∉ m.extra.map Prod.fst := hm.notMem_extra (by decide)
    refine hkeys.nodup (List.nodup_cons.2 ⟨?_, List.nodup_cons.2 ⟨hunit, hm.extra.keys_nodup⟩⟩)
    simpa using hvalue
  · have hscalars : (Json.object (memberOf "value" m.value ++ memberOf "unit" m.unit)).HasDistinctKeys := by
      rw [hcomponents]
      exact .of_fields (by simp) (by simp [Scalar.hasDistinctKeys])
    rw [members, List.forall_mem_append]
    exact ⟨(hasDistinctKeys_object_iff.1 hscalars).2, fun x hx => (hm.extra.of_has hx).hasDistinctKeys⟩

theorem AttributeValue.hasDistinctKeys {a : AttributeValue} (ha : a.IsStored) : a.toJson.HasDistinctKeys := by
  cases a with
  | scalar s => exact s.hasDistinctKeys
  | array items => simp [toJson, Scalar.hasDistinctKeys]
  | structured m => exact Measure.IsStored.hasDistinctKeys ha

theorem Product.hasDistinctKeys {p : Product} (hp : p.IsStored) : p.toJson.HasDistinctKeys := by
  have hattributes : ∀ a ∈ p.attributes, a.toJson.HasDistinctKeys := by
    intro a ha
    simpa [Attribute.toJson] using AttributeValue.hasDistinctKeys (hp a ha)
  simpa [toJson] using hattributes

theorem Constraints.hasDistinctKeys (c : Constraints) : c.toJson.HasDistinctKeys := by
  rw [toJson_eq]
  refine .of_fields c.nodup_fields ?_
  simp only [fields, List.forall_mem_cons, Option.forall_mem_map]
  simp

theorem Definition.hasDistinctKeys (d : Definition) : d.toJson.HasDistinctKeys := by
  rw [toJson_eq]
  exact .of_fields d.nodup_fields (by simp [fields, Constraints.hasDistinctKeys])

/-! ## Documents -/

/-- The text of a document holds a value and nothing else. -/
def Contents.Holds (contents : Contents) (v : Json) : Prop :=
  ∃ symbols, contents.symbols = .ok symbols ∧ Document.read symbols = ⟨.ofJson v, false⟩

theorem Contents.holds_of_text {text : String} {v : Json} (hbytes : Symbol.ofBytes (Text.bytes text) = Symbol.ofText text)
    (hread : Document.read (Symbol.ofText text) = ⟨.ofJson v, false⟩) : Holds (.ok (Text.bytes text)) v := by
  have hall : (Symbol.ofText text).all Option.isSome = true := by
    rw [Symbol.ofText, List.all_map]
    exact List.all_eq_true.2 fun _ _ => rfl
  refine ⟨Symbol.ofText text, ?_, hread⟩
  simp only [symbols, hbytes, hall, if_true]

example : Contents.Holds (.ok (Text.bytes "\x7b\"attributes\": []\x7d")) (.object [("attributes", .array [])]) :=
  Contents.holds_of_text (by decide +kernel) (by with_unfolding_all rfl)

namespace Catalog

/-- A document of one list is read back if its records are. -/
theorem rereads_document {α : Type} {decode : Decoder α} {toJson : α → Json} {shape : Shape} {name : String} {xs : List α}
    (h : ∀ a ∈ xs, Rereads decode toJson a) :
    Rereads (Decode.record .text shape fun r => r.required shape name (Decode.list decode))
      (fun xs => .object [(name, .array (xs.map toJson))]) xs := by
  intro v hv
  obtain ⟨r, hnode, hr⟩ := hv.exists_record
  exact Decode.record_eq_ok_iff_exists.2 ⟨r, hnode, hr.field (.list h) (by simp) none, hr.closed _ _⟩

theorem readDocument_of_holds {α : Type} {decode : Decoder α} {contents : Contents} {v : Json} {a : α} (path : String)
    (hcontents : contents.Holds v) (h : decode (.ofJson v) = .ok a) : readDocument decode path contents = .ok a := by
  obtain ⟨symbols, hsymbols, hread⟩ := hcontents
  have htext : Decode.text decode symbols = .ok a := by
    unfold Decode.text
    dsimp only
    rw [hread, h]
    rfl
  unfold readDocument
  rw [hsymbols]
  show (Decode.text decode symbols).mapError _ = .ok a
  rw [htext]
  rfl

variable {productsPath attributesPath : String} {products attributes : Contents} {c : Catalog}

/-- **A catalog that was written is loaded again as the same.**  What is loaded can be written as two documents, in which
no name occurs twice, and whatever the order of members in them, both are read as the records that were written.  So the
texts of these values are loaded as the catalog, and what is written of it then is what was written before. -/
theorem reload (h : load productsPath products attributesPath attributes = .ok c) :
    c.productsDocument.HasDistinctKeys ∧ c.attributesDocument.HasDistinctKeys ∧
    ∀ ps ds : Json, ps.Rearranges c.productsDocument → ds.Rearranges c.attributesDocument →
      decodeProducts (.ofJson ps) = .ok c.products ∧ decodeAttributes (.ofJson ds) = .ok c.attributes ∧
      build c.products c.attributes = .ok c ∧
      ∀ (productsPath' attributesPath' : String) (products' attributes' : Contents), products'.Holds ps →
        attributes'.Holds ds → load productsPath' products' attributesPath' attributes' = .ok c := by
  have hstored := isStored_of_load h
  refine ⟨?_, ?_, fun ps ds hps hds => ?_⟩
  · simpa [productsDocument] using fun p hp => Product.hasDistinctKeys (hstored p hp)
  · simp [attributesDocument, Definition.hasDistinctKeys]
  · have hproducts : decodeProducts (.ofJson ps) = .ok c.products :=
      rereads_document (fun p hp => Product.rereads (hstored p hp)) ps hps
    have hattributes : decodeAttributes (.ofJson ds) = .ok c.attributes :=
      rereads_document (fun d _ => d.rereads) ds hds
    refine ⟨hproducts, hattributes, build_eq_ok_iff.2 ⟨rfl, rfl⟩, fun _ _ products' attributes' hps' hds' => ?_⟩
    exact load_eq_ok_iff.2 ⟨readDocument_of_holds _ hps' hproducts, readDocument_of_holds _ hds' hattributes⟩

/-- A product that stands as an array, a measure with a null component and another member, and a definition with limits
are loaded from documents with other members.  They are written as objects, without the null, and read back. -/
theorem reload_listed :
    let products := Text.bytes ("\x7b\"products\":[[\"p\",\"s\",1,2],\x7b\"id\":\"q\",\"skuId\":\"t\",\"createdAt\":3," ++
      "\"updatedAt\":4,\"attributes\":[\x7b\"key\":\"w\",\"value\":\x7b\"at\":[1],\"value\":null,\"unit\":\"kg\"\x7d" ++
      "\x7d]\x7d],\"x\":0\x7d")
    let attributes := Text.bytes ("\x7b\"attributes\":[\x7b\"id\":\"a\",\"key\":\"w\",\"name\":\"W\",\"type\":\"MEASURE\"," ++
      "\"option\":\x7b\"unitList\":[\"kg\"],\"minimum\":0.5\x7d,\"createdAt\":5,\"updatedAt\":6\x7d]\x7d")
    let writtenProducts := "\x7b\"products\":[\x7b\"id\":\"p\",\"skuId\":\"s\",\"createdAt\":1,\"updatedAt\":2," ++
      "\"attributes\":[]\x7d,\x7b\"id\":\"q\",\"skuId\":\"t\",\"createdAt\":3,\"updatedAt\":4," ++
      "\"attributes\":[\x7b\"key\":\"w\",\"value\":\x7b\"unit\":\"kg\",\"at\":[1]\x7d\x7d]\x7d]\x7d"
    let writtenAttributes := "\x7b\"attributes\":[\x7b\"id\":\"a\",\"key\":\"w\",\"name\":\"W\"," ++
      "\"type\":\"MEASURE\",\"option\":\x7b\"minimum\":0.5,\"unitList\":[\"kg\"]\x7d,\"createdAt\":5," ++
      "\"updatedAt\":6\x7d]\x7d"
    ∃ c, load "p.json" (.ok products) "a.json" (.ok attributes) = .ok c ∧ c.productsDocument.text = writtenProducts ∧
      c.attributesDocument.text = writtenAttributes ∧ decodeProducts (.ofJson c.productsDocument) = .ok c.products ∧
      decodeAttributes (.ofJson c.attributesDocument.ordered) = .ok c.attributes ∧
      build c.products c.attributes = .ok c := by
  intro products attributes writtenProducts writtenAttributes
  have htexts : (load "p.json" (.ok products) "a.json" (.ok attributes)).toOption.map
      (fun c => (c.productsDocument.text, c.attributesDocument.text)) = some (writtenProducts, writtenAttributes) := by
    decide +kernel
  obtain ⟨c, hc, htext⟩ := Option.map_eq_some_iff.1 htexts
  have hload := eq_ok_of_toOption hc
  obtain ⟨hdistinct, -, hreread⟩ := reload hload
  obtain ⟨hproducts, hattributes, hbuild, -⟩ := hreread _ _ (.self hdistinct) (.of_ordered _)
  exact ⟨c, hload, congrArg Prod.fst htext, congrArg Prod.snd htext, hproducts, hattributes, hbuild⟩

end Catalog
end ProductQuery
