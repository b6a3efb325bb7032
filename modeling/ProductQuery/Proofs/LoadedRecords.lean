import Mathlib.Data.List.Forall2
import ProductQuery.Catalog.Document
import ProductQuery.Proofs.ValueKept
/-!
# Proofs.LoadedRecords — what a catalog is loaded from

A document lists its records, and a loaded catalog has a record for each of them, in order (`Catalog.reads_of_load`).  The
parts of a record are members of an object or, by their places, items of an array (`Json.Shape.part?`), and every field
is read from its part, or is standard where there is none (`Json.Record.given_of_field`).  So what a loaded product holds
is in a form of which there is only one: no component is null, and the other members of a measure are in order and not
named as a component is (`Product.isStored_of_reads`).
-/
namespace ProductQuery

namespace Json

variable {α : Type}

/-- A part of a record: the member of a name, or the item at its place. -/
def Shape.part? (shape : Shape) (name : String) : Json → Option Json
  | .object members => member? name members
  | .array items => items[shape.fields.idxOf name]?
  | _ => none

/-- The items of a part that is an array. -/
def Shape.listed (shape : Shape) (name : String) (v : Json) : List Json :=
  match shape.part? name v with
  | some (.array items) => items
  | _ => []

/-- Something is read from a value, whatever faults and repetitions there are in what is skipped of its text. -/
def Reads (decode : Decoder α) (v : Json) (a : α) : Prop := ∃ n : Node, n.value = v ∧ decode n = .ok a

def Node.record? : Node → Option Record
  | .object ms ending _ => some (.members ms ending)
  | .array ns ending _ => some (.items ns ending)
  | _ => none

namespace Record

def value : Record → Json
  | .members ms _ => .object (orderMembers (Node.memberValues ms))
  | .items ns _ => .array (Node.itemValues ns)

theorem value_of_record? {n : Node} {r : Record} (h : n.record? = some r) : r.value = n.value := by
  cases n <;> cases h <;> rfl

/-- **A field is read from its part, or is standard where there is none.** -/
theorem given_of_field {r : Record} {shape : Shape} {name : String} {standard : Option α} {decode : Decoder α} {a : α}
    (h : r.field shape name standard decode = .ok a) :
    Given standard (Reads decode) (shape.part? name r.value) a := by
  unfold field at h
  cases r with
  | members ms ending =>
    show Given standard _ (member? name (orderMembers (Node.memberValues ms))) a
    -- Of several members of the name the last one would count, but then nothing is read.
    rw [member?_orderMembers_memberValues]
    dsimp only at h
    split at h
    · rename_i hplaces
      rw [hplaces]
      split at h
      · obtain rfl := Piece.ok.inj h
        exact .missing rfl
      · cases h
    · rename_i i n rest hplaces
      rw [hplaces]
      split at h
      · cases h
      · rename_i hdecode
        obtain rfl := Piece.ok.inj h
        exact .present ⟨n, rfl, hdecode⟩
      · cases h
  | items ns ending =>
    show Given standard _ ((Node.itemValues ns)[shape.fields.idxOf name]?) a
    rw [Node.itemValues_eq_map, List.getElem?_map]
    dsimp only at h
    split at h
    · rename_i n hn
      rw [hn]
      cases hdecode : decode n with
      | error e =>
        rw [hdecode] at h
        cases h
      | ok b =>
        rw [hdecode] at h
        obtain rfl := Piece.ok.inj h
        exact .present ⟨n, rfl, hdecode⟩
    · rename_i b hn
      rw [hn]
      obtain rfl := Piece.ok.inj h
      exact .missing rfl
    · cases h

end Record

namespace Decode

theorem mapM_eq_ok_iff {β : Type} {f : α → Decoded β} : ∀ {xs : List α} {ys : List β},
    xs.mapM f = .ok ys ↔ List.Forall₂ (fun x y => f x = .ok y) xs ys
  | [], ys => by
    rw [List.mapM_nil, List.forall₂_nil_left_iff]
    exact ⟨fun h => (Except.ok.inj h).symm, fun h => congrArg _ h.symm⟩
  | x :: xs, ys => by
    have hrest : ∀ zs, xs.mapM f = .ok zs ↔ List.Forall₂ (fun x y => f x = .ok y) xs zs := fun _ => mapM_eq_ok_iff
    rw [List.mapM_cons, List.forall₂_cons_left_iff, bind_eq_ok_iff]
    refine exists_congr fun y => ?_
    simp only [bind_eq_ok_iff, hrest]
    constructor
    · rintro ⟨hy, rest, hrest, h⟩
      exact ⟨rest, hy, hrest, (Except.ok.inj h).symm⟩
    · rintro ⟨rest, hy, hrest, rfl⟩
      exact ⟨hy, rest, hrest, rfl⟩

theorem forall₂_of_list {decode : Decoder α} {v : Json} {xs : List α} (h : Reads (list decode) v xs) :
    ∃ vs, v = .array vs ∧ List.Forall₂ (Reads decode) vs xs := by
  obtain ⟨n, rfl, h⟩ := h
  unfold list at h
  cases n with
  | array ns ending fault =>
    obtain ⟨ys, hys, h⟩ := bind_eq_ok_iff.1 h
    refine ⟨_, rfl, ?_⟩
    split at h
    · obtain rfl := Except.ok.inj h
      rw [Node.itemValues_eq_map, List.forall₂_map_left_iff]
      exact (mapM_eq_ok_iff.1 hys).imp fun n x hx => ⟨n, rfl, hx⟩
    · cases h
  | _ => cases h

theorem record_eq_ok_iff_exists {source : Source} {shape : Shape} {parts : Record → Piece α} {n : Node} {a : α} :
    record source shape parts n = .ok a ↔
      ∃ r, n.record? = some r ∧ parts r = .ok a ∧ r.closed source shape = .ok () := by
  have hrecord : ∀ r : Record, (Piece.both (fun a _ => a) (parts r) (r.closed source shape)).toDecoded = .ok a ↔
      ∃ r', some r = some r' ∧ parts r' = .ok a ∧ r'.closed source shape = .ok () := by
    intro r
    rw [Piece.toDecoded_eq_ok_iff, Piece.both_eq_ok_iff]
    constructor
    · rintro ⟨b, _, hb, hclosed, rfl⟩
      exact ⟨r, rfl, hb, hclosed⟩
    · rintro ⟨_, ⟨⟩, ha, hclosed⟩
      exact ⟨a, (), ha, hclosed, rfl⟩
  cases n with
  | object ms ending fault => exact hrecord _
  | array ns ending fault => exact hrecord _
  | _ => exact iff_of_false (fun h => by cases h) (fun ⟨_, h, _⟩ => by cases h)

end Decode

/-- The items of a list are read each for itself. -/
theorem Shape.forall₂_listed {shape : Shape} {name : String} {standard : Option (List α)} {decode : Decoder α} {v : Json}
    {xs : List α} (hstandard : ∀ ys ∈ standard, ys = [])
    (h : Given standard (Reads (Decode.list decode)) (shape.part? name v) xs) :
    List.Forall₂ (Reads decode) (shape.listed name v) xs := by
  unfold listed
  cases hpart : shape.part? name v with
  | none =>
    rw [hpart, given_none_iff] at h
    rw [hstandard xs h]
    exact .nil
  | some w =>
    rw [hpart, given_some_iff] at h
    obtain ⟨vs, rfl, hall⟩ := Decode.forall₂_of_list h
    exact hall

end Json

open Json

/-! ## Attribute values -/

namespace Measure

/-- A measure as it is read: no component is null, and no other member is named as a component is. -/
structure IsStored (m : Measure) : Prop where
  value : m.value ≠ some .null
  unit : m.unit ≠ some .null
  extra : (Json.object m.extra).IsOrdered
  others : ∀ x ∈ m.extra, x.1 ∉ shape.fields

def component (m : Measure) (name : String) : Option Scalar := if name = "value" then m.value else m.unit

variable {members : List (String × Json)} {m : Measure}

/-- A component is the member of its name, unless that is null. -/
theorem map_toJson_component_of_reads (h : Reads decode (.object members) m) :
    ∀ name ∈ shape.fields, (m.component name).map Scalar.toJson = (member? name members).filter (fun v => !v.isNull) := by
  obtain ⟨n, hn, h⟩ := h
  cases n with
  | object ms ending fault =>
    obtain rfl := Json.object.inj hn
    obtain ⟨hvalue, hunit, -, -⟩ := decode_object_eq_ok_iff.1 h
    intro name hname
    rcases mem_shape_fields.1 hname with rfl | rfl
    · exact map_toJson_of_component hvalue
    · exact map_toJson_of_component hunit
  | _ => cases h

/-- What is read from a member that may be null is not null. -/
theorem ne_null_of_map_toJson {o : Option Scalar} {v : Option Json}
    (h : o.map Scalar.toJson = v.filter (fun v => !v.isNull)) : o ≠ some .null := by
  rintro rfl
  obtain ⟨-, hnull⟩ := Option.filter_eq_some_iff.1 h.symm
  cases hnull

theorem isStored_of_decode {n : Node} (h : decode n = .ok m) : m.IsStored := by
  cases n with
  | object ms ending fault =>
    obtain ⟨hvalue, hunit, hextra, -⟩ := decode_object_eq_ok_iff.1 h
    obtain ⟨hkeys, hvalues, -⟩ := member?_of_extraPart hextra ""
    have hordered : (Json.object m.extra).IsOrdered := .object hkeys hvalues
    refine ⟨ne_null_of_map_toJson (map_toJson_of_component hvalue), ne_null_of_map_toJson (map_toJson_of_component hunit),
      hordered, fun x hx hfield => ?_⟩
    obtain ⟨-, -, hnone⟩ := member?_of_extraPart hextra x.1
    rw [if_pos (List.contains_iff_mem.2 hfield), hordered.member?_eq_some_iff.2 hx] at hnone
    cases hnone
  | _ => cases h

end Measure

namespace AttributeValue

def IsStored : AttributeValue → Prop
  | .structured m => m.IsStored
  | _ => True

variable {a : AttributeValue} {members : List (String × Json)}

theorem isStored_of_reads {v : Json} (h : Reads decode v a) : a.IsStored := by
  obtain ⟨n, -, h⟩ := h
  obtain ⟨-, hnode⟩ := decode_eq_ok_iff.1 h
  cases a with
  | structured m =>
    cases n with
    | object ms ending fault =>
      obtain ⟨m', hm, hsame⟩ := Option.map_eq_some_iff.1 hnode
      obtain rfl := AttributeValue.structured.inj hsame
      exact Measure.isStored_of_decode (eq_ok_of_toOption hm)
    | array items ending fault =>
      obtain ⟨_, -, hsame⟩ := Option.map_eq_some_iff.1 hnode
      cases hsame
    | refused start fault => cases hnode
    | _ => cases hnode
  | _ => trivial

/-- An object is a measure. -/
theorem exists_of_reads_object (h : Reads decode (.object members) a) :
    ∃ m, a = .structured m ∧ Reads Measure.decode (.object members) m := by
  obtain ⟨n, hn, h⟩ := h
  obtain ⟨-, hnode⟩ := decode_eq_ok_iff.1 h
  cases n with
  | object ms ending fault =>
    obtain ⟨m, hm, rfl⟩ := Option.map_eq_some_iff.1 hnode
    exact ⟨m, rfl, _, hn, eq_ok_of_toOption hm⟩
  | _ => cases hn

end AttributeValue

/-! ## Records -/

theorem forall_mem_of_forall₂ {α β : Type} {R : α → β → Prop} {P : β → Prop} {xs : List α} {ys : List β}
    (h : List.Forall₂ R xs ys) (hP : ∀ x y, R x y → P y) : ∀ y ∈ ys, P y := by
  induction h with
  | nil => exact fun _ h => by cases h
  | cons hxy _ ih => exact List.forall_mem_cons.2 ⟨hP _ _ hxy, ih⟩

theorem forall₂_imp_mem {α β : Type} {R S : α → β → Prop} : ∀ {xs : List α} {ys : List β}, List.Forall₂ R xs ys →
    (∀ x, ∀ y ∈ ys, R x y → S x y) → List.Forall₂ S xs ys
  | _, _, .nil, _ => .nil
  | _, _, .cons hxy h, himp => .cons (himp _ _ List.mem_cons_self hxy)
      (forall₂_imp_mem h fun x y hy => himp x y (List.mem_cons_of_mem _ hy))

namespace Attribute

theorem decode_eq_ok_iff {n : Node} {a : Attribute} : decode n = .ok a ↔ ∃ r, n.record? = some r ∧
    (r.required shape "key" Decode.string = .ok a.key ∧
      r.defaulted shape "value" (.scalar .null) AttributeValue.decode = .ok a.value) ∧ r.closed .text shape = .ok () := by
  rw [decode, Decode.record_eq_ok_iff_exists]
  refine exists_congr fun r => and_congr_right fun _ => and_congr_left fun _ => ?_
  rw [Piece.map_seq_eq_ok_iff]
  constructor
  · rintro ⟨key, value, hkey, hvalue, rfl⟩
    exact ⟨hkey, hvalue⟩
  · rintro ⟨hkey, hvalue⟩
    exact ⟨_, _, hkey, hvalue, rfl⟩

theorem given_value_of_reads {v : Json} {a : Attribute} (h : Reads decode v a) :
    Given (some (.scalar .null)) (Reads AttributeValue.decode) (shape.part? "value" v) a.value := by
  obtain ⟨n, rfl, h⟩ := h
  obtain ⟨r, hr, ⟨-, hvalue⟩, -⟩ := decode_eq_ok_iff.1 h
  rw [← Record.value_of_record? hr]
  exact Record.given_of_field hvalue

theorem isStored_of_reads {v : Json} {a : Attribute} (h : Reads decode v a) : a.value.IsStored := by
  have hvalue := given_value_of_reads h
  generalize shape.part? "value" v = part at hvalue
  cases hvalue with
  | missing h => exact Option.some.inj h ▸ trivial
  | present h => exact AttributeValue.isStored_of_reads h

end Attribute

namespace Product

/-- A product with its attributes as they are read. -/
def IsStored (p : Product) : Prop := ∀ a ∈ p.attributes, a.value.IsStored

theorem decode_eq_ok_iff {n : Node} {p : Product} : decode n = .ok p ↔ ∃ r, n.record? = some r ∧
    (r.required shape "id" Decode.string = .ok p.id ∧ r.required shape "skuId" Decode.string = .ok p.skuId ∧
      r.required shape "createdAt" Decode.int64 = .ok p.createdAt ∧
      r.required shape "updatedAt" Decode.int64 = .ok p.updatedAt ∧
      r.defaulted shape "attributes" [] (Decode.list Attribute.decode) = .ok p.attributes) ∧
    r.closed .text shape = .ok () := by
  rw [decode, Decode.record_eq_ok_iff_exists]
  refine exists_congr fun r => and_congr_right fun _ => and_congr_left fun _ => ?_
  rw [Piece.eq_ok_iff_exists]
  simp only [Piece.exists_seq_ok_iff, Piece.exists_map_ok_iff]
  constructor
  · rintro ⟨_, hid, _, hsku, _, hcreated, _, hupdated, _, hattributes, rfl⟩
    exact ⟨hid, hsku, hcreated, hupdated, hattributes⟩
  · rintro ⟨hid, hsku, hcreated, hupdated, hattributes⟩
    exact ⟨_, hid, _, hsku, _, hcreated, _, hupdated, _, hattributes, rfl⟩

theorem forall₂_attributes_of_reads {v : Json} {p : Product} (h : Reads decode v p) :
    List.Forall₂ (Reads Attribute.decode) (shape.listed "attributes" v) p.attributes := by
  obtain ⟨n, rfl, h⟩ := h
  obtain ⟨r, hr, ⟨-, -, -, -, hattributes⟩, -⟩ := decode_eq_ok_iff.1 h
  rw [← Record.value_of_record? hr]
  exact Shape.forall₂_listed (fun ys hys => (Option.some.inj hys).symm) (Record.given_of_field hattributes)

/-- **A loaded product holds its attributes in the form in which they are read.** -/
theorem isStored_of_reads {v : Json} {p : Product} (h : Reads decode v p) : p.IsStored :=
  forall_mem_of_forall₂ (forall₂_attributes_of_reads h) fun _ _ => Attribute.isStored_of_reads

theorem nodup_of_repeatedKeyFrom : ∀ {seen : List String} {attributes : List Attribute},
    repeatedKeyFrom seen attributes = none → (∀ a ∈ attributes, a.key ∉ seen) ∧ (attributes.map Attribute.key).Nodup
  | _, [], _ => ⟨List.forall_mem_nil _, List.nodup_nil⟩
  | seen, a :: rest, h => by
    unfold repeatedKeyFrom at h
    split at h
    · cases h
    · rename_i hseen
      obtain ⟨hrest, hnodup⟩ := nodup_of_repeatedKeyFrom h
      simp only [List.mem_cons, not_or] at hrest
      refine ⟨List.forall_mem_cons.2 ⟨by simpa using hseen, fun b hb => (hrest b hb).2⟩, List.nodup_cons.2 ⟨?_, hnodup⟩⟩
      intro hmem
      obtain ⟨b, hb, hkey⟩ := List.mem_map.1 hmem
      exact (hrest b hb).1 hkey

theorem find?_key_of_nodup {a : Attribute} : ∀ {attributes : List Attribute},
    (attributes.map Attribute.key).Nodup → a ∈ attributes → attributes.find? (·.key = a.key) = some a
  | b :: rest, hnodup, ha => by
    obtain ⟨hb, hrest⟩ := List.nodup_cons.1 hnodup
    rcases List.mem_cons.1 ha with rfl | ha
    · exact List.find?_cons_of_pos (decide_eq_true rfl)
    · have hne : b.key ≠ a.key := fun h => hb (h ▸ List.mem_map_of_mem ha)
      rw [List.find?_cons_of_neg (by simpa using hne)]
      exact find?_key_of_nodup hrest ha

/-- Without repeated keys every attribute is found by its key. -/
theorem attribute?_of_mem {p : Product} {a : Attribute} (hunique : p.repeatedKey? = none) (ha : a ∈ p.attributes) :
    p.attribute? a.key = some a :=
  find?_key_of_nodup (nodup_of_repeatedKeyFrom hunique).2 ha

end Product

namespace Definition

theorem decode_eq_ok_iff {n : Node} {d : Definition} : decode n = .ok d ↔ ∃ r, n.record? = some r ∧
    (r.required shape "id" Decode.string = .ok d.id ∧ r.required shape "key" Decode.string = .ok d.key ∧
      r.required shape "name" Decode.string = .ok d.name ∧ r.required shape "type" InputType.decode = .ok d.inputType ∧
      r.optional shape "group" Group.decode = .ok d.group ∧
      r.optional shape "description" Decode.string = .ok d.description ∧
      r.optional shape "placeHolder" Decode.string = .ok d.placeHolder ∧
      r.optional shape "option" Constraints.decode = .ok d.option ∧
      r.required shape "createdAt" Decode.int64 = .ok d.createdAt ∧
      r.required shape "updatedAt" Decode.int64 = .ok d.updatedAt) ∧
    r.closed .text shape = .ok () := by
  rw [decode, Decode.record_eq_ok_iff_exists]
  refine exists_congr fun r => and_congr_right fun _ => and_congr_left fun _ => ?_
  rw [Piece.eq_ok_iff_exists]
  simp only [Piece.exists_seq_ok_iff, Piece.exists_map_ok_iff]
  constructor
  · rintro ⟨_, hid, _, hkey, _, hname, _, htype, _, hgroup, _, hdescription, _, hplaceHolder, _, hoption, _, hcreated, _,
      hupdated, rfl⟩
    exact ⟨hid, hkey, hname, htype, hgroup, hdescription, hplaceHolder, hoption, hcreated, hupdated⟩
  · rintro ⟨hid, hkey, hname, htype, hgroup, hdescription, hplaceHolder, hoption, hcreated, hupdated⟩
    exact ⟨_, hid, _, hkey, _, hname, _, htype, _, hgroup, _, hdescription, _, hplaceHolder, _, hoption, _, hcreated, _,
      hupdated, rfl⟩

end Definition

/-! ## Catalogs -/

/-- The value of a document, as far as it can be read. -/
def Contents.value (c : Contents) : Json :=
  match c.symbols with
  | .ok symbols => (Document.read symbols).root.value
  | .error _ => .null

namespace Catalog

variable {productsPath attributesPath : String} {products attributes : Contents} {c : Catalog}

theorem build_eq_ok_iff {products : List Product} {attributes : List Definition} :
    build products attributes = .ok c ↔ products = c.products ∧ attributes = c.attributes := by
  unfold build ofRecords
  split
  · rename_i repeated hrepeated
    refine iff_of_false (fun h => by cases h) fun ⟨hproducts, _⟩ => ?_
    have hnone : repeatedKey? products = none := by
      rw [repeatedKey?, List.findSome?_eq_none_iff]
      intro p hp
      rw [c.unique p (hproducts ▸ hp)]
      rfl
    cases hrepeated.symm.trans hnone
  · constructor
    · intro h
      obtain rfl := Except.ok.inj h
      exact ⟨rfl, rfl⟩
    · rintro ⟨rfl, rfl⟩
      rfl

theorem reads_of_readDocument {α : Type} {decode : Decoder α} {path : String} {contents : Contents} {a : α}
    (h : readDocument decode path contents = .ok a) : Reads decode contents.value a := by
  unfold readDocument at h
  unfold Contents.value
  split at h
  · cases h
  · rename_i symbols hsymbols
    rw [hsymbols]
    cases hdecode : Decode.text decode symbols with
    | error e =>
      rw [hdecode] at h
      cases h
    | ok b =>
      rw [hdecode] at h
      obtain rfl := Except.ok.inj h
      obtain ⟨b, hb, hend⟩ := bind_eq_ok_iff.1 hdecode
      split at hend
      · cases hend
      · obtain rfl := Except.ok.inj hend
        exact ⟨_, rfl, hb⟩

theorem forall₂_of_readDocument {α : Type} {decode : Decoder α} {shape : Shape} {name path : String} {contents : Contents}
    {xs : List α} (h : readDocument (Decode.record .text shape fun r => r.required shape name (Decode.list decode)) path
      contents = .ok xs) : List.Forall₂ (Reads decode) (shape.listed name contents.value) xs := by
  obtain ⟨n, hn, h⟩ := reads_of_readDocument h
  obtain ⟨r, hr, hlist, -⟩ := Decode.record_eq_ok_iff_exists.1 h
  rw [← hn, ← Record.value_of_record? hr]
  exact Shape.forall₂_listed (fun _ h => by cases h) (Record.given_of_field hlist)

/-- A catalog is loaded from two documents if its records are read from them. -/
theorem load_eq_ok_iff : load productsPath products attributesPath attributes = .ok c ↔
    readDocument decodeProducts productsPath products = .ok c.products ∧
      readDocument decodeAttributes attributesPath attributes = .ok c.attributes := by
  unfold load
  simp only [bind_eq_ok_iff, build_eq_ok_iff]
  constructor
  · rintro ⟨_, hps, _, hds, rfl, rfl⟩
    exact ⟨hps, hds⟩
  · rintro ⟨hps, hds⟩
    exact ⟨_, hps, _, hds, rfl, rfl⟩

/-- **A catalog is loaded record by record.** -/
theorem reads_of_load (h : load productsPath products attributesPath attributes = .ok c) :
    List.Forall₂ (Reads Product.decode) (productsShape.listed "products" products.value) c.products ∧
      List.Forall₂ (Reads Definition.decode) (attributesShape.listed "attributes" attributes.value) c.attributes := by
  obtain ⟨hproducts, hattributes⟩ := load_eq_ok_iff.1 h
  exact ⟨forall₂_of_readDocument hproducts, forall₂_of_readDocument hattributes⟩

theorem isStored_of_load (h : load productsPath products attributesPath attributes = .ok c) :
    ∀ p ∈ c.products, p.IsStored :=
  forall_mem_of_forall₂ (reads_of_load h).1 fun _ _ => Product.isStored_of_reads

end Catalog
end ProductQuery
