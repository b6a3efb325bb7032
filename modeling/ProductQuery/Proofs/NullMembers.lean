import ProductQuery.Proofs.ByteOrder
import ProductQuery.Proofs.LoadedRecords
import ProductQuery.Proofs.SelectedRecords
/-!
# Proofs.NullMembers — null members in filters

A member that is optional may be missing or null, and a loaded record does not tell which: both are held as nothing.  So
a filter that asks for null never selects by such a member, and one that asks for its absence selects the records in
which it is missing and those in which it is null (`Catalog.null_members_forgotten`).
-/
namespace ProductQuery

open Json

/-- A filter on a part of a record sees null as if the part were missing. -/
structure ForgetsNull {R F K : Type} [Queryable R F K] (filterOf : Json → Json) (r : R) (part : Option Json) : Prop where
  equals : SelectsIff (filterOf (.object [("$eq", .null)])) r False
  missing : SelectsIff (filterOf (.object [("$exists", .bool false)])) r (part = none ∨ part = some .null)

namespace ForgetsNull

variable {R F K : Type} [Queryable R F K] {filterOf : Json → Json} {r : R} {part : Option Json}

theorem of_selectsIff {t : FieldValue} (ht : t ≠ .null) (habsent : t = .undefined ↔ part = none ∨ part = some .null)
    (hselects : ∀ (op : OperatorName) (v : Json), v.IsOrdered →
      SelectsIff (filterOf (.object [(op.name, v)])) r (op.Demands t v)) :
    ForgetsNull filterOf r part where
  equals := by
    refine (hselects .eq .null .null).congr (iff_of_false ?_ id)
    rintro ⟨⟩
    exact ht rfl
  missing := by
    refine (hselects .exists (.bool false) (.bool false)).congr ?_
    rw [← habsent, OperatorName.demands_exists_iff]
    cases t <;> simp_all

end ForgetsNull

/-! ## Definitions -/

namespace Json.Decode

variable {α : Type} {decode : Decoder α}

/-- Nothing is read where there is no member, and from null. -/
theorem eq_none_iff_of_given {part : Option Json} {o : Option α} (hnull : ∀ a, ¬Reads decode .null a)
    (h : Given (some none) (Reads (optional decode)) part o) : o = none ↔ part = none ∨ part = some .null := by
  cases h with
  | missing h => exact iff_of_true (Option.some.inj h).symm (.inl rfl)
  | @present v _ h =>
    obtain ⟨n, rfl, h⟩ := h
    rcases optional_eq_ok h with ⟨rfl, rfl⟩ | ⟨-, a, rfl, ha⟩
    · exact iff_of_true rfl (.inr rfl)
    · refine iff_of_false (fun h => by cases h) ?_
      rintro (h | h)
      · cases h
      · exact hnull a ⟨n, Option.some.inj h, ha⟩

theorem not_reads_string_null (s : String) : ¬Reads string .null s := by
  rintro ⟨n, hn, h⟩
  cases n with
  | null => cases h
  | refused start fault => cases h
  | _ => cases hn

theorem not_reads_choice_null {choices : List (String × α)} (a : α) : ¬Reads (choice .text choices) .null a := by
  rintro ⟨n, hn, h⟩
  cases n with
  | null => cases h
  | refused start fault => cases h
  | _ => cases hn

end Json.Decode

namespace Definition

/-- The null members of a definition are seen as missing. -/
def ForgetsNulls (v : Json) (d : Definition) : Prop :=
  ∀ field ∈ [DefinitionField.description, .placeHolder, .group],
    ForgetsNull (fun condition => .object [(field.wireName, condition)]) d (shape.part? field.wireName v)

variable {v : Json} {d : Definition}

theorem forgetsNull_of_text {field : DefinitionField} {o : Option String} (hfield : d.field field = .ofText o)
    (hnone : o = none ↔ shape.part? field.wireName v = none ∨ shape.part? field.wireName v = some .null) :
    ForgetsNull (fun condition => .object [(field.wireName, condition)]) d (shape.part? field.wireName v) := by
  apply ForgetsNull.of_selectsIff (t := d.field field)
  · rw [hfield]
    cases o <;> exact fun h => by cases h
  · rw [hfield, ← hnone]
    cases o <;> simp [FieldValue.ofText]
  · exact fun op w _ => DefinitionFilter.selectsIff_field field op w d

theorem forgetsNulls_of_reads (h : Reads decode v d) : d.ForgetsNulls v := by
  obtain ⟨n, rfl, h⟩ := h
  obtain ⟨r, hr, ⟨-, -, -, -, hgroup, hdescription, hplaceHolder, -, -, -⟩, -⟩ := decode_eq_ok_iff.1 h
  rw [← Record.value_of_record? hr]
  have hgroupNone := Decode.eq_none_iff_of_given Decode.not_reads_choice_null (Record.given_of_field hgroup)
  have hdescriptionNone := Decode.eq_none_iff_of_given Decode.not_reads_string_null (Record.given_of_field hdescription)
  have hplaceHolderNone := Decode.eq_none_iff_of_given Decode.not_reads_string_null (Record.given_of_field hplaceHolder)
  intro field hfield
  simp only [List.mem_cons, List.not_mem_nil, or_false] at hfield
  rcases hfield with rfl | rfl | rfl
  · exact forgetsNull_of_text rfl hdescriptionNone
  · exact forgetsNull_of_text rfl hplaceHolderNone
  · exact forgetsNull_of_text rfl (Option.map_eq_none_iff.trans hgroupNone)

end Definition

/-! ## Products -/

namespace Product

variable {p : Product} {a : Attribute} {m : Measure} {name : String}

theorem namesComponents_single (hname : name ∈ Measure.shape.fields) (v : Json) :
    (Json.object [(name, v)]).NamesComponents := by
  refine ⟨⟨v, ?_⟩, fun op w hop => ?_⟩
  · simpa [eq_comm] using hname
  · rw [← (has_single.1 hop).1] at hname
    revert hname
    cases op <;> decide

theorem isEntry_component (name : String) (op : OperatorName) (v : Json) :
    AttributeFilter.IsEntry (.object [(name, .object [(op.name, v)])]) := by
  have hobject : ∀ name' w, (Json.object [(name, .object [(op.name, v)])]).Has name' w → w.IsObject := by
    intro name' w hw
    rw [(has_single.1 hw).2]
    exact ⟨_, rfl⟩
  exact ⟨⟨_, rfl⟩, fun _ => ⟨hobject "value", hobject "unit"⟩⟩

/-- **One operator on a component of a measure.** -/
theorem meetsEntry_component_iff {key : String} (ha : p.attribute? key = some a) (hm : a.value = .structured m)
    (hname : name ∈ Measure.shape.fields) (op : OperatorName) (v : Json) :
    p.MeetsEntry key (.object [(name, .object [(op.name, v)])]) ↔ op.Demands (.ofOption (m.component name)) v := by
  have hnames := namesComponents_single hname (.object [(op.name, v)])
  have hcomponents : a.value.MeetsComponents (.object [(name, .object [(op.name, v)])]) ↔
      op.Demands (.ofOption (m.component name)) v := by
    rw [← holdsOf_single]
    rw [AttributeValue.meetsComponents_iff]
    simp only [hm, AttributeValue.structured.injEq, exists_eq_left', has_single]
    rcases Measure.mem_shape_fields.1 hname with rfl | rfl
    · simp [Measure.component]
    · simp [Measure.component]
  rw [← hcomponents, meetsEntry_of_some ha]
  exact ⟨fun h => h.1 hnames, fun h => ⟨fun _ => h, fun hnone => absurd hnames hnone⟩⟩

/-- The null components of the attributes of a product are seen as missing, and the name of an operator is no key. -/
def ForgetsNulls (v : Json) (p : Product) : Prop :=
  List.Forall₂ (fun w a => ∀ members, Attribute.shape.part? "value" w = some (.object members) →
    ∀ name ∈ Measure.shape.fields,
      (isOperatorName a.key = false →
        ForgetsNull (fun condition => attributeFilter a.key (.object [(name, condition)])) p (member? name members)) ∧
      (isOperatorName a.key = true → ∀ entry,
        ProductFilter.read (attributeFilter a.key entry) = .error ⟨"attributes", .operatorAmongKeys a.key⟩))
    (shape.listed "attributes" v) p.attributes

theorem forgetsNull_component {members : List (String × Json)} (ha : p.attribute? a.key = some a)
    (hvalue : Reads AttributeValue.decode (.object members) a.value) (hkey : isOperatorName a.key = false)
    (hname : name ∈ Measure.shape.fields) :
    ForgetsNull (fun condition => attributeFilter a.key (.object [(name, condition)])) p (member? name members) := by
  obtain ⟨m, hm, hmeasure⟩ := AttributeValue.exists_of_reads_object hvalue
  have hcomponent := Measure.map_toJson_component_of_reads hmeasure name hname
  have hnull := Measure.ne_null_of_map_toJson hcomponent
  have hnone : m.component name = none ↔ member? name members = none ∨ member? name members = some .null := by
    rw [← Option.map_eq_none_iff (f := Scalar.toJson), hcomponent]
    cases member? name members with
    | none => exact iff_of_true rfl (.inl rfl)
    | some v => simp [Option.filter_some, ← isNull_iff]
  apply ForgetsNull.of_selectsIff (t := .ofOption (m.component name))
  · cases hs : m.component name with
    | none => exact fun h => by cases h
    | some s =>
      cases s with
      | null => exact absurd hs hnull
      | _ => exact fun h => by cases h
  · rw [← hnone]
    cases m.component name with
    | none => exact iff_of_true rfl rfl
    | some s => cases s <;> exact iff_of_false (fun h => by cases h) (fun h => by cases h)
  · intro op v hv
    have hordered : (Json.object [(name, .object [(op.name, v)])]).IsOrdered := isOrdered_single (isOrdered_single hv)
    exact (ProductFilter.selectsIff_attribute hkey (isEntry_component name op v) hordered p).congr
      (meetsEntry_component_iff ha hm hname op v)

end Product

/-! ## Catalogs -/

namespace Catalog

/-- **Null members are forgotten.**  Whatever catalog is loaded, a filter for null selects no definition by an optional
member and no product by a component, and a filter for the absence of such a member selects those in which it is missing
or null. -/
theorem null_members_forgotten {productsPath attributesPath : String} {products attributes : Contents} {c : Catalog}
    (h : load productsPath products attributesPath attributes = .ok c) :
    List.Forall₂ Definition.ForgetsNulls (attributesShape.listed "attributes" attributes.value) c.attributes ∧
      List.Forall₂ Product.ForgetsNulls (productsShape.listed "products" products.value) c.products := by
  obtain ⟨hproducts, hattributes⟩ := reads_of_load h
  refine ⟨hattributes.imp fun v d => Definition.forgetsNulls_of_reads, forall₂_imp_mem hproducts fun v p hp hread => ?_⟩
  refine forall₂_imp_mem (Product.forall₂_attributes_of_reads hread) fun w a ha hattribute members hpart name hname => ?_
  refine ⟨fun hkey => ?_, fun hkey => ProductFilter.read_attributeFilter_of_operator hkey⟩
  have hvalue := Attribute.given_value_of_reads hattribute
  rw [hpart, given_some_iff] at hvalue
  exact Product.forgetsNull_component (Product.attribute?_of_mem (c.unique p hp) ha) hvalue hkey hname

/-- A definition with a null place holder and no description is found by the absence of either. -/
theorem null_members_forgotten_size :
    let text := "\x7b\"attributes\":[\x7b\"id\":\"a\",\"key\":\"k\",\"name\":\"Size\",\"type\":\"TEXT\"," ++
      "\"placeHolder\":null,\"createdAt\":0,\"updatedAt\":0\x7d]\x7d"
    ∃ c d, load "p.json" (.ok (Text.bytes "\x7b\"products\":[]\x7d")) "a.json" (.ok (Text.bytes text)) = .ok c ∧
      c.attributes = [d] ∧
      SelectsIff (.object [("placeHolder", .object [("$eq", .null)])]) d False ∧
      SelectsIff (.object [("placeHolder", .object [("$exists", .bool false)])]) d True ∧
      SelectsIff (.object [("description", .object [("$exists", .bool false)])]) d True := by
  intro text
  let c : Catalog := ⟨[], [.plain "a" "k" "Size" .text 0 0], List.forall_mem_nil _⟩
  have hload : load "p.json" (.ok (Text.bytes "\x7b\"products\":[]\x7d")) "a.json" (.ok (Text.bytes text)) = .ok c :=
    load_eq_ok_iff.2 ⟨by with_unfolding_all rfl, eq_ok_of_toOption (by decide +kernel)⟩
  obtain ⟨hforgets, -⟩ := null_members_forgotten hload
  obtain ⟨v, _, hv, -, hlisted⟩ := List.forall₂_cons_right_iff.1 hforgets
  -- The place holder is null in the one document that is listed, and there is no description in it.
  have hparts : (attributesShape.listed "attributes" (Contents.value (.ok (Text.bytes text)))).map (fun v =>
      ((Definition.shape.part? "placeHolder" v).map isNull, (Definition.shape.part? "description" v).map isNull)) =
      [(some true, none)] := by decide +kernel
  rw [hlisted] at hparts
  obtain ⟨hplaceHolder, hdescription⟩ := Prod.mk.inj (List.cons.inj hparts).1
  obtain ⟨w, hw, hnull⟩ := Option.map_eq_some_iff.1 hplaceHolder
  have hholder := hv .placeHolder (by simp)
  have habsent := hv .description (by simp)
  refine ⟨c, _, hload, rfl, hholder.equals, hholder.missing.congr (iff_true_intro (.inr ?_)),
    habsent.missing.congr (iff_true_intro (.inl (Option.map_eq_none_iff.1 hdescription)))⟩
  rw [← isNull_iff.1 hnull]
  exact hw

/-- A definition with a null description is not found by a filter for it. -/
theorem null_description_not_found :
    let text := "\x7b\"attributes\":[\x7b\"id\":\"a\",\"key\":\"k\",\"name\":\"n\",\"type\":\"TEXT\"," ++
      "\"description\":null,\"createdAt\":0,\"updatedAt\":0\x7d]\x7d"
    ∃ c v d, load "p.json" (.ok (Text.bytes "\x7b\"products\":[]\x7d")) "a.json" (.ok (Text.bytes text)) = .ok c ∧
      attributesShape.listed "attributes" (Contents.value (.ok (Text.bytes text))) = [v] ∧ c.attributes = [d] ∧
      Definition.shape.part? "description" v = some .null ∧
      SelectsIff (.object [("description", .object [("$eq", .null)])]) d False := by
  intro text
  let d : Definition := .plain "a" "k" "n" .text 0 0
  have hload : load "p.json" (.ok (Text.bytes "\x7b\"products\":[]\x7d")) "a.json" (.ok (Text.bytes text)) =
      .ok ⟨[], [d], List.forall_mem_nil _⟩ :=
    load_eq_ok_iff.2 ⟨by with_unfolding_all rfl, eq_ok_of_toOption (by decide +kernel)⟩
  have hparts : (attributesShape.listed "attributes" (Contents.value (.ok (Text.bytes text)))).map (fun v =>
      (Definition.shape.part? "description" v).map isNull) = [some true] := by decide +kernel
  obtain ⟨v, hv, hdescription⟩ := List.map_eq_singleton_iff.1 hparts
  obtain ⟨w, hw, hnull⟩ := Option.map_eq_some_iff.1 hdescription
  rw [isNull_iff.1 hnull] at hw
  refine ⟨_, v, d, hload, hv, rfl, hw, (DefinitionFilter.selectsIff_field .description .eq .null d).congr ?_⟩
  exact iff_of_false (fun h => by cases h) id

end Catalog
end ProductQuery
