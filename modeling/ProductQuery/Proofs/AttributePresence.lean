import ProductQuery.Proofs.ByteOrder
import ProductQuery.Proofs.LenientQuery
import ProductQuery.Proofs.LoadedRecords
import ProductQuery.Proofs.SelectedRecords
/-!
# Proofs.AttributePresence — whether products have an attribute

A product has an attribute if it holds a value other than null under the key.  Asking whether it does and asking whether
it does not are opposite filters on loaded products, although a measure is looked at a second time by its components: a
component that is stored is not null, so it never speaks for absence (`Product.meetsEntry_presence_iff`).  Hence the two
queries share out the products of a catalog (`Catalog.presence_complementary`).  The name of an operator is the one kind
of key that cannot be asked for.
-/
namespace ProductQuery

open Json

/-- The filter for the products that have an attribute, or for those that have not. -/
def presenceFilter (key : String) (present : Bool) : Json :=
  attributeFilter key (.object [("$exists", .bool present)])

namespace Product

/-- The attribute of a key has a value that is not null. -/
def HasValue (p : Product) (key : String) : Prop := ∃ a, p.attribute? key = some a ∧ a.value ≠ .scalar .null

variable {p : Product} {key : String}

theorem demands_presence_iff (t : FieldValue) (present : Bool) :
    (Json.object [("$exists", .bool present)]).HoldsOf t ↔ present = !t.isAbsent := by
  rw [show "$exists" = OperatorName.exists.name from rfl, holdsOf_single, OperatorName.demands_exists_iff,
    Json.bool.injEq]

theorem meetsWhole_presence_iff {a : AttributeValue} (ha : a.IsStored) (present : Bool) :
    a.MeetsWhole (.object [("$exists", .bool present)]) ↔ present = !(FieldValue.ofAttribute a).isAbsent := by
  rw [AttributeValue.meetsWhole_iff]
  simp only [demands_presence_iff]
  refine or_iff_left_of_imp ?_
  rintro ⟨m, rfl, h⟩
  -- A component that is there is not null, so it is present as the measure is.
  have hcomponent : ∀ s : Scalar, s ≠ .null → (FieldValue.ofScalar s).isAbsent = false := by
    intro s hs
    cases s with
    | null => exact absurd rfl hs
    | _ => rfl
  have hstored : m.IsStored := ha
  rcases h with ⟨s, hs, rfl⟩ | ⟨s, hs, rfl⟩
  · rw [hcomponent s fun h => hstored.value (h ▸ hs)]
    rfl
  · rw [hcomponent s fun h => hstored.unit (h ▸ hs)]
    rfl

/-- **Presence and absence of an attribute are opposites** in a product that is stored. -/
theorem meetsEntry_presence_iff (hp : p.IsStored) (key : String) (present : Bool) :
    p.MeetsEntry key (.object [("$exists", .bool present)]) ↔ present = !(p.attributeValue key).isAbsent := by
  have hnames := not_namesComponents_single .exists (.bool present)
  unfold attributeValue
  cases ha : p.attribute? key with
  | none =>
    rw [meetsEntry_of_none ha]
    simp
  | some a =>
    have hstored : a.value.IsStored := hp a (List.mem_of_find?_eq_some ha)
    rw [Option.elim_some, ← meetsWhole_presence_iff hstored, meetsEntry_of_some ha]
    exact ⟨fun h => h.2 hnames, fun h => ⟨fun hb => absurd hb hnames, fun _ => h⟩⟩

theorem isAbsent_attributeValue_iff : (p.attributeValue key).isAbsent = false ↔ p.HasValue key := by
  unfold attributeValue HasValue
  cases p.attribute? key with
  | none => exact iff_of_false (fun h => by cases h) (fun ⟨_, h, _⟩ => by cases h)
  | some a =>
    simp only [Option.elim_some, Option.some.injEq, exists_eq_left']
    cases a.value with
    | scalar s => cases s <;> simp [FieldValue.ofAttribute, FieldValue.ofScalar]
    | _ => exact iff_of_true rfl fun h => by cases h

end Product

/-! ## Totals -/

namespace Engine

variable {R F K : Type} [Queryable R F K]

/-- Under either policy the total is the number of records that match, if the filter names no unknown field. -/
theorem total_of_execute {records : List R} {policy : Policy} {q : Request F} {page : Page R}
    (hknown : ∀ f ∈ q.filter, Queryable.unknownFields R f = [])
    (h : execute ⟨records, policy⟩ q .never = .ok page) : page.total = records.countP (matchesRequest q) := by
  have hstrict : ∀ {q : Request F}, execute ⟨records, .strict⟩ q .never = .ok page →
      page.total = records.countP (matchesRequest q) := by
    intro q h
    obtain ⟨found, hfound, hexec⟩ := execute_of_isAcceptable .strict records (isAcceptable_of_execute_strict h)
    rw [hexec] at h
    obtain rfl := Except.ok.inj h
    exact hfound.length_eq
  cases policy with
  | strict => exact hstrict h
  | lenient =>
    rw [execute_lenient_eq_strict records hknown] at h
    exact hstrict (q := q.amended R) h

/-- **Opposite filters share out the records.** -/
theorem totals_of_opposite {records : List R} {policy : Policy} {f g : F} (hf : Queryable.unknownFields R f = [])
    (hg : Queryable.unknownFields R g = [])
    (hopposite : ∀ r ∈ records, Queryable.satisfies r g = true ↔ ¬Queryable.satisfies r f = true) {q q' : Request F}
    (hq : q.filter = some f) (hq' : q'.filter = some g) {a b : Page R}
    (ha : execute ⟨records, policy⟩ q .never = .ok a) (hb : execute ⟨records, policy⟩ q' .never = .ok b) :
    a.total + b.total = records.length := by
  have hknown : ∀ h ∈ q.filter, Queryable.unknownFields R h = [] := by
    rw [hq]
    rintro _ ⟨⟩
    exact hf
  have hknown' : ∀ h ∈ q'.filter, Queryable.unknownFields R h = [] := by
    rw [hq']
    rintro _ ⟨⟩
    exact hg
  have hcount : records.countP (matchesRequest q') = records.countP (fun r => !matchesRequest q r) := by
    refine List.countP_congr fun r hr => ?_
    unfold matchesRequest
    rw [hq, hq']
    simpa using hopposite r hr
  rw [total_of_execute hknown ha, total_of_execute hknown' hb, hcount,
    List.length_eq_countP_add_countP (matchesRequest q)]
  simp

/-- A filter alone is answered under either policy, if it names no unknown field. -/
theorem exists_execute_of_known {policy : Policy} (records : List R) {f : F} (hknown : Queryable.unknownFields R f = []) :
    ∃ page, execute ⟨records, policy⟩ ⟨some f, none, none⟩ .never = .ok page := by
  have hacceptable : IsAcceptable R (⟨some f, none, none⟩ : Request F) := by
    refine ⟨Int.le_refl 0, Int.natCast_nonneg 25, ?_, ?_⟩
    · rintro _ ⟨⟩
    · rintro _ ⟨⟩
      exact hknown
  obtain ⟨found, -, hexec⟩ := execute_of_isAcceptable policy records hacceptable
  exact ⟨_, hexec⟩

end Engine

/-! ## Catalogs -/

namespace Catalog

/-- What asks for an attribute is a filter, unless the key is the name of an operator. -/
theorem exists_presenceFilter {key : String} (hkey : isOperatorName key = false) (present : Bool) :
    ∃ f, ProductFilter.read (presenceFilter key present) = .ok f ∧ f.unknownFields = [] ∧
      ∀ p : Product, p.satisfies f = true ↔ p.MeetsEntry key (.object [("$exists", .bool present)]) := by
  have hentry := isEntry_single .exists (.bool present)
  have hordered : (Json.object [("$exists", .bool present)]).IsOrdered := isOrdered_single (.bool present)
  have hfilter : (presenceFilter key present).IsOrdered := isOrdered_single (isOrdered_single hordered)
  obtain ⟨f, hread⟩ := (ProductFilter.exists_read_iff hfilter).2 (ProductFilter.isFilter_attributeFilter hkey hentry)
  refine ⟨f, hread, ?_, fun p => (ProductFilter.selectsIff_attribute hkey hentry hordered p).iff hread⟩
  refine (ProductFilter.grammar.unknownFields hread).trans ?_
  simp

/-- **Products have an attribute or have it not.**  Of a product that is read one of the two filters holds, the one that
its value under the key tells; so in a loaded catalog, under either policy, the totals of the two queries are the number
of products, however they sort and page.  The name of an operator is no key: both filters are refused. -/
theorem presence_complementary (key : String) :
    (isOperatorName key = true → ∀ present,
      ProductFilter.read (presenceFilter key present) = .error ⟨"attributes", .operatorAmongKeys key⟩) ∧
    (isOperatorName key = false → ∃ present absent : ProductFilter,
      ProductFilter.read (presenceFilter key true) = .ok present ∧
      ProductFilter.read (presenceFilter key false) = .ok absent ∧
      (∀ (n : Node) (p : Product), Product.decode n = .ok p →
        (p.satisfies present = true ↔ p.HasValue key) ∧ (p.satisfies absent = true ↔ ¬p.HasValue key)) ∧
      ∀ productsPath products attributesPath attributes c, load productsPath products attributesPath attributes = .ok c →
        ∀ policy, (∃ page, (c.productEngine policy).execute ⟨some present, none, none⟩ .never = .ok page) ∧
          (∃ page, (c.productEngine policy).execute ⟨some absent, none, none⟩ .never = .ok page) ∧
          ∀ q q' : Request ProductFilter, q.filter = some present → q'.filter = some absent →
            ∀ a b, (c.productEngine policy).execute q .never = .ok a → (c.productEngine policy).execute q' .never = .ok b →
              a.total + b.total = c.products.length) := by
  refine ⟨fun hkey present => ProductFilter.read_attributeFilter_of_operator hkey _, fun hkey => ?_⟩
  obtain ⟨present, hreadPresent, hknownPresent, hpresent⟩ := exists_presenceFilter hkey true
  obtain ⟨absent, hreadAbsent, hknownAbsent, habsent⟩ := exists_presenceFilter hkey false
  have hselects : ∀ p : Product, p.IsStored →
      (p.satisfies present = true ↔ p.HasValue key) ∧ (p.satisfies absent = true ↔ ¬p.HasValue key) := by
    intro p hp
    rw [hpresent, habsent, Product.meetsEntry_presence_iff hp, Product.meetsEntry_presence_iff hp,
      ← Product.isAbsent_attributeValue_iff]
    cases (p.attributeValue key).isAbsent <;> simp
  refine ⟨present, absent, hreadPresent, hreadAbsent, fun n p hp => hselects p (Product.isStored_of_reads ⟨n, rfl, hp⟩),
    fun productsPath products attributesPath attributes c h policy => ⟨?_, ?_, fun q q' hq hq' a b ha hb => ?_⟩⟩
  · exact Engine.exists_execute_of_known c.products hknownPresent
  · exact Engine.exists_execute_of_known c.products hknownAbsent
  · have hopposite : ∀ p ∈ c.products, p.satisfies absent = true ↔ ¬p.satisfies present = true := by
      intro p hp
      obtain ⟨hhas, hlacks⟩ := hselects p (isStored_of_load h p hp)
      exact hlacks.trans (not_congr hhas.symm)
    exact Engine.totals_of_opposite hknownPresent hknownAbsent hopposite hq hq' ha hb

/-- Of two products one has an attribute, a measure with null components. -/
theorem presence_complementary_weight :
    let text := "\x7b\"products\":[" ++
      "\x7b\"id\":\"p1\",\"skuId\":\"s1\",\"createdAt\":0,\"updatedAt\":0,\"attributes\":[" ++
        "\x7b\"key\":\"weight\",\"value\":\x7b\"value\":null,\"unit\":null\x7d\x7d]\x7d," ++
      "\x7b\"id\":\"p2\",\"skuId\":\"s2\",\"createdAt\":0,\"updatedAt\":0\x7d]\x7d"
    ∃ c present absent a b, load "p.json" (.ok (Text.bytes text)) "a.json" (.ok (Text.bytes "\x7b\"attributes\":[]\x7d")) =
        .ok c ∧
      ProductFilter.read (presenceFilter "weight" true) = .ok present ∧
      ProductFilter.read (presenceFilter "weight" false) = .ok absent ∧
      (c.productEngine .strict).execute ⟨some present, none, none⟩ .never = .ok a ∧
      (c.productEngine .strict).execute ⟨some absent, none, none⟩ .never = .ok b ∧ a.total + b.total = 2 := by
  intro text
  have htwo : (load "p.json" (.ok (Text.bytes text)) "a.json"
      (.ok (Text.bytes "\x7b\"attributes\":[]\x7d"))).toOption.map (fun c => c.products.length) = some 2 := by
    decide +kernel
  obtain ⟨c, hc, hlength⟩ := Option.map_eq_some_iff.1 htwo
  have hload := eq_ok_of_toOption hc
  obtain ⟨-, hanswered⟩ := presence_complementary "weight"
  obtain ⟨present, absent, hpresent, habsent, -, hpages⟩ := hanswered (by decide)
  obtain ⟨⟨a, ha⟩, ⟨b, hb⟩, htotals⟩ := hpages _ _ _ _ c hload .strict
  exact ⟨c, present, absent, a, b, hload, hpresent, habsent, ha, hb, (htotals _ _ rfl rfl a b ha hb).trans hlength⟩

/-- A product may have an attribute whose key is the name of an operator, and there is no filter for it. -/
theorem presence_of_operator_refused :
    let text := "\x7b\"products\":[\x7b\"id\":\"p\",\"skuId\":\"s\",\"createdAt\":0,\"updatedAt\":0,\"attributes\":[" ++
      "\x7b\"key\":\"$eq\",\"value\":1\x7d]\x7d]\x7d"
    ∃ c, load "p.json" (.ok (Text.bytes text)) "a.json" (.ok (Text.bytes "\x7b\"attributes\":[]\x7d")) = .ok c ∧
      (∃ p ∈ c.products, p.HasValue "$eq") ∧ ∀ present f, ProductFilter.read (presenceFilter "$eq" present) ≠ .ok f := by
  intro text
  have hvalues : (load "p.json" (.ok (Text.bytes text)) "a.json"
      (.ok (Text.bytes "\x7b\"attributes\":[]\x7d"))).toOption.map (fun c =>
        c.products.map (fun p => (p.attributeValue "$eq").isAbsent)) = some [false] := by
    decide +kernel
  obtain ⟨c, hc, hvalue⟩ := Option.map_eq_some_iff.1 hvalues
  obtain ⟨p, hp, hpresent⟩ := List.map_eq_singleton_iff.1 hvalue
  have hmem : p ∈ c.products := hp ▸ List.mem_singleton_self p
  refine ⟨c, eq_ok_of_toOption hc, ⟨p, hmem, Product.isAbsent_attributeValue_iff.1 hpresent⟩, ?_⟩
  intro present f hread
  cases (ProductFilter.read_attributeFilter_of_operator (by decide) _).symm.trans hread

end Catalog
end ProductQuery
