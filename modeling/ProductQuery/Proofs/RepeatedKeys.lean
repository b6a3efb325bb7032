import ProductQuery.Proofs.ByteOrder
import ProductQuery.Proofs.LoadedRecords
/-!
# Proofs.RepeatedKeys — which catalogs are refused

The scan of a product for a repeated key stops at the first attribute whose key an earlier one has
(`Product.repeatedKey?_eq_some_iff`), and finds nothing exactly if all keys differ.  A catalog is refused for the first
product in which it finds something (`Catalog.build_eq_error_iff`).  Loading comes to that only after both documents are
read, the products first (`Catalog.load_eq_error_iff`).
-/
namespace ProductQuery

open Json (Decoder)

/-! ## Keys of a product -/

namespace Product

/-- The attributes of a product have different keys. -/
def KeysDiffer (p : Product) : Prop := (p.attributes.map Attribute.key).Nodup

/-- Among the attributes of a product the first that repeats a key repeats this one: those before it have different
keys, and one of them has its key. -/
def FirstRepeats (p : Product) (key : String) : Prop :=
  ∃ before a after, p.attributes = before ++ a :: after ∧ a.key = key ∧ key ∈ before.map Attribute.key ∧
    (before.map Attribute.key).Nodup

theorem repeatedKeyFrom_eq_some_iff {key : String} : ∀ {attributes : List Attribute} {seen : List String},
    repeatedKeyFrom seen attributes = some key ↔ ∃ before a after, attributes = before ++ a :: after ∧ a.key = key ∧
      (key ∈ seen ∨ key ∈ before.map Attribute.key) ∧ (before.map Attribute.key).Nodup ∧ ∀ b ∈ before, b.key ∉ seen
  | [], _ => by
    refine iff_of_false (fun h => by cases h) ?_
    rintro ⟨before, a, after, h, -⟩
    cases before <;> cases h
  | a :: rest, seen => by
    unfold repeatedKeyFrom
    by_cases hseen : a.key ∈ seen
    · rw [if_pos (List.contains_iff_mem.2 hseen)]
      constructor
      · intro h
        obtain rfl := Option.some.inj h
        exact ⟨[], a, rest, rfl, rfl, .inl hseen, List.nodup_nil, List.forall_mem_nil _⟩
      · rintro ⟨before, b, after, h, hkey, -, -, hbefore⟩
        cases before with
        | nil =>
          obtain ⟨rfl, rfl⟩ := List.cons.inj h
          rw [hkey]
        | cons c before =>
          obtain ⟨rfl, -⟩ := List.cons.inj h
          exact absurd hseen (hbefore a List.mem_cons_self)
    · rw [if_neg (by simpa using hseen), repeatedKeyFrom_eq_some_iff]
      constructor
      · rintro ⟨before, b, after, rfl, hkey, hrepeats, hnodup, hbefore⟩
        simp only [List.mem_cons, not_or] at hrepeats hbefore
        refine ⟨a :: before, b, after, rfl, hkey, ?_, List.nodup_cons.2 ⟨fun hmem => ?_, hnodup⟩,
          List.forall_mem_cons.2 ⟨hseen, fun c hc => (hbefore c hc).2⟩⟩
        · rw [List.map_cons, List.mem_cons]
          tauto
        · obtain ⟨c, hc, hca⟩ := List.mem_map.1 hmem
          exact (hbefore c hc).1 hca
      · rintro ⟨before, b, after, h, hkey, hrepeats, hnodup, hbefore⟩
        cases before with
        | nil =>
          obtain ⟨rfl, -⟩ := List.cons.inj h
          exact absurd (hkey ▸ hrepeats.resolve_right List.not_mem_nil) hseen
        | cons c before =>
          obtain ⟨rfl, rfl⟩ := List.cons.inj h
          obtain ⟨hfirst, hnodup⟩ := List.nodup_cons.1 hnodup
          rw [List.map_cons, List.mem_cons] at hrepeats
          refine ⟨before, b, after, rfl, hkey, ?_, hnodup, fun d hd => ?_⟩
          · rw [List.mem_cons]
            tauto
          · rw [List.mem_cons, not_or]
            exact ⟨fun hda => hfirst (hda ▸ List.mem_map_of_mem hd), hbefore d (List.mem_cons_of_mem _ hd)⟩

/-- **The scan finds the first key that is repeated.** -/
theorem repeatedKey?_eq_some_iff {p : Product} {key : String} : p.repeatedKey? = some key ↔ p.FirstRepeats key := by
  unfold repeatedKey? FirstRepeats
  rw [repeatedKeyFrom_eq_some_iff]
  simp

theorem not_keysDiffer_of_firstRepeats {p : Product} {key : String} (h : p.FirstRepeats key) : ¬p.KeysDiffer := by
  obtain ⟨before, a, after, hattributes, rfl, hmem, -⟩ := h
  unfold KeysDiffer
  rw [hattributes, List.map_append, List.map_cons, List.nodup_append]
  exact fun hnodup => hnodup.2.2 _ hmem _ List.mem_cons_self rfl

/-- **The scan finds nothing exactly if all keys differ.** -/
theorem repeatedKey?_eq_none_iff {p : Product} : p.repeatedKey? = none ↔ p.KeysDiffer := by
  constructor
  · exact fun h => (nodup_of_repeatedKeyFrom h).2
  · intro h
    rw [Option.eq_none_iff_forall_ne_some]
    exact fun key hkey => not_keysDiffer_of_firstRepeats (repeatedKey?_eq_some_iff.1 hkey) h

end Product

namespace Catalog

/-! ## Records -/

/-- The first product with a repeated key, and the first key that it repeats. -/
def FirstRepeats (products : List Product) (p : Product) (key : String) : Prop :=
  ∃ before after, products = before ++ p :: after ∧ (∀ q ∈ before, q.KeysDiffer) ∧ p.FirstRepeats key

theorem repeatedKey?_eq_some_iff {products : List Product} {repeated : String × String} :
    repeatedKey? products = some repeated ↔ ∃ p key, FirstRepeats products p key ∧ repeated = (p.id, key) := by
  unfold repeatedKey? FirstRepeats
  simp only [List.findSome?_eq_some_iff, Option.map_eq_some_iff, Option.map_eq_none_iff,
    Product.repeatedKey?_eq_some_iff, Product.repeatedKey?_eq_none_iff]
  constructor
  · rintro ⟨before, p, after, hproducts, ⟨key, hkey, rfl⟩, hbefore⟩
    exact ⟨p, key, ⟨before, after, hproducts, hbefore, hkey⟩, rfl⟩
  · rintro ⟨p, key, ⟨before, after, hproducts, hbefore, hkey⟩, rfl⟩
    exact ⟨before, p, after, hproducts, ⟨key, hkey, rfl⟩, hbefore⟩

/-- **A catalog is refused for its first repeated key.** -/
theorem build_eq_error_iff {products : List Product} {attributes : List Definition} {e : CatalogError} :
    build products attributes = .error e ↔ ∃ p key, FirstRepeats products p key ∧ e = .repeatedKey p.id key := by
  unfold build ofRecords
  split
  · rename_i repeated hrepeated
    obtain ⟨p, key, hfirst, rfl⟩ := repeatedKey?_eq_some_iff.1 hrepeated
    constructor
    · intro h
      exact ⟨p, key, hfirst, (Except.error.inj h).symm⟩
    · rintro ⟨q, key', hfirst', rfl⟩
      have hagain := hrepeated.symm.trans (repeatedKey?_eq_some_iff.2 ⟨q, key', hfirst', rfl⟩)
      obtain ⟨hid, hkey⟩ := Prod.mk.inj (Option.some.inj hagain)
      exact congrArg Except.error (congrArg₂ CatalogError.repeatedKey hid hkey)
  · rename_i hnone
    refine iff_of_false (fun h => by cases h) ?_
    rintro ⟨p, key, hfirst, -⟩
    cases hnone.symm.trans (repeatedKey?_eq_some_iff.2 ⟨p, key, hfirst, rfl⟩)

theorem exists_build_iff {products : List Product} {attributes : List Definition} :
    (∃ c, build products attributes = .ok c) ↔ ∀ p ∈ products, p.KeysDiffer := by
  simp only [build_eq_ok_iff, ← Product.repeatedKey?_eq_none_iff]
  constructor
  · rintro ⟨c, rfl, -⟩
    exact c.unique
  · exact fun h => ⟨⟨products, attributes, h⟩, rfl, rfl⟩

/-! ## Documents -/

/-- A document has a value: it can be read, and what it says can be decoded. -/
def IsRead {α : Type} (decode : Decoder α) (contents : Contents) (a : α) : Prop :=
  ∃ symbols, contents.symbols = .ok symbols ∧ Json.Decode.text decode symbols = .ok a

/-- What is wrong with a document: it cannot be read, or what it says cannot be decoded. -/
inductive Fault {α : Type} (decode : Decoder α) (path : String) (contents : Contents) : CatalogError → Prop
  | unreadable {fault : ReadFault} (h : contents.symbols = .error fault) :
      Fault decode path contents (.unreadable path fault)
  | invalid {symbols : List Symbol} {e : Json.DecodeError} (hsymbols : contents.symbols = .ok symbols)
      (h : Json.Decode.text decode symbols = .error e) : Fault decode path contents (.invalid path e)

section

variable {α : Type} {decode : Decoder α} {path : String} {contents : Contents}

theorem readDocument_eq_ok_iff {a : α} : readDocument decode path contents = .ok a ↔ IsRead decode contents a := by
  unfold readDocument IsRead
  cases contents.symbols with
  | error fault => exact iff_of_false (fun h => by cases h) fun ⟨_, h, _⟩ => by cases h
  | ok symbols =>
    simp only [Except.ok.injEq, exists_eq_left']
    cases Json.Decode.text decode symbols with
    | error e => exact iff_of_false (fun h => by cases h) fun h => by cases h
    | ok b =>
      constructor
      · exact fun h => congrArg Except.ok (Except.ok.inj h)
      · exact fun h => congrArg Except.ok (Except.ok.inj h)

theorem readDocument_eq_error_iff {e : CatalogError} :
    readDocument decode path contents = .error e ↔ Fault decode path contents e := by
  unfold readDocument
  constructor
  · intro h
    split at h
    · rename_i fault hfault
      obtain rfl := Except.error.inj h
      exact .unreadable hfault
    · rename_i symbols hsymbols
      cases htext : Json.Decode.text decode symbols with
      | error e' =>
        rw [htext] at h
        obtain rfl := Except.error.inj h
        exact .invalid hsymbols htext
      | ok a =>
        rw [htext] at h
        cases h
  · rintro (hfault | ⟨hsymbols, htext⟩)
    · rw [hfault]
    · rw [hsymbols]
      simp only [htext]
      rfl

/-- No document is at fault for a repeated key. -/
theorem not_fault_repeatedKey {product key : String} : ¬Fault decode path contents (.repeatedKey product key) := by
  rintro ⟨⟩

end

variable {productsPath attributesPath : String} {products attributes : Contents}

/-- **Loading fails for the document of products, then for the other one, then for a repeated key.** -/
theorem load_eq_error_iff {e : CatalogError} : load productsPath products attributesPath attributes = .error e ↔
    Fault decodeProducts productsPath products e ∨ ∃ ps, IsRead decodeProducts products ps ∧
      (Fault decodeAttributes attributesPath attributes e ∨
        ∃ ds, IsRead decodeAttributes attributes ds ∧ build ps ds = .error e) := by
  unfold load
  simp only [bind_eq_error_iff, readDocument_eq_error_iff, readDocument_eq_ok_iff]

theorem load_eq_ok_iff_build {c : Catalog} : load productsPath products attributesPath attributes = .ok c ↔
    ∃ ps ds, IsRead decodeProducts products ps ∧ IsRead decodeAttributes attributes ds ∧ build ps ds = .ok c := by
  unfold load
  simp only [bind_eq_ok_iff, readDocument_eq_ok_iff]
  constructor
  · rintro ⟨ps, hps, ds, hds, hbuild⟩
    exact ⟨ps, ds, hps, hds, hbuild⟩
  · rintro ⟨ps, ds, hps, hds, hbuild⟩
    exact ⟨ps, hps, ds, hds, hbuild⟩

/-- **Which catalogs there are.**  One is made of any records in which no product has two attributes of one key, and
holds them as they are given; otherwise it is refused for the first product that has, with the first key that is
repeated there.  Loading fails for what is wrong with the products, or else for what is wrong with the definitions, and
for a repeated key only where both documents are in order. -/
theorem refused_for_repeated_key :
    (∀ (products : List Product) (attributes : List Definition),
      ((∃ c, build products attributes = .ok c) ↔ ∀ p ∈ products, p.KeysDiffer) ∧
      (∀ c, build products attributes = .ok c → c.products = products ∧ c.attributes = attributes) ∧
      ∀ e, build products attributes = .error e ↔ ∃ p key, FirstRepeats products p key ∧ e = .repeatedKey p.id key) ∧
    ∀ (productsPath : String) (products : Contents) (attributesPath : String) (attributes : Contents),
      (∀ e, load productsPath products attributesPath attributes = .error e ↔
        Fault decodeProducts productsPath products e ∨ ∃ ps, IsRead decodeProducts products ps ∧
          (Fault decodeAttributes attributesPath attributes e ∨
            ∃ ds, IsRead decodeAttributes attributes ds ∧ build ps ds = .error e)) ∧
      (∀ c, load productsPath products attributesPath attributes = .ok c ↔
        ∃ ps ds, IsRead decodeProducts products ps ∧ IsRead decodeAttributes attributes ds ∧ build ps ds = .ok c) ∧
      ∀ product key, load productsPath products attributesPath attributes = .error (.repeatedKey product key) →
        ∃ ps ds, IsRead decodeProducts products ps ∧ IsRead decodeAttributes attributes ds ∧
          build ps ds = .error (.repeatedKey product key) := by
  refine ⟨fun products attributes => ⟨exists_build_iff, fun c h => ?_, fun e => build_eq_error_iff⟩,
    fun productsPath products attributesPath attributes => ⟨fun e => load_eq_error_iff, fun c => load_eq_ok_iff_build,
      fun product key h => ?_⟩⟩
  · obtain ⟨hproducts, hattributes⟩ := build_eq_ok_iff.1 h
    exact ⟨hproducts.symm, hattributes.symm⟩
  · obtain ⟨ps, hps, hds | ⟨ds, hds, hbuild⟩⟩ := (load_eq_error_iff.1 h).resolve_left not_fault_repeatedKey
    · exact absurd hds not_fault_repeatedKey
    · exact ⟨ps, ds, hps, hds, hbuild⟩

/-- Two of three products repeat keys, the first of them two keys.  A document with such a product is in order, so where
the definitions are missing that is the error, and where they are there it is the repeated key. -/
theorem refused_for_repeated_key_shelf :
    let item : String → List String → Product := fun id keys => ⟨id, "s", 0, 0, keys.map (⟨·, .scalar .null⟩)⟩
    let shelf : List Product := [item "p1" ["a", "b"], item "p2" ["a", "b", "b", "a"], item "p3" ["a", "a"]]
    let text := "\x7b\"products\":[\x7b\"id\":\"p\",\"skuId\":\"s\",\"createdAt\":0,\"updatedAt\":0,\"attributes\":[" ++
      "\x7b\"key\":\"a\",\"value\":1\x7d,\x7b\"key\":\"a\",\"value\":2\x7d]\x7d]\x7d"
    let empty := "\x7b\"attributes\":[]\x7d"
    build shelf [] = .error (.repeatedKey "p2" "b") ∧
      load "p.json" (.ok (Text.bytes text)) "a.json" (.error .missing) = .error (.unreadable "a.json" .missing) ∧
      load "p.json" (.ok (Text.bytes text)) "a.json" (.ok (Text.bytes empty)) = .error (.repeatedKey "p" "a") ∧
      ∃ ds, IsRead decodeAttributes (.ok (Text.bytes empty)) ds := by
  intro item shelf text empty
  obtain ⟨hbuilt, hloaded⟩ := refused_for_repeated_key
  have hproducts : (readDocument decodeProducts "p.json" (.ok (Text.bytes text))).toOption.map
      (List.map (fun p => (p.id, p.repeatedKey?))) = some [("p", some "a")] := by
    decide +kernel
  have hattributes : (readDocument decodeAttributes "a.json" (.ok (Text.bytes empty))).toOption = some [] := by
    decide +kernel
  obtain ⟨ps, hps, hrepeats⟩ := Option.map_eq_some_iff.1 hproducts
  obtain ⟨p, rfl, hp⟩ := List.map_eq_singleton_iff.1 hrepeats
  obtain ⟨hid, hkey⟩ := Prod.mk.inj hp
  have hread := readDocument_eq_ok_iff.1 (eq_ok_of_toOption hps)
  have hreadAttributes := readDocument_eq_ok_iff.1 (eq_ok_of_toOption hattributes)
  have hrefused : build [p] [] = .error (.repeatedKey "p" "a") := by
    refine ((hbuilt [p] []).2.2 _).2 ⟨p, "a", ⟨[], [], rfl, List.forall_mem_nil _, ?_⟩, by rw [hid]⟩
    exact Product.repeatedKey?_eq_some_iff.1 hkey
  have hload := ((hloaded "p.json" _ "a.json" _).1 _).2 (.inr ⟨[p], hread, .inr ⟨[], hreadAttributes, hrefused⟩⟩)
  have hfirst : FirstRepeats shelf (item "p2" ["a", "b", "b", "a"]) "b" := by
    refine ⟨[item "p1" ["a", "b"]], [item "p3" ["a", "a"]], rfl, fun q hq => ?_, ?_⟩
    · rw [List.mem_singleton.1 hq]
      exact Product.repeatedKey?_eq_none_iff.1 (by decide)
    · exact Product.repeatedKey?_eq_some_iff.1 (by decide)
  refine ⟨((hbuilt shelf []).2.2 _).2 ⟨_, _, hfirst, rfl⟩, ((hloaded _ _ _ _).1 _).2 ?_, hload, ?_⟩
  · exact .inr ⟨[p], hread, .inl (.unreadable rfl)⟩
  · obtain ⟨_, ds, -, hds, -⟩ := (hloaded _ _ _ _).2.2 "p" "a" hload
    exact ⟨ds, hds⟩

end Catalog
end ProductQuery
