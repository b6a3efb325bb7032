import ProductQuery.Proofs.Cancelling
import ProductQuery.Proofs.LoadedRecords
/-!
# Proofs.UnseenData — what no query can tell

Queries name neither the other members of a measure nor the input that a definition admits, and they look attributes up by
their keys, so the order of attributes does not count either.  Two records that differ in nothing else are alike to every
filter and every sort (`Alike`).  A query picks places of its collection, by nothing but what it can tell of the records
there (`found_congr`), so of two collections that are alike place by place it picks the same (`unseen_data`).
-/
namespace ProductQuery

/-! ## What is seen of values -/

def Measure.bare (m : Measure) : Measure := { m with extra := [] }

namespace AttributeValue

/-- A value without the other members of a measure. -/
def bare : AttributeValue → AttributeValue
  | .structured m => .structured m.bare
  | v => v

end AttributeValue

namespace FieldValue

def bare : FieldValue → FieldValue
  | .structured m => .structured m.bare
  | t => t

@[simp]
theorem bare_ofAttribute (a : AttributeValue) : (ofAttribute a).bare = ofAttribute a.bare := by
  cases a with
  | scalar s => cases s <;> rfl
  | _ => rfl

/-- **The other members of measures do not sort.** -/
@[simp]
theorem order_bare (t u : FieldValue) : t.bare.order u.bare = t.order u := by
  cases t <;> cases u <;> rfl

theorem compareBy_congr (o : SortOrder) {t t' u u' : FieldValue} (ht : t.bare = t'.bare) (hu : u.bare = u'.bare) :
    compareBy o t u = compareBy o t' u' := by
  rw [compareBy, compareBy, ← order_bare t, ht, hu, order_bare]

end FieldValue

/-- **No operator looks at the other members of a measure.** -/
@[simp]
theorem Operator.holds_bare (op : Operator) (t : FieldValue) : op.holds t.bare = op.holds t := by
  cases t with
  | structured m => cases op <;> rfl
  | _ => rfl

namespace Condition

@[simp]
theorem holds_bare (c : Condition) (t : FieldValue) : c.holds t.bare = c.holds t := by
  simp [holds]

@[simp]
theorem holdsWithin_bare (c : Condition) (t : FieldValue) : c.holdsWithin t.bare = c.holdsWithin t := by
  unfold holdsWithin
  rw [holds_bare]
  cases t <;> rfl

end Condition

theorem AttributeFilter.holds_bare (f : AttributeFilter) (a : AttributeValue) : f.holds a.bare = f.holds a := by
  cases f with
  | plain c =>
    show c.holdsWithin _ = c.holdsWithin _
    rw [← FieldValue.bare_ofAttribute, Condition.holdsWithin_bare]
  | structured value unit => cases a <;> rfl

/-! ## What is seen of records -/

namespace Attribute

def bare (a : Attribute) : Attribute := { a with value := a.value.bare }

end Attribute

namespace Product

/-- Two products with the same fields and, in whatever order, the same attributes, but for the other members of
measures. -/
structure Resembles (p q : Product) : Prop where
  id : p.id = q.id
  skuId : p.skuId = q.skuId
  createdAt : p.createdAt = q.createdAt
  updatedAt : p.updatedAt = q.updatedAt
  attributes : ∀ a, a ∈ p.attributes.map Attribute.bare ↔ a ∈ q.attributes.map Attribute.bare

variable {p q : Product}

/-- Without repeated keys, an attribute is found by its key wherever it stands. -/
theorem map_bare_attribute?_eq_some_iff (hunique : p.repeatedKey? = none) (key : String) (x : Attribute) :
    (p.attribute? key).map Attribute.bare = some x ↔ x ∈ p.attributes.map Attribute.bare ∧ x.key = key := by
  rw [Option.map_eq_some_iff, List.mem_map]
  constructor
  · rintro ⟨a, ha, rfl⟩
    have hkey := List.find?_some ha
    exact ⟨⟨a, List.mem_of_find?_eq_some ha, rfl⟩, of_decide_eq_true hkey⟩
  · rintro ⟨⟨a, ha, rfl⟩, rfl⟩
    exact ⟨a, attribute?_of_mem hunique ha, rfl⟩

namespace Resembles

theorem map_bare_attribute? (h : p.Resembles q) (hp : p.repeatedKey? = none) (hq : q.repeatedKey? = none)
    (key : String) : (p.attribute? key).map Attribute.bare = (q.attribute? key).map Attribute.bare := by
  ext x
  rw [map_bare_attribute?_eq_some_iff hp, map_bare_attribute?_eq_some_iff hq, h.attributes]

theorem field (h : p.Resembles q) (f : ProductField) : p.field f = q.field f := by
  cases f with
  | id => exact congrArg FieldValue.string h.id
  | skuId => exact congrArg FieldValue.string h.skuId
  | createdAt => exact congrArg FieldValue.ofInt64 h.createdAt
  | updatedAt => exact congrArg FieldValue.ofInt64 h.updatedAt

end Resembles

theorem attributeSatisfies_eq_elim (p : Product) (key : String) (f : AttributeFilter) : p.attributeSatisfies key f =
    ((p.attribute? key).map Attribute.bare).elim f.holdsOfMissing (fun a => f.holds a.value) := by
  unfold attributeSatisfies
  cases p.attribute? key with
  | none => rfl
  | some a => exact (f.holds_bare a.value).symm

theorem bare_attributeValue (p : Product) (key : String) : (p.attributeValue key).bare =
    ((p.attribute? key).map Attribute.bare).elim .undefined (fun a => .ofAttribute a.value) := by
  unfold attributeValue
  cases p.attribute? key with
  | none => rfl
  | some a => exact FieldValue.bare_ofAttribute a.value

end Product

namespace Definition

/-- Two definitions that differ in the input that they admit, if at all. -/
def Resembles (d e : Definition) : Prop := { d with option := none } = { e with option := none }

theorem Resembles.field {d e : Definition} (h : d.Resembles e) (f : DefinitionField) : d.field f = e.field f := by
  have hfield : ∀ d : Definition, { d with option := none }.field f = d.field f := fun d => by cases f <;> rfl
  rw [← hfield d, ← hfield e, h]

end Definition

/-! ## Records that are alike -/

namespace Engine

variable {R F K : Type} [Queryable R F K]

/-- Two records that no filter tells apart and that sort alike. -/
structure Alike (r s : R) : Prop where
  satisfies : ∀ f : F, Queryable.satisfies r f = Queryable.satisfies s f
  sortValue : ∀ key : K, (Queryable.sortValue r key).bare = (Queryable.sortValue s key).bare

theorem Alike.recordOrder {r r' s s' : R} (hr : Alike r r') (hs : Alike s s') (key : K) (o : SortOrder) :
    recordOrder key o r s = recordOrder key o r' s' :=
  FieldValue.compareBy_congr o (hr.sortValue key) (hs.sortValue key)

end Engine

/-- **Products that resemble each other are alike.** -/
theorem Product.Resembles.alike {p q : Product} (h : p.Resembles q) (hp : p.repeatedKey? = none)
    (hq : q.repeatedKey? = none) : Engine.Alike p q where
  satisfies := by
    intro f
    show p.satisfies f = q.satisfies f
    simp only [satisfies, attributeSatisfies_eq_elim, h.field, h.map_bare_attribute? hp hq]
  sortValue := by
    intro key
    cases key with
    | field f => exact congrArg FieldValue.bare (h.field f)
    | «attribute» key =>
      show (p.attributeValue key).bare = (q.attributeValue key).bare
      rw [bare_attributeValue, bare_attributeValue, h.map_bare_attribute? hp hq]

theorem Definition.Resembles.alike {d e : Definition} (h : d.Resembles e) : Engine.Alike d e where
  satisfies := by
    intro f
    show d.satisfies f = e.satisfies f
    simp only [satisfies, h.field]
  sortValue := fun f => congrArg FieldValue.bare (h.field f)

/-! ## Places -/

theorem Window.slice_map {α β : Type} (w : Window) (f : α → β) (items : List α) :
    w.slice (items.map f) = (w.slice items).map f := by
  rw [slice_eq, slice_eq, ← List.map_take, List.map_drop]

theorem Window.slice_sublist {α : Type} (w : Window) (items : List α) : (w.slice items).Sublist items := by
  rw [slice_eq]
  exact (List.drop_sublist _ _).trans (List.take_sublist _ _)

namespace Engine

variable {R F K : Type} [Queryable R F K] {n : Nat} {r r' : Fin n → R}

/-- The places of the records that a query finds, in the order in which it finds them. -/
def found (r : Fin n → R) (filter : Option F) (excludesAll : Bool) (sort : Option (K × SortOrder)) : List (Fin n) :=
  let kept := (List.finRange n).filter (fun i => !excludesAll && filter.all (Queryable.satisfies (r i) ·))
  match sort with
  | none => kept
  | some (key, o) => kept.mergeSort (fun i j => (recordOrder key o (r i) (r j)).isLE)

theorem nodup_found (r : Fin n → R) (filter : Option F) (excludesAll : Bool) (sort : Option (K × SortOrder)) :
    (found r filter excludesAll sort).Nodup := by
  have hkept := (List.nodup_finRange n).filter (fun i => !excludesAll && filter.all (Queryable.satisfies (r i) ·))
  unfold found
  cases sort with
  | none => exact hkept
  | some s => exact (List.mergeSort_perm _ _).nodup_iff.2 hkept

/-- **What a query finds depends on nothing but what it can tell of the records.** -/
theorem found_congr (h : ∀ i, Alike (r i) (r' i)) (filter : Option F) (excludesAll : Bool)
    (sort : Option (K × SortOrder)) : found r filter excludesAll sort = found r' filter excludesAll sort := by
  simp only [found, fun i => (h i).satisfies, fun i j => (h i).recordOrder (h j)]

theorem matching_map (r : Fin n → R) (excludesAll : Bool) (filter : Option F) :
    matching ((List.finRange n).map r) excludesAll filter = (found r filter excludesAll none).map r := by
  cases excludesAll with
  | true => simp [matching, found]
  | false =>
    cases filter with
    | none => simp [matching, found]
    | some f => exact List.filter_map

theorem sortBy_map (r : Fin n → R) (key : K) (o : SortOrder) (places : List (Fin n)) :
    sortBy key o (places.map r) = (places.mergeSort (fun i j => (recordOrder key o (r i) (r j)).isLE)).map r :=
  (List.map_mergeSort (f := r) (fun _ _ _ _ => rfl)).symm

/-- A query cuts its page from the records at the places that it finds. -/
theorem run_map (r : Fin n → R) (policy : Policy) (q : Request F) (p : Plan K) :
    let places := found r q.filter p.excludesAll p.sort
    (Engine.mk ((List.finRange n).map r) policy).run q p .never =
      .ok ⟨(p.window.slice places).map r, places.length, p.window⟩ := by
  obtain ⟨w, sort, x⟩ := p
  cases sort with
  | none =>
    show Except.ok (Page.mk (w.slice (matching _ x q.filter)) (matching _ x q.filter).length w) = _
    rw [matching_map, Window.slice_map, List.length_map]
  | some s =>
    obtain ⟨key, o⟩ := s
    show Except.ok (Page.mk (w.slice (sortBy key o (matching _ x q.filter)))
      (sortBy key o (matching _ x q.filter)).length w) = _
    rw [matching_map, sortBy_map, Window.slice_map, List.length_map]
    rfl

end Engine

/-! ## Answers that correspond -/

/-- Pages of the records at the same places of two collections, in the same order. -/
structure Page.Corresponds {R : Type} (records records' : List R) (p p' : Page R) : Prop where
  total : p.total = p'.total
  window : p.window = p'.window
  hasMore : p.hasMore = p'.hasMore
  data : ∃ places : List Nat, places.Nodup ∧ p.data.map some = places.map (records[·]?) ∧
    p'.data.map some = places.map (records'[·]?)

namespace Engine

/-- Answers that do not tell which of two collections was asked, but for the records of their pages. -/
inductive Corresponds {R : Type} (records records' : List R) :
    Except Refusal (Page R) → Except Refusal (Page R) → Prop
  | refused (reason : Refusal) : Corresponds records records' (.error reason) (.error reason)
  | answered {p p' : Page R} (h : p.Corresponds records records' p') : Corresponds records records' (.ok p) (.ok p')

variable {R F K : Type} [Queryable R F K] {records records' : List R} {n : Nat}

theorem Corresponds.outcome {x x' : Except Refusal (Page R)} (h : Corresponds records records' x x') (s : Signal)
    (last : Moment) : Corresponds records records' (s.outcome last x) (s.outcome last x') := by
  unfold Signal.outcome
  split
  · exact .refused .cancelled
  · exact h

/-- Two collections that are alike place by place, by their places. -/
theorem exists_eq_map_finRange (h : List.Forall₂ Alike records records') :
    ∃ (n : Nat) (r r' : Fin n → R), (∀ i, Alike (r i) (r' i)) ∧ records = (List.finRange n).map r ∧
      records' = (List.finRange n).map r' := by
  obtain ⟨hlength, hget⟩ := List.forall₂_iff_get.1 h
  refine ⟨records.length, records.get, fun i => records'.get (i.cast hlength), fun i => hget i i.2 _, ?_, ?_⟩
  · exact (List.map_get_finRange records).symm
  · exact List.ext_getElem (by simp [hlength]) (by simp)

theorem map_some_map (r : Fin n → R) (places : List (Fin n)) :
    (places.map r).map some = (places.map Fin.val).map (((List.finRange n).map r)[·]?) := by
  simp

theorem corresponds_map (r r' : Fin n → R) {places : List (Fin n)} (hplaces : places.Nodup) (total : Nat)
    (w : Window) : Page.Corresponds ((List.finRange n).map r) ((List.finRange n).map r')
      ⟨places.map r, total, w⟩ ⟨places.map r', total, w⟩ := by
  have hnodup : (places.map Fin.val).Nodup := List.Pairwise.map Fin.val (fun _ _ => mt Fin.eq_of_val_eq) hplaces
  exact ⟨rfl, rfl, rfl, _, hnodup, map_some_map r places, map_some_map r' places⟩

/-- **Of two collections that are alike place by place, every request gets corresponding answers.** -/
theorem execute_corresponds (h : List.Forall₂ Alike records records') (policy : Policy) (q : Request F) (s : Signal) :
    Corresponds records records' ((Engine.mk records policy).execute q s)
      ((Engine.mk records' policy).execute q s) := by
  obtain ⟨n, r, r', halike, rfl, rfl⟩ := exists_eq_map_finRange h
  unfold execute
  -- The plan is made of the request and the policy alone, so it is one plan for both.
  cases plan R policy q with
  | error reason => exact .refused reason
  | ok p =>
    show Corresponds _ _ (run _ q p s) (run _ q p s)
    rw [run_eq_outcome, run_eq_outcome _ _ _ s, run_map, run_map, found_congr halike]
    have hnodup := (nodup_found r' q.filter p.excludesAll p.sort).sublist (p.window.slice_sublist _)
    exact Corresponds.outcome (.answered (corresponds_map r r' hnodup _ p.window)) s _

theorem query_corresponds (h : List.Forall₂ Alike records records') (policy : Policy) (q : Request F) (delayed : Bool)
    (s : Signal) (winner : Winner) : Corresponds records records'
      ((Engine.mk records policy).query q delayed s winner) ((Engine.mk records' policy).query q delayed s winner) := by
  cases hplan : plan R policy q with
  | error reason =>
    rw [query_of_plan_eq_error hplan, query_of_plan_eq_error hplan]
    exact .refused reason
  | ok p =>
    rw [query_eq_outcome hplan, query_eq_outcome hplan]
    exact (execute_corresponds h policy q .never).outcome s _

end Engine

/-! ## Catalogs -/

namespace Catalog

/-- Two catalogs of as many records that differ in nothing that a query can name. -/
structure Resembles (c c' : Catalog) : Prop where
  products : List.Forall₂ Product.Resembles c.products c'.products
  definitions : List.Forall₂ Definition.Resembles c.attributes c'.attributes

theorem Resembles.alike_products {c c' : Catalog} (h : c.Resembles c') :
    List.Forall₂ Engine.Alike c.products c'.products := by
  obtain ⟨hlength, hget⟩ := List.forall₂_iff_get.1 h.products
  refine List.forall₂_iff_get.2 ⟨hlength, fun i hi hi' => ?_⟩
  exact (hget i hi hi').alike (c.unique _ (List.get_mem _ _)) (c'.unique _ (List.get_mem _ _))

theorem Resembles.alike_definitions {c c' : Catalog} (h : c.Resembles c') :
    List.Forall₂ Engine.Alike c.attributes c'.attributes :=
  h.definitions.imp fun _ _ => Definition.Resembles.alike

/-- **What no query can name makes no difference to any.**  The order of a product's attributes, the other members of
measures and the input that definitions admit change neither whether a request is refused nor which places of the
collection its page shows. -/
theorem unseen_data (c c' : Catalog) (h : c.Resembles c') (policy : Policy) :
    (∀ (q : Request ProductFilter) (s : Signal),
      Engine.Corresponds c.products c'.products ((c.productEngine policy).execute q s)
        ((c'.productEngine policy).execute q s) ∧
      ∀ delayed winner, Engine.Corresponds c.products c'.products ((c.productEngine policy).query q delayed s winner)
        ((c'.productEngine policy).query q delayed s winner)) ∧
    ∀ (q : Request DefinitionFilter) (s : Signal),
      Engine.Corresponds c.attributes c'.attributes ((c.attributeEngine policy).execute q s)
        ((c'.attributeEngine policy).execute q s) ∧
      ∀ delayed winner, Engine.Corresponds c.attributes c'.attributes
        ((c.attributeEngine policy).query q delayed s winner) ((c'.attributeEngine policy).query q delayed s winner) :=
  ⟨fun q s => ⟨Engine.execute_corresponds h.alike_products policy q s,
    fun delayed => Engine.query_corresponds h.alike_products policy q delayed s⟩,
  fun q s => ⟨Engine.execute_corresponds h.alike_definitions policy q s,
    fun delayed => Engine.query_corresponds h.alike_definitions policy q delayed s⟩⟩

/-- Swapping the attributes of a product, adding a note to its mass and requiring an attribute: the products whose mass
has the unit kg, by their mass, stay at the same places. -/
theorem unseen_data_shelf :
    let mass : Option Scalar → List (String × Json) → Attribute := fun value extra =>
      ⟨"mass", .structured ⟨value, some (.string "kg"), extra⟩⟩
    let color : Attribute := ⟨"color", .scalar (.string "red")⟩
    let size : Definition := .plain "a1" "size" "Size" .text 0 0
    let required : Constraints := ⟨some true, none, none, none, none, none, none, none, none, none, none, none⟩
    let c : Catalog := ⟨[⟨"p1", "s1", 0, 0, [color, mass (some (.string "9")) []]⟩,
      ⟨"p2", "s2", 0, 0, [color]⟩, ⟨"p3", "s3", 0, 0, [mass none []]⟩], [size], by decide⟩
    let c' : Catalog := ⟨[⟨"p1", "s1", 0, 0, [mass (some (.string "9")) [("note", .null)], color]⟩,
      ⟨"p2", "s2", 0, 0, [color]⟩, ⟨"p3", "s3", 0, 0, [mass none []]⟩], [{ size with option := some required }],
      by decide⟩
    let q : Request ProductFilter :=
      ⟨some ⟨[], some [("mass", .structured none (some ⟨[.eq (.string "kg")]⟩))], []⟩,
        some ⟨"attributes.mass", .desc⟩, none⟩
    c.Resembles c' ∧ Engine.Corresponds c.products c'.products ((c.productEngine .strict).execute q .never)
      ((c'.productEngine .strict).execute q .never) := by
  intro mass color size required c c' q
  have hsame : ∀ p : Product, p.Resembles p := fun p => ⟨rfl, rfl, rfl, rfl, fun _ => Iff.rfl⟩
  have hswap : ∀ a, a ∈ [color, mass (some (.string "9")) []].map Attribute.bare ↔
      a ∈ [mass (some (.string "9")) [("note", .null)], color].map Attribute.bare := by
    intro a
    exact (List.Perm.swap _ _ []).mem_iff
  have hresembles : c.Resembles c' :=
    { products := .cons ⟨rfl, rfl, rfl, rfl, hswap⟩ (.cons (hsame _) (.cons (hsame _) .nil))
      definitions := .cons rfl .nil }
  exact ⟨hresembles, ((unseen_data c c' hresembles .strict).1 q .never).1⟩

end Catalog
end ProductQuery
