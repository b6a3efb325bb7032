import ProductQuery.Proofs.RecordShape
import ProductQuery.Proofs.Steps
import ProductQuery.Query.Request
/-!
# Proofs.RequestShape — which documents are requests

A direction, a field to sort by and a page are read from the documents that spell them (`SortOrder.Spells`,
`Sorting.Spells`, `Pagination.Spells`), and a request from the objects whose three members are in order, each for itself
(`Request.read_eq_ok_iff`).  Of several members that are not, the sort and the page are looked at first
(`exists_read_eq_request`, `exists_read_eq_filter`).
-/
namespace ProductQuery

/-! ## Sorts and pages -/

/-- A direction is its name, or an object with its name and nothing for it. -/
inductive SortOrder.Spells : Json → SortOrder → Prop
  | name (o : SortOrder) : Spells (.string o.name) o
  | member (o : SortOrder) : Spells (.object [(o.name, .null)]) o

/-- A field to sort by and a direction. -/
def Sorting.Spells (v : Json) (s : Sorting) : Prop :=
  ∃ part, v.Lists ["field", "order"] part ∧ Json.Given none (fun w name => w = .string name) (part "field") s.field ∧
    Json.Given none SortOrder.Spells (part "order") s.order

/-- A start and a length, each a number of 64 bits that may be missing. -/
def Pagination.Spells (v : Json) (p : Pagination) : Prop :=
  ∃ part, v.Lists ["offset", "limit"] part ∧
    Json.Given (some 0) (fun w n => w = .number (.ofInt64 n)) (part "offset") p.offset ∧
    Json.Given (some 25) (fun w n => w = .number (.ofInt64 n)) (part "limit") p.limit

namespace SortOrder

theorem variant_eq_ok_iff {name : String} {o : SortOrder} :
    Json.Decode.variant (all.map (fun o => (o.name, o))) name = .ok o ↔ name = o.name := by
  constructor
  · intro h
    unfold Json.Decode.variant at h
    split at h
    · rename_i a hlookup
      obtain rfl := Except.ok.inj h
      obtain ⟨before, after, hall, -⟩ := List.lookup_eq_some_iff.1 hlookup
      have hmem : (name, a) ∈ all.map (fun o => (o.name, o)) := by
        rw [hall]
        exact List.mem_append_right _ List.mem_cons_self
      obtain ⟨b, -, hb⟩ := List.mem_map.1 hmem
      obtain ⟨hname, rfl⟩ := Prod.mk.inj hb
      exact hname.symm
    · cases h
  · rintro rfl
    cases o <;> rfl

theorem decode_eq_ok_iff {v : Json} {o : SortOrder} :
    SortOrder.decode .value (Json.Node.ofJson v) = .ok o ↔ SortOrder.Spells v o := by
  cases v with
  | string s =>
    refine (@variant_eq_ok_iff s o).trans ⟨?_, fun h => by cases h; rfl⟩
    rintro rfl
    exact .name o
  | object members =>
    match members with
    | [] => exact iff_of_false (fun h => by cases h) (fun h => by cases h)
    | (name, w) :: _ :: _ => exact iff_of_false (fun h => by cases h) (fun h => by cases h)
    | [(name, w)] =>
      show (do
        let a ← Json.Decode.variant (all.map (fun o => (o.name, o))) name
        Json.Decode.unit (Json.Node.ofJson w)
        .ok a) = Except.ok o ↔ _
      rw [bind_eq_ok_iff]
      constructor
      · rintro ⟨a, ha, h⟩
        obtain ⟨_, hunit, h⟩ := bind_eq_ok_iff.1 h
        obtain rfl := Except.ok.inj h
        obtain rfl := variant_eq_ok_iff.1 ha
        obtain rfl := Json.Decode.unit_eq_ok_iff.1 hunit
        exact .member a
      · rintro ⟨⟩
        exact ⟨o, variant_eq_ok_iff.2 rfl, rfl⟩
  | _ => exact iff_of_false (fun h => by cases h) (fun h => by cases h)

end SortOrder

/-- **What a field to sort by is read from.** -/
theorem Sorting.decode_eq_ok_iff {v : Json} (hordered : v.IsOrdered) {s : Sorting} :
    Sorting.decode .value (Json.Node.ofJson v) = .ok s ↔ Sorting.Spells v s := by
  refine Json.Decode.record_eq_ok_iff hordered fun r part hr => ?_
  refine (Json.Record.map_seq_field_eq_ok_iff hr "field" "order" none none _ _).trans ?_
  simp only [Json.Decode.string_eq_ok_iff, SortOrder.decode_eq_ok_iff]
  constructor
  · rintro ⟨field, order, hfield, horder, rfl⟩
    exact ⟨hfield, horder⟩
  · rintro ⟨hfield, horder⟩
    exact ⟨s.field, s.order, hfield, horder, rfl⟩

/-- **What a page is read from.** -/
theorem Pagination.decode_eq_ok_iff {v : Json} (hordered : v.IsOrdered) {p : Pagination} :
    Pagination.decode .value (Json.Node.ofJson v) = .ok p ↔ Pagination.Spells v p := by
  refine Json.Decode.record_eq_ok_iff hordered fun r part hr => ?_
  refine (Json.Record.map_seq_field_eq_ok_iff hr "offset" "limit" (some 0) (some 25) _ _).trans ?_
  simp only [Json.Decode.int64_eq_ok_iff]
  constructor
  · rintro ⟨offset, limit, hoffset, hlimit, rfl⟩
    exact ⟨hoffset, hlimit⟩
  · rintro ⟨hoffset, hlimit⟩
    exact ⟨p.offset, p.limit, hoffset, hlimit, rfl⟩

/-! ## Requests -/

namespace Request

variable {F : Type} {members : List (String × Json)}

/-- What the members of an object spell as a request, each for itself; other members are nothing to it. -/
structure Spells (readFilter : Json → FilterRead F) (members : List (String × Json)) (q : Request F) : Prop where
  filter : Json.Optional (fun v f => readFilter v = .ok f) (Json.member? "filter" members) q.filter
  sort : Json.Optional Sorting.Spells (Json.member? "sort" members) q.sort
  pagination : Json.Optional Pagination.Spells (Json.member? "pagination" members) q.pagination

/-- A member that may be missing is read as its value is. -/
theorem optional_eq_ok_iff (hordered : (Json.object members).IsOrdered) {α : Type} (decode : Json.Decoder α)
    {spells : Json → α → Prop} (hspells : ∀ v, v.IsOrdered → ∀ a, decode (.ofJson v) = .ok a ↔ spells v a)
    (name : String) (a : Option α) :
    (Json.Record.members (Json.Node.ofMembers members) none).optional Envelope.shape name decode = .ok a ↔
      Json.Optional spells (Json.member? name members) a := by
  refine (Json.Record.field_eq_ok_iff (.members hordered.keys_nodup) (some none) (Json.Decode.optional decode)).trans ?_
  refine Json.given_congr fun v hv => ?_
  have hvalue : v.IsOrdered := hordered.of_member? hv
  rw [Json.Decode.optional_eq_ok_iff]
  exact Json.orNull_congr (hspells v hvalue)

theorem Envelope.decode_eq_ok_iff (hordered : (Json.object members).IsOrdered) {envelope : Envelope} :
    Envelope.decode (.ofJson (.object members)) = .ok envelope ↔
      Json.Optional Eq (Json.member? "filter" members) envelope.filter ∧
      Json.Optional Sorting.Spells (Json.member? "sort" members) envelope.sort ∧
      Json.Optional Pagination.Spells (Json.member? "pagination" members) envelope.pagination := by
  have hvalue : ∀ v : Json, v.IsOrdered → ∀ w, (.ok (Json.Node.ofJson v).value : Json.Decoded Json) = .ok w ↔ v = w :=
    fun v hv w => by rw [Json.Node.value_ofJson hv, Except.ok.injEq]
  have hfilter := optional_eq_ok_iff hordered (fun n => .ok n.value) hvalue "filter"
  have hsort := optional_eq_ok_iff hordered _ (fun _ h _ => Sorting.decode_eq_ok_iff h) "sort"
  have hpagination := optional_eq_ok_iff hordered _ (fun _ h _ => Pagination.decode_eq_ok_iff h) "pagination"
  refine (Json.Decode.record_eq_ok_iff hordered (p := fun part => Json.Optional Eq (part "filter") envelope.filter ∧
    Json.Optional Sorting.Spells (part "sort") envelope.sort ∧
    Json.Optional Pagination.Spells (part "pagination") envelope.pagination) ?_).trans ?_
  · rintro _ _ ⟨⟩
    rw [Json.Piece.seq_eq_ok_iff]
    simp only [Json.Piece.map_seq_eq_ok_iff, ← hfilter, ← hsort, ← hpagination]
    constructor
    · rintro ⟨_, pagination, ⟨filter, sort, hf, hs, rfl⟩, hp, rfl⟩
      exact ⟨hf, hs, hp⟩
    · rintro ⟨hf, hs, hp⟩
      exact ⟨_, envelope.pagination, ⟨envelope.filter, envelope.sort, hf, hs, rfl⟩, hp, rfl⟩
  · constructor
    · rintro ⟨_, ⟨⟩, h⟩
      exact h
    · exact fun h => ⟨_, .object members, h⟩

/-- The sort and the page of an object are looked at before its filter. -/
theorem exists_read_eq_request (hordered : (Json.object members).IsOrdered) (readFilter : Json → FilterRead F)
    (h : ¬((∃ s, Json.Optional Sorting.Spells (Json.member? "sort" members) s) ∧
      ∃ p, Json.Optional Pagination.Spells (Json.member? "pagination" members) p)) :
    ∃ e, read readFilter (.object members) = .error (.request (.invalid e)) := by
  cases hdecode : Envelope.decode (.ofJson (.object members)) with
  | error e => exact ⟨e, by rw [read, hdecode]⟩
  | ok envelope =>
    obtain ⟨-, hsort, hpagination⟩ := (Envelope.decode_eq_ok_iff hordered).1 hdecode
    exact absurd ⟨⟨_, hsort⟩, _, hpagination⟩ h

section

variable (hordered : (Json.object members).IsOrdered) (readFilter : Json → FilterRead F) {sort : Option Sorting}
  {pagination : Option Pagination} (hsort : Json.Optional Sorting.Spells (Json.member? "sort" members) sort)
  (hpagination : Json.Optional Pagination.Spells (Json.member? "pagination" members) pagination)

include hordered hsort hpagination

theorem read_of_no_filter (h : ∀ v ∈ Json.member? "filter" members, v = .null) :
    read readFilter (.object members) = .ok ⟨none, sort, pagination⟩ := by
  have hdecode : Envelope.decode (.ofJson (.object members)) = .ok ⟨none, sort, pagination⟩ :=
    (Envelope.decode_eq_ok_iff hordered).2 ⟨Json.optional_none_iff.2 h, hsort, hpagination⟩
  rw [read, hdecode]

theorem decode_of_filter {v : Json} (hv : Json.member? "filter" members = some v) (hne : v ≠ .null) :
    Envelope.decode (.ofJson (.object members)) = .ok ⟨some v, sort, pagination⟩ :=
  (Envelope.decode_eq_ok_iff hordered).2 ⟨Json.optional_some_iff.2 ⟨v, hv, hne, rfl⟩, hsort, hpagination⟩

theorem read_of_filter_error {v : Json} (hv : Json.member? "filter" members = some v) (hne : v ≠ .null) {e : FilterError}
    (he : readFilter v = .error e) : read readFilter (.object members) = .error (.filter e) := by
  simp only [read, decode_of_filter hordered hsort hpagination hv hne, he]

theorem read_of_filter_ok {v : Json} (hv : Json.member? "filter" members = some v) (hne : v ≠ .null) {f : F}
    (hf : readFilter v = .ok f) : read readFilter (.object members) = .ok ⟨some f, sort, pagination⟩ := by
  simp only [read, decode_of_filter hordered hsort hpagination hv hne, hf]

/-- Of an object whose sort and page are in order, the filter is the part that is not. -/
theorem exists_read_eq_filter
    (h : ¬∃ f, Json.Optional (fun v f => readFilter v = .ok f) (Json.member? "filter" members) f) :
    ∃ e, read readFilter (.object members) = .error (.filter e) := by
  rw [Json.exists_optional_iff] at h
  obtain ⟨v, hv⟩ := Classical.not_forall.1 h
  obtain ⟨hmem, hv⟩ := Classical.not_imp.1 hv
  obtain ⟨hne, hno⟩ := Classical.not_imp.1 hv
  obtain ⟨e, he⟩ := exists_error_of_not_ok hno
  exact ⟨e, read_of_filter_error hordered readFilter hsort hpagination hmem hne he⟩

/-- An object whose three members are in order is read as they say. -/
theorem read_of_optional {filter : Option F}
    (hfilter : Json.Optional (fun v f => readFilter v = .ok f) (Json.member? "filter" members) filter) :
    read readFilter (.object members) = .ok ⟨filter, sort, pagination⟩ := by
  cases filter with
  | none => exact read_of_no_filter hordered readFilter hsort hpagination (Json.optional_none_iff.1 hfilter)
  | some f =>
    obtain ⟨v, hv, hne, hf⟩ := Json.optional_some_iff.1 hfilter
    exact read_of_filter_ok hordered readFilter hsort hpagination hv hne hf

end

/-- **A request is read from an object whose three members are in order**, each for itself. -/
theorem read_eq_ok_iff (hordered : (Json.object members).IsOrdered) {readFilter : Json → FilterRead F} {q : Request F} :
    read readFilter (.object members) = .ok q ↔ Spells readFilter members q := by
  refine ⟨fun h => ?_, fun h => read_of_optional hordered readFilter h.sort h.pagination h.filter⟩
  have hparts : (∃ s, Json.Optional Sorting.Spells (Json.member? "sort" members) s) ∧
      ∃ p, Json.Optional Pagination.Spells (Json.member? "pagination" members) p := by
    refine Classical.byContradiction fun hno => ?_
    obtain ⟨e, he⟩ := exists_read_eq_request hordered readFilter hno
    cases he.symm.trans h
  obtain ⟨⟨sort, hsort⟩, pagination, hpagination⟩ := hparts
  have hread : ∃ f, Json.Optional (fun v f => readFilter v = .ok f) (Json.member? "filter" members) f := by
    refine Classical.byContradiction fun hno => ?_
    obtain ⟨e, he⟩ := exists_read_eq_filter hordered readFilter hsort hpagination hno
    cases he.symm.trans h
  obtain ⟨filter, hfilter⟩ := hread
  obtain rfl := Except.ok.inj ((read_of_optional hordered readFilter hsort hpagination hfilter).symm.trans h)
  exact ⟨hfilter, hsort, hpagination⟩

end Request

end ProductQuery
