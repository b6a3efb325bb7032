import ProductQuery.Proofs.AnsweredBody
/-!
# Proofs.RequestParts — the parts of a request are read apart

A request is read if each of its members is missing, null or well formed by itself, and each part of it is what its own
member says (`Request.parts_read_apart`).  A sort and a page are objects, in which other members do not matter, or arrays
of what their members would be.  Members are read in the order of their names, so that even what is wrong with a request
is a matter of the three (`Request.Envelope.decode_eq`), and a client may ask for nothing in many ways
(`Request.AsksNothing`).
-/
namespace ProductQuery

variable {v : Json} {members members' : List (String × Json)}

/-! ## Parts that are well formed -/

def SortOrder.IsWellFormed (v : Json) : Prop :=
  v = .string "ASC" ∨ v = .string "DESC" ∨ v = .object [("ASC", .null)] ∨ v = .object [("DESC", .null)]

def Sorting.IsWellFormed (v : Json) : Prop :=
  (∃ members field order, v = .object members ∧ Json.member? "field" members = some (.string field) ∧
    Json.member? "order" members = some order ∧ SortOrder.IsWellFormed order) ∨
  ∃ field order, v = .array [.string field, order] ∧ SortOrder.IsWellFormed order

def Json.IsInt64 (v : Json) : Prop := ∃ n : Int64, v = .number (.ofInt64 n)

def Pagination.IsWellFormed (v : Json) : Prop :=
  (∃ members, v = .object members ∧ (∀ w ∈ Json.member? "offset" members, w.IsInt64) ∧
    ∀ w ∈ Json.member? "limit" members, w.IsInt64) ∨
  ∃ items, v = .array items ∧ items.length ≤ 2 ∧ ∀ w ∈ items, w.IsInt64

theorem SortOrder.exists_spells_iff : (∃ o, SortOrder.Spells v o) ↔ SortOrder.IsWellFormed v := by
  constructor
  · rintro ⟨o, ho⟩
    cases ho <;> cases o <;> simp [IsWellFormed, name]
  · rintro (rfl | rfl | rfl | rfl)
    · exact ⟨.asc, .name .asc⟩
    · exact ⟨.desc, .name .desc⟩
    · exact ⟨.asc, .member .asc⟩
    · exact ⟨.desc, .member .desc⟩

theorem Sorting.exists_spells_iff : (∃ s, Sorting.Spells v s) ↔ Sorting.IsWellFormed v := by
  constructor
  · rintro ⟨s, part, hlists, hfield, horder⟩
    obtain ⟨field, hfield, rfl⟩ := Json.given_required_iff.1 hfield
    obtain ⟨order, horder, ho⟩ := Json.given_required_iff.1 horder
    have hwell := SortOrder.exists_spells_iff.1 ⟨s.order, ho⟩
    cases hlists with
    | object members => exact .inl ⟨members, s.field, order, rfl, hfield, horder, hwell⟩
    | array items h =>
      match items, hfield, horder, h with
      | [_, _], rfl, rfl, _ => exact .inr ⟨s.field, order, rfl, hwell⟩
  · rintro (⟨members, field, order, rfl, hfield, horder, hwell⟩ | ⟨field, order, rfl, hwell⟩)
    · obtain ⟨o, ho⟩ := SortOrder.exists_spells_iff.2 hwell
      refine ⟨⟨field, o⟩, _, .object members, ?_, ?_⟩
      · exact Json.given_required_iff.2 ⟨_, hfield, rfl⟩
      · exact Json.given_required_iff.2 ⟨order, horder, ho⟩
    · obtain ⟨o, ho⟩ := SortOrder.exists_spells_iff.2 hwell
      exact ⟨⟨field, o⟩, _, .array [.string field, order] (Nat.le_refl 2), .present rfl, .present ho⟩

theorem Pagination.exists_spells_iff : (∃ p, Pagination.Spells v p) ↔ Pagination.IsWellFormed v := by
  have hparts : (∃ p, Pagination.Spells v p) ↔ ∃ part, v.Lists ["offset", "limit"] part ∧
      (∀ w ∈ part "offset", w.IsInt64) ∧ ∀ w ∈ part "limit", w.IsInt64 := by
    constructor
    · rintro ⟨p, part, hlists, hoffset, hlimit⟩
      exact ⟨part, hlists, Json.exists_given_iff.1 ⟨_, hoffset⟩, Json.exists_given_iff.1 ⟨_, hlimit⟩⟩
    · rintro ⟨part, hlists, hoffset, hlimit⟩
      obtain ⟨offset, hoffset⟩ := Json.exists_given_iff.2 hoffset
      obtain ⟨limit, hlimit⟩ := Json.exists_given_iff.2 hlimit
      exact ⟨⟨offset, limit⟩, part, hlists, hoffset, hlimit⟩
  rw [hparts]
  constructor
  · rintro ⟨part, hlists, hoffset, hlimit⟩
    cases hlists with
    | object members => exact .inl ⟨members, rfl, hoffset, hlimit⟩
    | array items h =>
      refine .inr ⟨items, rfl, h, fun w hw => ?_⟩
      obtain ⟨i, hi, rfl⟩ := List.getElem_of_mem hw
      match i, Nat.lt_of_lt_of_le hi h with
      | 0, _ => exact hoffset _ (List.getElem?_eq_getElem hi)
      | 1, _ => exact hlimit _ (List.getElem?_eq_getElem hi)
  · rintro (⟨members, rfl, hoffset, hlimit⟩ | ⟨items, rfl, hlength, hitems⟩)
    · exact ⟨_, .object members, hoffset, hlimit⟩
    · have hitem : ∀ i : Nat, ∀ w ∈ items[i]?, w.IsInt64 := fun i w hw => hitems w (List.mem_of_getElem? hw)
      exact ⟨_, .array items hlength, hitem _, hitem _⟩

theorem Sorting.spells_unique (hordered : v.IsOrdered) {s s' : Sorting} (h : Sorting.Spells v s)
    (h' : Sorting.Spells v s') : s = s' := by
  have hdecode := (Sorting.decode_eq_ok_iff hordered).2 h
  exact Except.ok.inj (hdecode.symm.trans ((Sorting.decode_eq_ok_iff hordered).2 h'))

theorem Pagination.spells_unique (hordered : v.IsOrdered) {p p' : Pagination} (h : Pagination.Spells v p)
    (h' : Pagination.Spells v p') : p = p' := by
  have hdecode := (Pagination.decode_eq_ok_iff hordered).2 h
  exact Except.ok.inj (hdecode.symm.trans ((Pagination.decode_eq_ok_iff hordered).2 h'))

/-! ## Members in the order of their names -/

namespace Json

def Decode.optionalMember {α : Type} (decode : Decoder α) : Option Json → Decoded (Option α)
  | none => .ok none
  | some v => Decode.optional decode (Node.ofJson v)

theorem Record.getElem?_of_mem_places {ms : List (String × Node)} {name : String} {i : Nat} {n : Node}
    (h : (i, n) ∈ places name ms) : ms[i]? = some (name, n) := by
  obtain ⟨⟨⟨name', n'⟩, j⟩, hj, heq⟩ := List.mem_map.1 h
  obtain ⟨rfl, rfl⟩ := Prod.mk.inj heq
  obtain ⟨hzip, hname⟩ := List.mem_filter.1 hj
  obtain rfl : name' = name := of_decide_eq_true hname
  exact List.mem_zipIdx_iff_getElem?.1 hzip

/-- **A part of an object is read from its member**, at the place of that. -/
theorem Record.exists_optional_eq (hordered : (Json.object members).IsOrdered) {α : Type} (shape : Shape) (name : String)
    (decode : Decoder α) : ∃ i,
      (Record.members (Node.ofMembers members) none).optional shape name decode =
        Piece.ofDecoded i (Decode.optionalMember decode (member? name members)) ∧
      ∀ v ∈ member? name members, members[i]? = some (name, v) := by
  have hplaces : (places name (Node.ofMembers members)).map Prod.snd =
      ((member? name members).map Node.ofJson).toList :=
    (map_snd_places name _).trans (map_snd_filter_ofMembers hordered.keys_nodup)
  cases hm : member? name members with
  | none =>
    rw [hm, Option.map_none, Option.toList_none, List.map_eq_nil_iff] at hplaces
    refine ⟨0, ?_, fun _ h => by cases h⟩
    dsimp only [optional, field]
    rw [hplaces]
    rfl
  | some v =>
    rw [hm, Option.map_some, Option.toList_some] at hplaces
    obtain ⟨⟨i, n⟩, hplaces, rfl⟩ := List.map_eq_singleton_iff.1 hplaces
    refine ⟨i, ?_, ?_⟩
    · dsimp only [optional, field]
      rw [hplaces]
      dsimp only [Decode.optionalMember]
      cases Decode.optional decode (Node.ofJson v) with
      | error e => rfl
      | ok a => rfl
    · rintro _ ⟨⟩
      have hmem : (i, Node.ofJson v) ∈ places name (Node.ofMembers members) := by
        rw [hplaces]
        exact List.mem_singleton_self _
      have hget := getElem?_of_mem_places hmem
      rw [Node.ofMembers_eq_map, List.getElem?_map] at hget
      obtain ⟨⟨k, w⟩, hplace, hkw⟩ := Option.map_eq_some_iff.1 hget
      obtain ⟨rfl, -⟩ := Prod.mk.inj hkw
      have hv := hordered.member?_eq_some_iff.2 (List.mem_of_getElem? hplace)
      obtain rfl := Option.some.inj (hm.symm.trans hv)
      exact hplace

theorem IsOrdered.place_lt (hordered : (Json.object members).IsOrdered) {i j : Nat} {m n : String × Json}
    (hi : members[i]? = some m) (hj : members[j]? = some n) (h : compare m.1 n.1 = .lt) : i < j := by
  obtain ⟨hilt, rfl⟩ := List.getElem?_eq_some_iff.1 hi
  obtain ⟨hjlt, rfl⟩ := List.getElem?_eq_some_iff.1 hj
  rcases Nat.lt_trichotomy i j with hlt | rfl | hgt
  · exact hlt
  · cases Std.ReflOrd.compare_self.symm.trans h
  · have hprecedes : compare members[j].1 members[i].1 = .lt :=
      List.pairwise_iff_getElem.1 hordered.pairwise_precedes j i hjlt hilt hgt
    cases (Std.OrientedCmp.gt_of_lt hprecedes).symm.trans h

theorem Decode.exists_optionalMember_value (v : Option Json) :
    ∃ w, Decode.optionalMember (fun n => .ok n.value) v = .ok w := by
  cases v with
  | none => exact ⟨none, rfl⟩
  | some v =>
    cases v with
    | null => exact ⟨none, rfl⟩
    | _ => exact ⟨_, rfl⟩

@[simp]
theorem Piece.toDecoded_both_ok {α β : Type} (x : Piece α) (b : β) :
    (Piece.both (fun a _ => a) x (.ok b)).toDecoded = x.toDecoded := by
  cases x <;> rfl

theorem Piece.map_seq_seq {α β γ δ : Type} (f : α → β → γ → δ) (a : α) (x : Piece β) (y : Piece γ) :
    f <$> Piece.ok a <*> x <*> y = Piece.both (f a) x y := by
  cases x <;> cases y <;> rfl

theorem Piece.toDecoded_both {α β γ : Type} (f : α → β → γ) (x : Decoded α) (y : Decoded β) {i j : Nat}
    (h : ∀ e e', x = .error e → y = .error e' → j < i) :
    (Piece.both f (.ofDecoded i x) (.ofDecoded j y)).toDecoded = (do let b ← y; let a ← x; .ok (f a b)) := by
  cases x with
  | ok a => cases y <;> rfl
  | error e =>
    cases y with
    | ok b => rfl
    | error e' =>
      show (if j < i then Piece.fault j e' else Piece.fault i e).toDecoded = _
      rw [if_pos (h e e' rfl rfl)]
      rfl

end Json

namespace Request

variable {F : Type}

/-- **The members of a request are read in the order of their names**, and no other member is looked at. -/
theorem Envelope.decode_eq (hordered : (Json.object members).IsOrdered) :
    Envelope.decode (.ofJson (.object members)) = (do
      let filter ← Json.Decode.optionalMember (fun n => .ok n.value) (Json.member? "filter" members)
      let pagination ← Json.Decode.optionalMember (Pagination.decode .value) (Json.member? "pagination" members)
      let sort ← Json.Decode.optionalMember (Sorting.decode .value) (Json.member? "sort" members)
      .ok ⟨filter, sort, pagination⟩) := by
  obtain ⟨k, hf, -⟩ := Json.Record.exists_optional_eq hordered shape "filter" (fun n => .ok n.value)
  obtain ⟨i, hs, hi⟩ := Json.Record.exists_optional_eq hordered shape "sort" (Sorting.decode .value)
  obtain ⟨j, hp, hj⟩ := Json.Record.exists_optional_eq hordered shape "pagination" (Pagination.decode .value)
  have hclosed : (Json.Record.members (Json.Node.ofMembers members) none).closed .value shape = .ok () :=
    Json.Record.skipFault_ofMembers _ _
  -- A fault needs a member, and the page stands before the sort.
  have hplaces : ∀ e e', Json.Decode.optionalMember (Sorting.decode .value) (Json.member? "sort" members) = .error e →
      Json.Decode.optionalMember (Pagination.decode .value) (Json.member? "pagination" members) = .error e' → j < i := by
    intro e e' hsort hpagination
    cases hsm : Json.member? "sort" members with
    | none => cases hsm ▸ hsort
    | some s =>
      cases hpm : Json.member? "pagination" members with
      | none => cases hpm ▸ hpagination
      | some p => exact hordered.place_lt (hj p hpm) (hi s hsm) (show compare "pagination" "sort" = .lt by decide)
  obtain ⟨filter, hfilter⟩ := Json.Decode.exists_optionalMember_value (Json.member? "filter" members)
  rw [hfilter] at hf ⊢
  show (Json.Piece.both (fun a _ => a) (Envelope.mk <$> Json.Record.optional _ shape "filter" _ <*> _ <*> _)
    (Json.Record.closed _ .value shape)).toDecoded = _
  rw [hclosed, Json.Piece.toDecoded_both_ok, hf, hs, hp, Json.Piece.ofDecoded, Json.Piece.map_seq_seq,
    Json.Piece.toDecoded_both _ _ _ hplaces]
  rfl

variable {readFilter : Json → FilterRead F} {body : List UInt8} {q q' : Request F}

/-- **What an object has besides the three members does not matter**, also to what is wrong with it. -/
theorem read_congr (hordered : (Json.object members).IsOrdered) (hordered' : (Json.object members').IsOrdered)
    (h : ∀ name ∈ ["filter", "sort", "pagination"], Json.member? name members = Json.member? name members') :
    read readFilter (.object members) = read readFilter (.object members') := by
  have hdecode : Envelope.decode (.ofJson (.object members)) = Envelope.decode (.ofJson (.object members')) := by
    rw [Envelope.decode_eq hordered, Envelope.decode_eq hordered', h "filter" (by decide), h "sort" (by decide),
      h "pagination" (by decide)]
  rw [read, read, hdecode]

/-! ## Parts by their members -/

/-- **A request is read if each of its members is missing, null or well formed by itself.** -/
theorem exists_read_iff (hordered : (Json.object members).IsOrdered) :
    (∃ q, read readFilter (.object members) = .ok q) ↔
      (∀ v ∈ Json.member? "filter" members, v ≠ .null → ∃ f, readFilter v = .ok f) ∧
      (∀ v ∈ Json.member? "sort" members, v ≠ .null → Sorting.IsWellFormed v) ∧
      ∀ v ∈ Json.member? "pagination" members, v ≠ .null → Pagination.IsWellFormed v := by
  simp only [← Sorting.exists_spells_iff, ← Pagination.exists_spells_iff, ← Json.exists_optional_iff,
    read_eq_ok_iff hordered]
  constructor
  · rintro ⟨q, h⟩
    exact ⟨⟨_, h.filter⟩, ⟨_, h.sort⟩, _, h.pagination⟩
  · rintro ⟨⟨filter, hfilter⟩, ⟨sort, hsort⟩, pagination, hpagination⟩
    exact ⟨⟨filter, sort, pagination⟩, hfilter, hsort, hpagination⟩

namespace Spells

theorem page_of_null (h : Spells readFilter members q) (hnull : ∀ v ∈ Json.member? "pagination" members, v = .null) :
    q.page = ⟨0, 25⟩ := by
  have hpagination := h.pagination
  cases hq : q.pagination with
  | none => rw [page, hq]; rfl
  | some p =>
    rw [hq] at hpagination
    obtain ⟨v, hv, hne, -⟩ := Json.optional_some_iff.1 hpagination
    exact absurd (hnull v hv) hne

theorem page_of_ne_null (h : Spells readFilter members q) (hv : v ∈ Json.member? "pagination" members)
    (hne : v ≠ .null) : Pagination.Spells v q.page := by
  have hpagination := h.pagination
  cases hq : q.pagination with
  | none =>
    rw [hq] at hpagination
    exact absurd (Json.optional_none_iff.1 hpagination v hv) hne
  | some p =>
    rw [hq] at hpagination
    obtain ⟨w, hw, -, hp⟩ := Json.optional_some_iff.1 hpagination
    obtain rfl := Option.some.inj (hv.symm.trans hw)
    rwa [page, hq]

variable (hordered : (Json.object members).IsOrdered) (h : Spells readFilter members q)
  (h' : Spells readFilter members' q')

include h h'

theorem filter_congr (hmember : Json.member? "filter" members = Json.member? "filter" members') :
    q.filter = q'.filter := by
  have hfilter := h.filter
  rw [hmember] at hfilter
  exact Json.optional_unique (fun v _ f f' hf hf' => Except.ok.inj (hf.symm.trans hf')) hfilter h'.filter

include hordered

theorem sort_congr (hmember : Json.member? "sort" members = Json.member? "sort" members') : q.sort = q'.sort := by
  have hsort := h'.sort
  rw [← hmember] at hsort
  exact Json.optional_unique (fun v hv _ _ => Sorting.spells_unique (hordered.of_member? hv)) h.sort hsort

theorem pagination_congr (hmember : Json.member? "pagination" members = Json.member? "pagination" members') :
    q.pagination = q'.pagination := by
  have hpagination := h'.pagination
  rw [← hmember] at hpagination
  exact Json.optional_unique (fun v hv _ _ => Pagination.spells_unique (hordered.of_member? hv)) h.pagination hpagination

end Spells

/-! ## Asking for nothing -/

/-- Null, or an object without members that count. -/
def AsksNothing (v : Json) : Prop :=
  v = .null ∨ ∃ members, v = .object members ∧
    ∀ name ∈ ["filter", "sort", "pagination"], ∀ w ∈ Json.member? name members, w = .null

theorem read_eq_empty_iff (hordered : v.IsOrdered) : read readFilter v = .ok empty ↔ AsksNothing v := by
  cases v with
  | null => exact iff_of_true rfl (.inl rfl)
  | object members =>
    have hspells : Spells readFilter members empty ↔
        ∀ name ∈ ["filter", "sort", "pagination"], ∀ w ∈ Json.member? name members, w = .null := by
      rw [List.forall_mem_cons, List.forall_mem_cons, List.forall_mem_singleton]
      constructor
      · rintro ⟨hfilter, hsort, hpagination⟩
        exact ⟨Json.optional_none_iff.1 hfilter, Json.optional_none_iff.1 hsort, Json.optional_none_iff.1 hpagination⟩
      · rintro ⟨hfilter, hsort, hpagination⟩
        exact ⟨Json.optional_none_iff.2 hfilter, Json.optional_none_iff.2 hsort, Json.optional_none_iff.2 hpagination⟩
    rw [read_eq_ok_iff hordered, hspells]
    constructor
    · exact fun h => .inr ⟨members, rfl, h⟩
    · rintro (h | ⟨_, ⟨⟩, h⟩)
      · cases h
      · exact h
  | _ =>
    refine iff_of_false (fun h => by cases h) ?_
    rintro (h | ⟨_, h, -⟩) <;> cases h

theorem ofBody_eq_empty_iff : ofBody readFilter body = .ok empty ↔
    body.all isBlankByte ∨ ∃ v, Json.read (Symbol.ofBytes body) = .ok v ∧ AsksNothing v := by
  by_cases hblank : body.all isBlankByte
  · exact iff_of_true (ofBody_of_blank hblank) (.inl hblank)
  rw [or_iff_right hblank]
  constructor
  · intro h
    cases hread : Json.read (Symbol.ofBytes body) with
    | error e =>
      rw [ofBody, if_neg hblank, hread] at h
      cases h
    | ok v =>
      have hempty : read readFilter v = .ok empty := by
        rw [ofBody_of_read hblank hread] at h
        cases hv : read readFilter v with
        | error e => cases hv ▸ h
        | ok q =>
          rw [hv] at h
          exact congrArg Except.ok (Except.ok.inj h)
      exact ⟨v, rfl, (read_eq_empty_iff (Json.isOrdered_of_read hread)).1 hempty⟩
  · rintro ⟨v, hread, hv⟩
    have hordered := Json.isOrdered_of_read hread
    rw [ofBody_of_read hblank hread, (read_eq_empty_iff hordered).2 hv]
    rfl

/-- **Each part of a request is read from its own member.**  An object is read if each of the three is missing, null or
well formed by itself; then the page starts at the first record and has twenty-five, where its member does not say
otherwise.  Objects that agree in one of the three agree in that part, and those that agree in all of them are read alike,
whatever else they have.  The empty request is asked for by blanks, by null, and by the objects in which none of the three
is anything but null. -/
theorem parts_read_apart (readFilter : Json → FilterRead F) :
    (∀ members, (Json.object members).IsOrdered →
      ((∃ q, read readFilter (.object members) = .ok q) ↔
        (∀ v ∈ Json.member? "filter" members, v ≠ .null → ∃ f, readFilter v = .ok f) ∧
        (∀ v ∈ Json.member? "sort" members, v ≠ .null → Sorting.IsWellFormed v) ∧
        ∀ v ∈ Json.member? "pagination" members, v ≠ .null → Pagination.IsWellFormed v) ∧
      ∀ q, read readFilter (.object members) = .ok q →
        q.Spells readFilter members ∧
        ((∀ v ∈ Json.member? "pagination" members, v = .null) → q.page = ⟨0, 25⟩) ∧
        ∀ v ∈ Json.member? "pagination" members, v ≠ .null → Pagination.Spells v q.page) ∧
    (∀ members members', (Json.object members).IsOrdered → (Json.object members').IsOrdered →
      ((∀ name ∈ ["filter", "sort", "pagination"], Json.member? name members = Json.member? name members') →
        read readFilter (.object members) = read readFilter (.object members')) ∧
      ∀ q q', read readFilter (.object members) = .ok q → read readFilter (.object members') = .ok q' →
        (Json.member? "filter" members = Json.member? "filter" members' → q.filter = q'.filter) ∧
        (Json.member? "sort" members = Json.member? "sort" members' → q.sort = q'.sort) ∧
        (Json.member? "pagination" members = Json.member? "pagination" members' → q.pagination = q'.pagination)) ∧
    (∀ v : Json, v.IsOrdered → (read readFilter v = .ok empty ↔ AsksNothing v)) ∧
    ∀ body, ofBody readFilter body = .ok empty ↔
      body.all isBlankByte ∨ ∃ v, Json.read (Symbol.ofBytes body) = .ok v ∧ AsksNothing v := by
  refine ⟨fun members hordered => ⟨exists_read_iff hordered, fun q hq => ?parts⟩,
    fun members members' hordered hordered' => ⟨read_congr hordered hordered', fun q q' hq hq' => ?apart⟩,
    fun v hordered => read_eq_empty_iff hordered, fun body => ofBody_eq_empty_iff⟩
  case parts =>
    have h := (read_eq_ok_iff hordered).1 hq
    exact ⟨h, h.page_of_null, fun v hv hne => h.page_of_ne_null hv hne⟩
  case apart =>
    have h := (read_eq_ok_iff hordered).1 hq
    have h' := (read_eq_ok_iff hordered').1 hq'
    exact ⟨h.filter_congr h', h.sort_congr hordered h', h.pagination_congr hordered h'⟩

/-- A filter, a sort and a page that tells only its length are read, each from its member, and another member beside them
makes no difference. -/
theorem parts_read_apart_noted :
    let asked : List (String × Json) := [("filter", .object [("id", .object [("$eq", .string "p1")])]),
      ("pagination", .object [("limit", .number (.ofInt64 5))]),
      ("sort", .object [("field", .string "id"), ("order", .string "DESC")])]
    let q : Request ProductFilter :=
      ⟨some ⟨[(.id, ⟨[.eq (.string "p1")]⟩)], none, []⟩, some ⟨"id", .desc⟩, some ⟨0, 5⟩⟩
    (Json.object asked).IsOrdered ∧ (Json.object (("colour", .null) :: asked)).IsOrdered ∧
      read ProductFilter.read (.object asked) = .ok q ∧
      Pagination.Spells (.object [("limit", .number (.ofInt64 5))]) q.page ∧
      read ProductFilter.read (.object (("colour", .null) :: asked)) = .ok q := by
  intro asked q
  have hordered : (Json.object asked).IsOrdered := Json.isOrdered_of_ordered_eq rfl
  have hordered' : (Json.object (("colour", .null) :: asked)).IsOrdered := Json.isOrdered_of_ordered_eq rfl
  have hread : read ProductFilter.read (.object asked) = .ok q := rfl
  obtain ⟨hparts, hpair, -⟩ := parts_read_apart ProductFilter.read
  obtain ⟨-, -, hpage⟩ := (hparts asked hordered).2 q hread
  refine ⟨hordered, hordered', hread, hpage _ rfl (fun h => by cases h), ?_⟩
  rw [← (hpair _ _ hordered hordered').1 ?_, hread]
  rw [List.forall_mem_cons, List.forall_mem_cons, List.forall_mem_singleton]
  exact ⟨rfl, rfl, rfl⟩

end Request
end ProductQuery
