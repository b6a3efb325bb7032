import ProductQuery.Command.Run
import ProductQuery.Proofs.ByteOrder
import ProductQuery.Proofs.FilterShape
import ProductQuery.Proofs.LenientQuery
import ProductQuery.Proofs.RequestShape
/-!
# Proofs.AnsweredBody — which check decides an answer

A body may have many faults at once: it is no JSON, it is no object, its parts have the wrong shape, or what it asks for is
not there.  The checks are made in one order, and the first that applies decides the answer (`FirstOf`, `AnswersBody`).
What a check looks at is said of the body alone (`Request.Holds`), or of the request that the body asks for
(`Request.IsAskedBy`).
-/
namespace ProductQuery

/-- The first of some checks that applies decides what holds, and if none does, what holds otherwise. -/
def FirstOf (otherwise : Prop) : List (Prop × Prop) → Prop
  | [] => otherwise
  | (applies, outcome) :: rest => (applies → outcome) ∧ (¬applies → FirstOf otherwise rest)

theorem FirstOf.cons {otherwise applies outcome : Prop} {rest : List (Prop × Prop)} (h : applies → outcome)
    (hrest : ¬applies → FirstOf otherwise rest) : FirstOf otherwise ((applies, outcome) :: rest) :=
  ⟨h, hrest⟩

/-- What is read from text is in order. -/
theorem Json.isOrdered_of_read {symbols : List Symbol} {v : Json} (h : read symbols = .ok v) : v.IsOrdered := by
  unfold read at h
  dsimp only at h
  split at h
  · cases h
  · split at h
    · cases h
    · obtain rfl := Except.ok.inj h
      exact Node.isOrdered_value _

/-! ## What bodies hold -/

namespace Request

variable {F : Type}

/-- A body is an object. -/
def Holds (body : List UInt8) (members : List (String × Json)) : Prop :=
  Json.read (Symbol.ofBytes body) = .ok (.object members)

/-- The request that a body asks for. -/
def IsAskedBy (readFilter : Json → FilterRead F) (body : List UInt8) (q : Request F) : Prop :=
  ∃ members, Holds body members ∧ q.Spells readFilter members

/-- A body has a sort or a page of the wrong shape. -/
def HasWrongParts (body : List UInt8) : Prop :=
  ∃ members, Holds body members ∧ ((¬∃ s, Json.Optional Sorting.Spells (Json.member? "sort" members) s) ∨
    ¬∃ p, Json.Optional Pagination.Spells (Json.member? "pagination" members) p)

/-- A body has a filter of the wrong shape. -/
def HasWrongFilter (isFilter : Json → Prop) (body : List UInt8) : Prop :=
  ∃ members v, Holds body members ∧ Json.member? "filter" members = some v ∧ v ≠ .null ∧ ¬isFilter v

/-- The filter of a body has a name that is not known. -/
def NamesUnknown (known : List String) (body : List UInt8) (name : String) : Prop :=
  ∃ members filter, Holds body members ∧ Json.member? "filter" members = some (.object filter) ∧
    name ∈ filter.map Prod.fst ∧ name ∉ known

/-- Of the names that are not known, the one with the least bytes. -/
def NamesFirstUnknown (known : List String) (body : List UInt8) (name : String) : Prop :=
  NamesUnknown known body name ∧
    ∀ other, NamesUnknown known body other → other ≠ name → Text.bytes name < Text.bytes other

variable {body : List UInt8} {members : List (String × Json)} {readFilter : Json → FilterRead F} {q : Request F}

theorem ofBody_of_blank (hblank : body.all isBlankByte) : ofBody readFilter body = .ok empty := by
  rw [ofBody, if_pos hblank]

theorem ofBody_of_read {v : Json} (hblank : ¬body.all isBlankByte) (hv : Json.read (Symbol.ofBytes body) = .ok v) :
    ofBody readFilter body = (read readFilter v).mapError .invalid := by
  rw [ofBody, if_neg hblank, hv]

theorem Holds.isOrdered (h : Holds body members) : (Json.object members).IsOrdered := Json.isOrdered_of_read h

theorem Holds.unique {members' : List (String × Json)} (h : Holds body members) (h' : Holds body members') :
    members = members' :=
  Json.object.inj (Except.ok.inj (h.symm.trans h'))

theorem IsAskedBy.ofBody_eq (h : q.IsAskedBy readFilter body) (hblank : ¬body.all isBlankByte) :
    ofBody readFilter body = .ok q := by
  obtain ⟨members, hmembers, hspells⟩ := h
  rw [ofBody_of_read hblank hmembers, (read_eq_ok_iff hmembers.isOrdered).2 hspells]
  rfl

/-- What a body asks for is one request. -/
theorem IsAskedBy.unique {q' : Request F} (h : q.IsAskedBy readFilter body) (h' : q'.IsAskedBy readFilter body) :
    q = q' := by
  obtain ⟨members, hmembers, hspells⟩ := h
  obtain ⟨members', hmembers', hspells'⟩ := h'
  obtain rfl := hmembers.unique hmembers'
  have hread := (read_eq_ok_iff hmembers.isOrdered).2 hspells
  exact Except.ok.inj (hread.symm.trans ((read_eq_ok_iff hmembers.isOrdered).2 hspells'))

/-- A value that is neither null nor an object is no request. -/
theorem ofBody_of_not_object (hblank : ¬body.all isBlankByte) {v : Json} (hv : Json.read (Symbol.ofBytes body) = .ok v)
    (hnull : v ≠ .null) (hobject : ∀ members, v ≠ .object members) :
    ofBody readFilter body = .error (.invalid (.request .notAnObject)) := by
  rw [ofBody_of_read hblank hv]
  cases v with
  | null => exact absurd rfl hnull
  | object members => exact absurd rfl (hobject members)
  | _ => rfl

theorem parts_of_not_hasWrongParts (hmembers : Holds body members) (h : ¬HasWrongParts body) :
    (∃ s, Json.Optional Sorting.Spells (Json.member? "sort" members) s) ∧
      ∃ p, Json.Optional Pagination.Spells (Json.member? "pagination" members) p :=
  ⟨Classical.byContradiction fun hno => h ⟨members, hmembers, .inl hno⟩,
    Classical.byContradiction fun hno => h ⟨members, hmembers, .inr hno⟩⟩

theorem exists_ofBody_of_hasWrongParts (hblank : ¬body.all isBlankByte) (h : HasWrongParts body) :
    ∃ e, ofBody readFilter body = .error (.invalid (.request (.invalid e))) := by
  obtain ⟨members, hmembers, hwrong⟩ := h
  obtain ⟨e, he⟩ := exists_read_eq_request hmembers.isOrdered readFilter fun ⟨hsort, hpagination⟩ =>
    hwrong.elim (absurd hsort) (absurd hpagination)
  refine ⟨e, ?_⟩
  rw [ofBody_of_read hblank hmembers, he]
  rfl

section

variable {R K : Type} [Queryable R F K] {isFilter : Json → Prop} {known : List String}
  (grammar : FilterGrammar R isFilter known)

include grammar

theorem exists_ofBody_of_hasWrongFilter (hblank : ¬body.all isBlankByte) (hparts : ¬HasWrongParts body)
    (h : HasWrongFilter isFilter body) :
    ∃ e, ofBody (Queryable.readFilter R) body = .error (.invalid (.filter e)) := by
  obtain ⟨members, v, hmembers, hv, hne, hwrong⟩ := h
  have hordered := hmembers.isOrdered
  obtain ⟨⟨sort, hsort⟩, pagination, hpagination⟩ := parts_of_not_hasWrongParts hmembers hparts
  have hvalue : v.IsOrdered := hordered.of_member? hv
  obtain ⟨e, he⟩ := exists_error_of_not_ok (mt (grammar.exists_read_iff hvalue).1 hwrong)
  refine ⟨e, ?_⟩
  rw [ofBody_of_read hblank hmembers, read_of_filter_error hordered _ hsort hpagination hv hne he]
  rfl

/-- An object whose parts and whose filter are in order asks for something. -/
theorem exists_isAskedBy (hmembers : Holds body members) (hparts : ¬HasWrongParts body)
    (hfilter : ¬HasWrongFilter isFilter body) : ∃ q, IsAskedBy (Queryable.readFilter R) body q := by
  have hordered := hmembers.isOrdered
  obtain ⟨⟨sort, hsort⟩, pagination, hpagination⟩ := parts_of_not_hasWrongParts hmembers hparts
  have hread : ∃ f, Json.Optional (fun v f => Queryable.readFilter R v = .ok f) (Json.member? "filter" members) f := by
    refine Json.exists_optional_iff.2 fun v hv hne => ?_
    have hvalue : v.IsOrdered := hordered.of_member? hv
    have hshape : isFilter v := Classical.byContradiction fun hno => hfilter ⟨members, v, hmembers, hv, hne, hno⟩
    exact (grammar.exists_read_iff hvalue).2 hshape
  obtain ⟨filter, hf⟩ := hread
  exact ⟨⟨filter, sort, pagination⟩, members, hmembers, hf, hsort, hpagination⟩

/-- The filter of a request, as it stands in its body. -/
theorem IsAskedBy.exists_filter (hq : q.IsAskedBy (Queryable.readFilter R) body) {f : F} (hf : f ∈ q.filter) :
    ∃ members filter, Holds body members ∧ Json.member? "filter" members = some (.object filter) ∧
      Queryable.readFilter R (.object filter) = .ok f := by
  obtain ⟨members, hmembers, hspells⟩ := hq
  have hordered := hmembers.isOrdered
  have hfilter := hspells.filter
  rw [Option.mem_def.1 hf] at hfilter
  obtain ⟨v, hv, -, hread⟩ := Json.optional_some_iff.1 hfilter
  have hvalue : v.IsOrdered := hordered.of_member? hv
  obtain ⟨filter, rfl⟩ := grammar.isObject ((grammar.exists_read_iff hvalue).1 ⟨f, hread⟩)
  exact ⟨members, filter, hmembers, hv, hread⟩

/-- The names that a body asks for and that are not known are the unknown fields of its request. -/
theorem IsAskedBy.namesUnknown_iff (hq : q.IsAskedBy (Queryable.readFilter R) body) {name : String} :
    NamesUnknown known body name ↔ ∃ f ∈ q.filter, name ∈ Queryable.unknownFields R f := by
  constructor
  · rintro ⟨members, filter, hmembers, hv, hname, hunknown⟩
    obtain ⟨members', hmembers', hspells⟩ := hq
    obtain rfl := hmembers.unique hmembers'
    have hfilter := hspells.filter
    cases hf : q.filter with
    | none =>
      rw [hf] at hfilter
      cases Json.optional_none_iff.1 hfilter _ hv
    | some f =>
      rw [hf] at hfilter
      obtain ⟨v', hv', -, hread⟩ := Json.optional_some_iff.1 hfilter
      obtain rfl := Option.some.inj (hv.symm.trans hv')
      refine ⟨f, rfl, ?_⟩
      rw [grammar.unknownFields hread, List.mem_filter]
      exact ⟨hname, decide_eq_true hunknown⟩
  · rintro ⟨f, hf, hname⟩
    obtain ⟨members, filter, hmembers, hv, hread⟩ := hq.exists_filter grammar hf
    rw [grammar.unknownFields hread, List.mem_filter] at hname
    exact ⟨members, filter, hmembers, hv, hname.1, of_decide_eq_true hname.2⟩

/-- The unknown fields of a request are in the order of their bytes. -/
theorem IsAskedBy.pairwise_bytes (hq : q.IsAskedBy (Queryable.readFilter R) body) {f : F} (hf : f ∈ q.filter) :
    (Queryable.unknownFields R f).Pairwise (fun a b => Text.bytes a < Text.bytes b) := by
  obtain ⟨members, filter, hmembers, hv, hread⟩ := hq.exists_filter grammar hf
  have hordered := hmembers.isOrdered
  have hvalue : (Json.object filter).IsOrdered := hordered.of_member? hv
  rw [grammar.unknownFields hread]
  exact hvalue.pairwise_bytes.filter _

/-- The first unknown field of a request is the one with the least bytes. -/
theorem IsAskedBy.namesFirstUnknown (hq : q.IsAskedBy (Queryable.readFilter R) body) {f : F} (hf : f ∈ q.filter)
    {name : String} (hname : name ∈ (Queryable.unknownFields R f).head?) : NamesFirstUnknown known body name := by
  have hpairwise := hq.pairwise_bytes grammar hf
  obtain ⟨rest, hrest⟩ := List.head?_eq_some_iff.1 hname
  rw [hrest] at hpairwise
  refine ⟨(hq.namesUnknown_iff grammar).2 ⟨f, hf, hrest ▸ List.mem_cons_self⟩, fun other hother hne => ?_⟩
  obtain ⟨f', hf', hmem⟩ := (hq.namesUnknown_iff grammar).1 hother
  obtain rfl := Option.some.inj (hf.symm.trans hf')
  rw [hrest] at hmem
  exact (List.pairwise_cons.1 hpairwise).1 other (List.mem_of_ne_of_mem hne hmem)

end

end Request

/-! ## What answers are -/

namespace Engine

variable {R F K : Type} [Queryable R F K]

/-- The answer is the page that a request is executed to. -/
def Succeeds (e : Engine R) (duration : UInt64) (body : List UInt8) (q : Request F) : Prop :=
  ∃ page, e.execute q .never = .ok page ∧ e.answer duration body = .ok (page.toJson duration).ordered

/-- The answer is a refusal. -/
def Refuses (e : Engine R) (duration : UInt64) (body : List UInt8) (code : String) : Prop :=
  ∃ message, e.answer duration body = .ok (refusal code message)

/-- How a body is answered from records whose filters are `isFilter` and know the names `known`. -/
structure AnswersBody (e : Engine R) (isFilter : Json → Prop) (known : List String) (duration : UInt64)
    (body : List UInt8) : Prop where
  /-- The first check that applies decides. -/
  decided : FirstOf (∃ q, q.IsAskedBy (Queryable.readFilter R) body ∧ e.Succeeds duration body q) [
    (body.all Request.isBlankByte, e.Succeeds duration body .empty),
    (∃ fault, Json.read (Symbol.ofBytes body) = .error fault, ∃ fault, Json.read (Symbol.ofBytes body) = .error fault ∧
      e.answer duration body = .error fault ∧ (CommandError.body fault).code = "CATALOG_CLI_IO_ERROR"),
    (Json.read (Symbol.ofBytes body) = .ok .null, e.Succeeds duration body .empty),
    (¬∃ members, Request.Holds body members, e.Refuses duration body "CATALOG_INVALID_REQUEST"),
    (Request.HasWrongParts body, e.Refuses duration body "CATALOG_INVALID_REQUEST"),
    (Request.HasWrongFilter isFilter body, e.Refuses duration body "CATALOG_INVALID_FILTER"),
    (e.policy = .strict ∧ ∃ q, Request.IsAskedBy (Queryable.readFilter R) body q ∧ (q.offset < 0 ∨ q.limit < 0),
      e.Refuses duration body "CATALOG_INVALID_PAGINATION"),
    (e.policy = .strict ∧ ∃ q, Request.IsAskedBy (Queryable.readFilter R) body q ∧ ∃ s ∈ q.sort, ¬IsAddressable R s.field,
      e.Refuses duration body "CATALOG_UNKNOWN_SORT_FIELD"),
    (e.policy = .strict ∧ ∃ name, Request.NamesUnknown known body name,
      ∃ name, Request.NamesFirstUnknown known body name ∧ e.answer duration body = .ok (refusal
        "CATALOG_UNKNOWN_FILTER_FIELD" s!"Unknown filter field '{name}' for {(Queryable.collection R).name}"))]
  /-- Only what is no JSON has no answer. -/
  failed : ∀ fault, e.answer duration body = .error fault → Json.read (Symbol.ofBytes body) = .error fault
  /-- No query is cancelled. -/
  refused : ∀ code, e.Refuses duration body code → code ∈ ["CATALOG_INVALID_REQUEST", "CATALOG_INVALID_FILTER",
    "CATALOG_INVALID_PAGINATION", "CATALOG_UNKNOWN_SORT_FIELD", "CATALOG_UNKNOWN_FILTER_FIELD"]
  /-- Leniently only the wrong shape is refused. -/
  lenient : e.policy = .lenient → ∀ code, e.Refuses duration body code →
    code ∈ ["CATALOG_INVALID_REQUEST", "CATALOG_INVALID_FILTER"]

/-! ## From bodies to answers -/

section

variable (e : Engine R) (duration : UInt64) {body : List UInt8} {q : Request F}

theorem succeeds_of_execute (hbody : Request.ofBody (Queryable.readFilter R) body = .ok q)
    (h : ∃ page, e.execute q .never = .ok page) : e.Succeeds duration body q := by
  obtain ⟨page, h⟩ := h
  exact ⟨page, h, by rw [answer, hbody]; dsimp only; rw [h]⟩

theorem answer_of_refusal (hbody : Request.ofBody (Queryable.readFilter R) body = .ok q) {r : Refusal}
    (h : e.execute q .never = .error r) : e.answer duration body = .ok (refusal r.code r.message) := by
  rw [answer, hbody]
  dsimp only
  rw [h]

theorem answer_of_invalid {fault : QueryError}
    (hbody : Request.ofBody (Queryable.readFilter R) body = .error (.invalid fault)) :
    e.answer duration body = .ok (refusal fault.code fault.message) := by
  rw [answer, hbody]

/-- A request is answered with a page if it passes all checks, or leniently. -/
theorem exists_execute (h : e.policy = .strict → IsAcceptable R q) : ∃ page, e.execute q .never = .ok page := by
  obtain ⟨records, policy⟩ := e
  cases policy with
  | lenient => exact exists_execute_lenient records q
  | strict =>
    obtain ⟨found, -, h⟩ := execute_of_isAcceptable .strict records (h rfl)
    exact ⟨_, h⟩

variable (R) in
/-- The empty request passes all checks. -/
theorem isAcceptable_empty : IsAcceptable R (.empty : Request F) where
  offset := Int.le_refl 0
  limit := (by decide : (0 : Int) ≤ 25)
  sort _ h := by cases h
  filter _ h := by cases h

/-- A page is no refusal: it has no code. -/
theorem ordered_ne_refusal (page : Page R) (code message : String) :
    (page.toJson duration).ordered ≠ refusal code message := by
  intro h
  have hmembers := Json.object.inj h
  have hcode := (Json.foldl_insertMember _ [] .nil).2 ("code", .string code)
    (show _ ∈ Json.orderMembers _ from hmembers ▸ List.mem_cons_self)
  simp [Json.orderedMembers] at hcode

/-- What is refused is of the wrong shape or, strictly, asks for what is not there. -/
theorem code_of_execute_error {r : Refusal} (h : e.execute q .never = .error r) : e.policy = .strict ∧
    r.code ∈ ["CATALOG_INVALID_PAGINATION", "CATALOG_UNKNOWN_SORT_FIELD", "CATALOG_UNKNOWN_FILTER_FIELD"] := by
  obtain ⟨records, policy⟩ := e
  cases policy with
  | lenient =>
    obtain ⟨page, hpage⟩ := exists_execute_lenient records q
    cases hpage.symm.trans h
  | strict =>
    obtain ⟨hpagination, hsort, hfilter⟩ := (answersStrictly_of_queryable records q).refusal r h
    refine ⟨rfl, ?_⟩
    by_cases hneg : q.offset < 0 ∨ q.limit < 0
    · rw [hpagination hneg]; decide
    · by_cases hs : ∃ s ∈ q.sort, ¬IsAddressable R s.field
      · rw [hsort (by omega) (by omega) hs]; decide
      · have hall : ∀ s ∈ q.sort, IsAddressable R s.field := fun s hmem =>
          Classical.byContradiction fun hno => hs ⟨s, hmem, hno⟩
        rw [hfilter (by omega) (by omega) hall]; decide

theorem code_of_refuses {code : String} (h : e.Refuses duration body code) :
    code ∈ ["CATALOG_INVALID_REQUEST", "CATALOG_INVALID_FILTER"] ∨ e.policy = .strict ∧
      code ∈ ["CATALOG_INVALID_PAGINATION", "CATALOG_UNKNOWN_SORT_FIELD", "CATALOG_UNKNOWN_FILTER_FIELD"] := by
  obtain ⟨message, h⟩ := h
  have hcode : ∀ {code' message' : String}, e.answer duration body = .ok (refusal code' message') → code = code' :=
    fun h' => by cases Except.ok.inj (h.symm.trans h'); rfl
  cases hbody : Request.ofBody (Queryable.readFilter R) body with
  | error fault =>
    cases fault with
    | malformed fault => rw [answer, hbody] at h; cases h
    | invalid fault =>
      rw [hcode (e.answer_of_invalid duration hbody)]
      cases fault with
      | request _ => exact .inl List.mem_cons_self
      | filter _ => exact .inl (List.mem_cons_of_mem _ List.mem_cons_self)
  | ok q =>
    cases hexec : e.execute q .never with
    | ok page =>
      obtain ⟨page, -, hpage⟩ := e.succeeds_of_execute duration hbody ⟨page, hexec⟩
      exact absurd (Except.ok.inj (hpage.symm.trans h)) (ordered_ne_refusal duration page code message)
    | error r =>
      rw [hcode (e.answer_of_refusal duration hbody hexec)]
      exact .inr (e.code_of_execute_error hexec)

/-- Only what is no JSON has no answer. -/
theorem read_of_answer_error {fault : Json.SyntaxError} (h : e.answer duration body = .error fault) :
    Json.read (Symbol.ofBytes body) = .error fault := by
  by_cases hblank : body.all Request.isBlankByte
  · obtain ⟨page, -, hpage⟩ :=
      e.succeeds_of_execute duration (Request.ofBody_of_blank hblank) (e.exists_execute fun _ => isAcceptable_empty R)
    cases hpage.symm.trans h
  cases hread : Json.read (Symbol.ofBytes body) with
  | error fault' =>
    rw [answer, Request.ofBody, if_neg hblank, hread] at h
    rw [Except.error.inj h]
  | ok v =>
    cases hbody : Request.read (Queryable.readFilter R) v with
    | error fault' =>
      have hinvalid := e.answer_of_invalid duration (show Request.ofBody _ body = .error (.invalid fault') by
        rw [Request.ofBody_of_read hblank hread, hbody]; rfl)
      cases hinvalid.symm.trans h
    | ok q =>
      have hok : Request.ofBody (Queryable.readFilter R) body = .ok q := by
        rw [Request.ofBody_of_read hblank hread, hbody]; rfl
      rw [answer, hok] at h
      dsimp only at h
      split at h <;> cases h

section

variable (hpolicy : e.policy = .strict) (hbody : Request.ofBody (Queryable.readFilter R) body = .ok q)

include hpolicy hbody

theorem refuses_of_neg (h : q.offset < 0 ∨ q.limit < 0) : e.Refuses duration body "CATALOG_INVALID_PAGINATION" := by
  obtain ⟨records, policy⟩ := e
  subst hpolicy
  exact ⟨_, answer_of_refusal _ duration hbody (execute_strict_of_neg records h)⟩

theorem refuses_of_not_addressable (hneg : ¬(q.offset < 0 ∨ q.limit < 0)) (h : ∃ s ∈ q.sort, ¬IsAddressable R s.field) :
    e.Refuses duration body "CATALOG_UNKNOWN_SORT_FIELD" := by
  obtain ⟨records, policy⟩ := e
  subst hpolicy
  obtain ⟨s, -, hexec⟩ := execute_strict_of_not_addressable records (by omega) (by omega) h
  exact ⟨_, answer_of_refusal _ duration hbody hexec⟩

theorem answer_of_unknown (hneg : ¬(q.offset < 0 ∨ q.limit < 0)) (hs : ∀ s ∈ q.sort, IsAddressable R s.field)
    (h : ∃ f ∈ q.filter, Queryable.unknownFields R f ≠ []) :
    ∃ f ∈ q.filter, ∃ name ∈ (Queryable.unknownFields R f).head?, e.answer duration body = .ok (refusal
      "CATALOG_UNKNOWN_FILTER_FIELD" s!"Unknown filter field '{name}' for {(Queryable.collection R).name}") := by
  obtain ⟨records, policy⟩ := e
  subst hpolicy
  obtain ⟨f, hf, name, hname, hexec⟩ := execute_strict_of_unknown records (by omega) (by omega) hs h
  exact ⟨f, hf, name, hname, answer_of_refusal _ duration hbody hexec⟩

end

end

/-! ## The checks in their order -/

section

variable {isFilter : Json → Prop} {known : List String} (grammar : FilterGrammar R isFilter known) (e : Engine R)
  (duration : UInt64) (body : List UInt8)

include grammar

/-- **How a body is answered**, from records whose filters have a grammar. -/
theorem answersBody_of_grammar : AnswersBody e isFilter known duration body where
  decided := by
    have hempty := e.exists_execute (q := .empty) fun _ => isAcceptable_empty R
    refine .cons (fun hblank => ?_) fun hblank => .cons (fun hmalformed => ?_) fun hmalformed => ?_
    · exact e.succeeds_of_execute duration (Request.ofBody_of_blank hblank) hempty
    · obtain ⟨fault, h⟩ := hmalformed
      exact ⟨fault, h, by rw [answer, Request.ofBody, if_neg hblank, h], rfl⟩
    obtain ⟨v, hv⟩ : ∃ v, Json.read (Symbol.ofBytes body) = .ok v := by
      cases h : Json.read (Symbol.ofBytes body) with
      | error fault => exact absurd ⟨fault, h⟩ hmalformed
      | ok v => exact ⟨v, rfl⟩
    refine .cons (fun hnull => ?_) fun hnull => .cons (fun hobject => ?_) fun hobject => ?_
    · exact e.succeeds_of_execute duration (Request.ofBody_of_read hblank hnull) hempty
    · exact ⟨_, e.answer_of_invalid duration (Request.ofBody_of_not_object hblank hv
        (fun h => hnull (hv.trans (congrArg _ h))) fun members h => hobject ⟨members, hv.trans (congrArg _ h)⟩)⟩
    obtain ⟨members, hmembers⟩ := Classical.not_not.1 hobject
    refine .cons (fun hparts => ?_) fun hparts => .cons (fun hfilter => ?_) fun hfilter => ?_
    · obtain ⟨fault, h⟩ := Request.exists_ofBody_of_hasWrongParts hblank hparts
      exact ⟨_, e.answer_of_invalid duration h⟩
    · obtain ⟨fault, h⟩ := Request.exists_ofBody_of_hasWrongFilter grammar hblank hparts hfilter
      exact ⟨_, e.answer_of_invalid duration h⟩
    -- The body asks for one request, and the checks that are left are about it.
    obtain ⟨q, hq⟩ := Request.exists_isAskedBy grammar hmembers hparts hfilter
    have hbody := hq.ofBody_eq hblank
    refine .cons (fun ⟨hpolicy, q', hq', hneg⟩ => ?_) fun hneg => .cons (fun ⟨hpolicy, q', hq', hsort⟩ => ?_) fun hsort => ?_
    · obtain rfl := hq.unique hq'
      exact e.refuses_of_neg duration hpolicy hbody hneg
    · obtain rfl := hq.unique hq'
      exact e.refuses_of_not_addressable duration hpolicy hbody (fun h => hneg ⟨hpolicy, q, hq, h⟩) hsort
    have hbounds : e.policy = .strict → ¬(q.offset < 0 ∨ q.limit < 0) := fun hpolicy h => hneg ⟨hpolicy, q, hq, h⟩
    have haddressable : e.policy = .strict → ∀ s ∈ q.sort, IsAddressable R s.field := fun hpolicy s hs =>
      Classical.byContradiction fun h => hsort ⟨hpolicy, q, hq, s, hs, h⟩
    refine .cons (fun ⟨hpolicy, name, hname⟩ => ?_) fun hunknown => ?_
    · obtain ⟨f, hf, hmem⟩ := (hq.namesUnknown_iff grammar).1 hname
      obtain ⟨f', hf', first, hfirst, hanswer⟩ := e.answer_of_unknown duration hpolicy hbody (hbounds hpolicy)
        (haddressable hpolicy) ⟨f, hf, List.ne_nil_of_mem hmem⟩
      exact ⟨first, hq.namesFirstUnknown grammar hf' hfirst, hanswer⟩
    · refine ⟨q, hq, e.succeeds_of_execute duration hbody (e.exists_execute fun hpolicy => ?_)⟩
      have hnonneg := hbounds hpolicy
      refine ⟨by omega, by omega, haddressable hpolicy, fun f hf => List.eq_nil_iff_forall_not_mem.2 fun name hmem => ?_⟩
      exact hunknown ⟨hpolicy, name, (hq.namesUnknown_iff grammar).2 ⟨f, hf, hmem⟩⟩
  failed fault := e.read_of_answer_error duration
  refused code h := by
    rcases e.code_of_refuses duration h with h | ⟨-, h⟩
    · exact List.mem_append_left _ h
    · exact List.mem_append_right ["CATALOG_INVALID_REQUEST", "CATALOG_INVALID_FILTER"] h
  lenient hpolicy code h := by
    rcases e.code_of_refuses duration h with h | ⟨hstrict, -⟩
    · exact h
    · cases hpolicy.symm.trans hstrict

end

/-- **The first check that applies decides how a body is answered**, from products and from definitions alike. -/
theorem answer_decided (duration : UInt64) (body : List UInt8) :
    (∀ e : Engine Product, AnswersBody e ProductFilter.IsFilter ProductFilter.knownNames duration body) ∧
    ∀ e : Engine Definition, AnswersBody e DefinitionFilter.IsFilter DefinitionFilter.knownNames duration body :=
  ⟨fun e => answersBody_of_grammar ProductFilter.grammar e duration body,
    fun e => answersBody_of_grammar DefinitionFilter.grammar e duration body⟩

/-- A blank body is answered with all that there is, and where the sort and the filter of a body both have the wrong shape
the sort decides. -/
theorem answer_decided_crossed :
    let e : Engine Product := ⟨[⟨"p1", "s1", 0, 0, []⟩], .strict⟩
    let blank := Text.bytes " \n"
    let body := Text.bytes "\x7b\"filter\":true,\"sort\":true\x7d"
    (∃ answer, e.answer 7 blank = .ok answer ∧ answer.text = "\x7b\"data\":[\x7b\"attributes\":[],\"createdAt\":0," ++
        "\"id\":\"p1\",\"skuId\":\"s1\",\"updatedAt\":0\x7d],\"debugInfo\":\x7b\"duration\":7\x7d," ++
        "\"pagination\":\x7b\"hasMore\":false,\"limit\":25,\"offset\":0\x7d,\"total\":1\x7d") ∧
      Request.HasWrongFilter ProductFilter.IsFilter body ∧ e.Refuses 7 body "CATALOG_INVALID_REQUEST" := by
  intro e blank body
  obtain ⟨hblank, -⟩ := ((answer_decided 7 blank).1 e).decided
  obtain ⟨page, hpage, hanswer⟩ := hblank (by decide +kernel)
  have hexec : e.execute .empty .never = .ok ⟨e.records, 1, ⟨0, 25⟩⟩ := rfl
  obtain rfl := Except.ok.inj (hexec.symm.trans hpage)
  have hread : Request.Holds body [("filter", .bool true), ("sort", .bool true)] := by
    have htext : Symbol.ofBytes body = Symbol.ofText "\x7b\"filter\":true,\"sort\":true\x7d" := by decide +kernel
    rw [Request.Holds, htext]
    with_unfolding_all rfl
  have hfilter : ¬ProductFilter.IsFilter (.bool true) := fun h => by cases h.object with | intro _ h => cases h
  have hsort : ¬∃ s, Json.Optional Sorting.Spells (some (.bool true)) s := by
    intro h
    obtain ⟨s, _, hlists, -⟩ := Json.exists_optional_iff.1 h (.bool true) rfl (fun h => by cases h)
    cases hlists
  obtain ⟨-, hdecided⟩ := ((answer_decided 7 body).1 e).decided
  obtain ⟨-, hdecided⟩ := hdecided (by decide +kernel)
  obtain ⟨-, hdecided⟩ := hdecided fun ⟨fault, h⟩ => by cases hread.symm.trans h
  obtain ⟨-, hdecided⟩ := hdecided fun h => by cases hread.symm.trans h
  obtain ⟨hrefuses, -⟩ := hdecided fun h => h ⟨_, hread⟩
  refine ⟨⟨_, hanswer, ?_⟩, ⟨_, .bool true, hread, rfl, (fun h => by cases h), hfilter⟩, hrefuses ⟨_, hread, .inl hsort⟩⟩
  decide +kernel

-- Two names are unknown, and the one with the least bytes is refused.
example : ((⟨[], .strict⟩ : Engine Product).answer 0
    (Text.bytes "\x7b\"filter\":\x7b\"size\":0,\"color\":0\x7d,\"sort\":[\"id\",\"ASC\"]\x7d")).toOption.map Json.text =
      some ("\x7b\"code\":\"CATALOG_UNKNOWN_FILTER_FIELD\"," ++
        "\"message\":\"Unknown filter field 'color' for products\",\"status\":\"error\"\x7d") := by
  decide +kernel

end Engine
end ProductQuery
