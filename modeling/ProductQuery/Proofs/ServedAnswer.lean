import ProductQuery.Proofs.AnsweredBody
import ProductQuery.Proofs.Cancelling
import ProductQuery.Proofs.DelayBounds
import ProductQuery.Proofs.WrittenText
import ProductQuery.Service.Router
/-!
# Proofs.ServedAnswer — the route of a collection answers as the command does

A body that is sent to the route of a collection is answered as the command answers it: with the same page but for the
time it took, or with the same refusal in another shape.  A body that is no JSON fails on both sides, and the response to
it tells nothing about the body (`Service.agrees_with_answer`).  The same three endings are what is counted and logged
(`Engine.ends`).

Only what would be answered with a page draws a delay (`Service.wait?_eq_none_iff`).  Settings may be accepted that leave
no delay to draw, and then such a body gets no response at all, though the command answers it
(`Service.page_without_response`).
-/
namespace ProductQuery

/-- Values that are equal but for what stands at a path. -/
inductive Json.EqualBut : List String → Json → Json → Prop
  | here (v w : Json) : EqualBut [] v w
  | member {path : List String} {key : String} {v w : Json} (before after : List (String × Json))
      (h : EqualBut path v w) :
      EqualBut (key :: path) (.object (before ++ (key, v) :: after)) (.object (before ++ (key, w) :: after))

def errorBody (code message : String) : Json := .object [("error", .string message), ("code", .string code)]

/-- The answer of the command to a request that is refused. -/
def errorAnswer (code message : String) : Json :=
  .object [("code", .string code), ("message", .string message), ("status", .string "error")]

/-- The command answers with a page, and neither fails nor refuses. -/
def AnswersWithPage (answer : Except Json.SyntaxError Json) : Prop :=
  ∃ w, answer = .ok w ∧ ∀ code message, w ≠ errorAnswer code message

def failureBody (c : Collection) : Json := .object [("error", .string s!"Failed to process {c.name} query")]

/-- A response tells the same as an answer does. -/
structure Response.Agrees (r : Response) (c : Collection) (answer : Except Json.SyntaxError Json) : Prop where
  succeeds : r.status = 200 ↔ AnswersWithPage answer
  page : ∀ w, answer = .ok w → (∀ code message, w ≠ errorAnswer code message) →
    ∃ v : Json, r.body = v.text ∧ v.ordered.EqualBut ["debugInfo", "duration"] w
  refuses : ∀ code message,
    r.status = 400 ∧ r.body = (errorBody code message).text ↔ answer = .ok (errorAnswer code message)
  fails : r.status = 500 ↔ ∃ fault, answer = .error fault
  undisclosed : r.status = 500 → r.body = (failureBody c).text

namespace Engine

variable {R F K : Type} [Queryable R F K] (e : Engine R) (t : Timing) (duration : UInt64) (body : List UInt8)

/-- How a query that is sent to a service ends, and how the command answers it. -/
inductive Ends : Outcome R → Except Json.SyntaxError Json → Prop
  | page (p : Page R) : Ends (.ok p) (.ok (p.toJson duration).ordered)
  | rejected (fault : ServiceError) (code : String) (hstatus : fault.status = 400) (hcode : fault.code? = some code)
      (hending : fault.ending = .rejected) : Ends (.error fault) (.ok (errorAnswer code fault.message))
  | failed (fault : Json.SyntaxError) :
      Ends (.error (.internal (Queryable.collection R) fault.message)) (.error fault)

theorem execute_never_ne_cancelled {e : Engine R} {q : Request F} : e.execute q .never ≠ .error .cancelled := by
  intro h
  obtain ⟨-, hcode⟩ := e.code_of_execute_error h
  exact absurd hcode (by decide)

/-- **Every body ends in one of three ways, and the command answers it accordingly.** -/
theorem ends : Ends duration (Outcome.ofBody e t body) (e.answer duration body) := by
  unfold Outcome.ofBody answer
  cases Request.ofBody (Queryable.readFilter R) body with
  | error fault =>
    cases fault with
    | malformed fault => exact .failed fault
    | invalid fault => exact .rejected (.query fault) fault.code rfl rfl rfl
  | ok q =>
    dsimp only
    rw [query_never]
    cases hexec : e.execute q .never with
    | ok p => exact .page p
    | error r =>
      cases r with
      | cancelled => exact absurd hexec execute_never_ne_cancelled
      | _ => exact .rejected (.refused _) _ rfl rfl rfl

end Engine

/-! ## Texts -/

theorem errorBody_text_injective {code code' message message' : String}
    (h : (errorBody code message).text = (errorBody code' message').text) : code = code' ∧ message = message' := by
  have hfields := Json.text_stringMembers_injective
    (show (Json.object (Json.stringMembers [("error", message), ("code", code)])).text =
      (Json.object (Json.stringMembers [("error", message'), ("code", code')])).text from h)
  simp only [List.cons.injEq, Prod.mk.injEq, true_and, and_true] at hfields
  exact hfields.symm

theorem errorAnswer_injective {code code' message message' : String}
    (h : errorAnswer code message = errorAnswer code' message') : code = code' ∧ message = message' := by
  simpa [errorAnswer] using h

theorem Page.ordered_toJson {R F K : Type} [Queryable R F K] (p : Page R) (duration : UInt64) :
    (p.toJson duration).ordered = .object ([("data", (Json.array (p.data.map Queryable.toJson)).ordered)] ++
      ("debugInfo", .object ([] ++ ("duration", .number (.ofUInt64 duration)) :: [])) ::
      [("pagination", (Json.object [("offset", .number (.ofUInt64 p.window.offset)),
        ("limit", .number (.ofUInt64 p.window.limit)), ("hasMore", .bool p.hasMore)]).ordered),
        ("total", .number (.ofNat p.total))]) := by
  have htotal : compare "total" "data" = .gt := by decide +kernel
  have hpagination : compare "pagination" "data" = .gt := by decide +kernel
  have hlast : compare "pagination" "total" = .lt := by decide +kernel
  have hdebug : compare "debugInfo" "data" = .gt := by decide +kernel
  have hsecond : compare "debugInfo" "pagination" = .lt := by decide +kernel
  simp [toJson, Json.ordered, Json.orderedMembers, Json.orderMembers, Json.insertMember, htotal, hpagination, hlast,
    hdebug, hsecond]

theorem Page.ordered_toJson_equalBut {R F K : Type} [Queryable R F K] (p : Page R) (duration duration' : UInt64) :
    (p.toJson duration).ordered.EqualBut ["debugInfo", "duration"] (p.toJson duration').ordered := by
  rw [p.ordered_toJson, p.ordered_toJson]
  exact .member _ _ (.member _ _ (.here _ _))

/-! ## Responses -/

namespace Engine.Ends

variable {R F K : Type} [Queryable R F K] {duration : UInt64} {o : Outcome R} {answer : Except Json.SyntaxError Json}

theorem succeeds_iff (h : Ends duration o answer) : AnswersWithPage answer ↔ ∃ p, o = .ok p := by
  cases h with
  | page p => exact iff_of_true ⟨_, rfl, ordered_ne_refusal duration p⟩ ⟨p, rfl⟩
  | rejected fault code hstatus hcode hending =>
    refine iff_of_false ?_ (fun ⟨_, h⟩ => by cases h)
    rintro ⟨w, hw, hne⟩
    exact hne code fault.message (Except.ok.inj hw).symm
  | failed fault => exact iff_of_false (fun ⟨_, h, _⟩ => by cases h) (fun ⟨_, h⟩ => by cases h)

theorem agrees (h : Ends duration o answer) (t : Timing) : (o.response t).Agrees (Queryable.collection R) answer := by
  have hsucceeds := h.succeeds_iff
  cases h with
  | page p =>
    have hpage : ∀ code message, (p.toJson duration).ordered ≠ errorAnswer code message := ordered_ne_refusal duration p
    constructor
    case succeeds => exact iff_of_true rfl (hsucceeds.2 ⟨p, rfl⟩)
    case page =>
      intro w hw _
      obtain rfl := Except.ok.inj hw
      exact ⟨p.toJson t.duration, rfl, p.ordered_toJson_equalBut t.duration duration⟩
    case refuses => exact fun _ _ => iff_of_false (fun h => by cases h.1) (fun h => hpage _ _ (Except.ok.inj h))
    case fails => exact iff_of_false (fun h => by cases h) (fun ⟨_, h⟩ => by cases h)
    case undisclosed => exact fun h => by cases h
  | rejected fault code hstatus hcode hending =>
    have hresponse : Outcome.response t (.error fault : Outcome R) = .json 400 (errorBody code fault.message) := by
      rw [Outcome.response, Outcome.status, Outcome.toJson, hstatus, ServiceError.toJson, hcode]
      rfl
    have hnotOk : (Response.json 400 (errorBody code fault.message)).status ≠ 200 := by
      show 400 ≠ 200
      decide
    rw [hresponse]
    constructor
    case succeeds =>
      rw [hsucceeds]
      exact iff_of_false hnotOk (fun ⟨_, h⟩ => by cases h)
    case page => exact fun w hw hne => absurd (Except.ok.inj hw).symm (hne code fault.message)
    case refuses =>
      intro code' message
      constructor
      · rintro ⟨-, hbody⟩
        obtain ⟨rfl, rfl⟩ := errorBody_text_injective hbody
        rfl
      · intro h
        obtain ⟨rfl, rfl⟩ := errorAnswer_injective (Except.ok.inj h)
        exact ⟨rfl, rfl⟩
    case fails => exact iff_of_false (fun h => by cases h) (fun ⟨_, h⟩ => by cases h)
    case undisclosed => exact fun h => by cases h
  | failed fault =>
    constructor
    case succeeds => exact iff_of_false (fun h => by cases h) (fun ⟨_, h, _⟩ => by cases h)
    case page => exact fun w hw _ => by cases hw
    case refuses => exact fun _ _ => iff_of_false (fun h => by cases h.1) (fun h => by cases h)
    case fails => exact iff_of_true rfl ⟨fault, rfl⟩
    case undisclosed => exact fun _ => rfl

/-- The response to what is no JSON depends on the collection alone. -/
theorem response_of_error {fault : Json.SyntaxError} (h : Ends duration o (.error fault)) (t : Timing) :
    o.response t = .json 500 (failureBody (Queryable.collection R)) := by
  cases h
  rfl

end Engine.Ends

/-! ## Delays -/

/-- **Only what is answered with a page draws a delay**, and it gets none if there is none to draw. -/
theorem Outcome.wait?_eq_none_iff {R F K : Type} [Queryable R F K] (e : Engine R) (delay : Delay) (draw : Draw)
    (t : Timing) (body : List UInt8) :
    wait? e delay draw body = none ↔ ¬delay.CanBeDrawn ∧ ∃ p, ofBody e t body = .ok p := by
  unfold wait? ofBody
  cases Request.ofBody (Queryable.readFilter R) body with
  | error fault =>
    refine iff_of_false (fun h => by cases h) ?_
    rintro ⟨-, _, h⟩
    cases fault <;> cases h
  | ok q =>
    dsimp only
    rw [Engine.query_never, Engine.wait?, Engine.prepare, Engine.execute]
    cases Engine.plan R e.policy q with
    | error r =>
      refine iff_of_false (fun h => by cases h) ?_
      rintro ⟨-, _, h⟩
      cases h
    | ok p =>
      obtain ⟨found, -, hrun⟩ := Engine.run_never e q p
      have hpage : ∃ page, (e.run q p .never).mapError ServiceError.refused = .ok page := by rw [hrun]; exact ⟨_, rfl⟩
      show (delay.next? draw).map _ = none ↔ _ ∧ ∃ page, (e.run q p .never).mapError ServiceError.refused = .ok page
      rw [and_iff_left hpage, ← delay.isSome_next?_iff draw, Option.map_eq_none_iff, Option.not_isSome_iff_eq_none]

namespace Service

variable (s : Service) (t : Timing) (k : Counters) (chance : Chance) {r : HttpRequest} {c : Collection}
  {body : List UInt8}

theorem handleQuery_of_le {R F K : Type} [Queryable R F K] (e : Engine R) (h : body.length ≤ Response.bodyLimit) :
    handleQuery e t k body = ⟨(Outcome.ofBody e t body).response t, k.count (Outcome.ofBody e t body).ending,
      [(Outcome.ofBody e t body).entry t]⟩ := if_neg (by omega)

/-- **What holds of every ending holds of both routes.** -/
theorem serve_induction {motive : Collection → (Counters → Handled) → Except Json.SyntaxError Json → Prop}
    (duration : UInt64) (hlength : body.length ≤ Response.bodyLimit)
    (h : ∀ {R F K : Type} [Queryable R F K] {o : Outcome R} {answer}, Engine.Ends duration o answer →
      motive (Queryable.collection R) (fun k => ⟨o.response t, k.count o.ending, [o.entry t]⟩) answer) (c : Collection) :
    motive c (fun k => s.serve t k body (.query c)) (answerFrom s.products s.attributes c duration body) := by
  cases c with
  | products =>
    have hserve := funext fun k => handleQuery_of_le t k s.products hlength
    simp only [serve, hserve]
    exact h (s.products.ends t duration body)
  | attributes =>
    have hserve := funext fun k => handleQuery_of_le t k s.attributes hlength
    simp only [serve, hserve]
    exact h (s.attributes.ends t duration body)

theorem serve_agrees (duration : UInt64) (hlength : body.length ≤ Response.bodyLimit) (c : Collection) :
    (s.serve t k body (.query c)).response.Agrees c (answerFrom s.products s.attributes c duration body) :=
  s.serve_induction (motive := fun c served answer => (served k).response.Agrees c answer) t duration hlength
    (fun h => h.agrees t) c

theorem serve_of_error {duration : UInt64} (hlength : body.length ≤ Response.bodyLimit) :
    (∃ fault, answerFrom s.products s.attributes c duration body = .error fault) →
      (s.serve t k body (.query c)).response = .json 500 (failureBody c) := by
  refine s.serve_induction (motive := fun c served answer => (∃ fault, answer = .error fault) →
    (served k).response = .json 500 (failureBody c)) t duration hlength (fun h => ?_) c
  rintro ⟨fault, rfl⟩
  exact h.response_of_error t

theorem of_queried (h : r.queried? = some c) :
    r.method = "POST" ∧ r.body.length ≤ Response.bodyLimit ∧ Route.ofTarget? r.target = some (.query c) := by
  unfold HttpRequest.queried? at h
  split at h
  · rename_i hpost
    split at h
    · rename_i htarget
      obtain rfl := Option.some.inj h
      exact ⟨hpost.1, hpost.2, htarget⟩
    · cases h
  · cases h

theorem queried_of_body (h : r.queried? = some c) (hlength : body.length ≤ Response.bodyLimit) :
    { r with body := body : HttpRequest }.queried? = some c := by
  obtain ⟨hmethod, -, htarget⟩ := of_queried h
  rw [HttpRequest.queried?, if_pos ⟨hmethod, hlength⟩, htarget]

theorem handle_of_post (hmethod : r.method = "POST") (htarget : Route.ofTarget? r.target = some (.query c)) :
    s.handle t k r = { s.serve t k r.body (.query c) with
      response := (s.serve t k r.body (.query c)).response.withHeaders (s.corsHeaders r) } := by
  have hdispatch : s.dispatch t k r = s.serve t k r.body (.query c) := by
    unfold dispatch
    rw [hmethod, htarget]
    rfl
  rw [handle, hdispatch]

/-- A query whose delay is over is answered as the command answers it. -/
theorem handle_agrees (duration : UInt64) (h : r.queried? = some c) :
    (s.handle t k r).response.Agrees c (answerFrom s.products s.attributes c duration r.body) := by
  obtain ⟨hmethod, hlength, htarget⟩ := of_queried h
  obtain ⟨hsucceeds, hpage, hrefuses, hfails, hundisclosed⟩ := s.serve_agrees t k duration hlength c
  rw [s.handle_of_post t k hmethod htarget]
  exact ⟨hsucceeds, hpage, hrefuses, hfails, hundisclosed⟩

/-- The response to a body that is no JSON has nothing of the body. -/
theorem handle_of_error {duration : UInt64} (h : r.queried? = some c)
    (hfault : ∃ fault, answerFrom s.products s.attributes c duration r.body = .error fault) :
    (s.handle t k r).response = (Response.json 500 (failureBody c)).withHeaders (s.corsHeaders r) := by
  obtain ⟨hmethod, hlength, htarget⟩ := of_queried h
  rw [s.handle_of_post t k hmethod htarget, s.serve_of_error t k hlength hfault]

/-- **A handler finds no delay to draw** if there is none and the command answers with a page. -/
theorem wait?_eq_none_iff (draw : Draw) (duration : UInt64) (h : r.queried? = some c) : s.wait? draw r = none ↔
    ¬s.delay.CanBeDrawn ∧ AnswersWithPage (answerFrom s.products s.attributes c duration r.body) := by
  rw [wait?, h]
  cases c with
  | products =>
    dsimp only
    rw [Outcome.wait?_eq_none_iff _ _ _ ⟨false, duration⟩, answerFrom, (s.products.ends _ _ _).succeeds_iff]
  | attributes =>
    dsimp only
    rw [Outcome.wait?_eq_none_iff _ _ _ ⟨false, duration⟩, answerFrom, (s.attributes.ends _ _ _).succeeds_iff]

theorem not_canBeDrawn_of_wait? {draw : Draw} {r : HttpRequest} (h : s.wait? draw r = none) : ¬s.delay.CanBeDrawn := by
  cases hquery : r.queried? with
  | some c => exact ((s.wait?_eq_none_iff draw 0 hquery).1 h).1
  | none =>
    rw [wait?, hquery] at h
    cases h

theorem exists_of_handle? {handled : Handled} (h : s.handle? chance k r = some handled) :
    ∃ t, s.handle t k r = handled := by
  obtain ⟨delayed, -, h⟩ := Option.map_eq_some_iff.1 h
  exact ⟨_, h⟩

theorem handle?_eq_none_iff (duration : UInt64) (h : r.queried? = some c) : s.handle? chance k r = none ↔
    ¬s.delay.CanBeDrawn ∧ AnswersWithPage (answerFrom s.products s.attributes c duration r.body) := by
  rw [handle?, Option.map_eq_none_iff]
  exact s.wait?_eq_none_iff chance.draw duration h

theorem handle?_of_error {duration : UInt64} (h : r.queried? = some c)
    (hfault : ∃ fault, answerFrom s.products s.attributes c duration r.body = .error fault) :
    (s.handle? chance k r).map Handled.response =
      some ((Response.json 500 (failureBody c)).withHeaders (s.corsHeaders r)) := by
  cases hhandle : s.handle? chance k r with
  | none =>
    obtain ⟨-, w, hw, -⟩ := (s.handle?_eq_none_iff k chance duration h).1 hhandle
    obtain ⟨fault, hfault⟩ := hfault
    cases hfault.symm.trans hw
  | some handled =>
    obtain ⟨t, rfl⟩ := s.exists_of_handle? k chance hhandle
    rw [Option.map_some, s.handle_of_error t k h hfault]

end Service
end ProductQuery
