import ProductQuery.Proofs.ServedAnswer
/-!
# Proofs.LoggedResponse — what is counted and logged of a response

The status of a response, the counter that counts it and the event that is logged of it are three readings of one
ending, and they agree (`Service.handle_tells`).  What is no query is neither counted nor logged
(`Service.handle_of_not_queried`), and no response tells of a query that was cancelled (`Service.status_handle_ne`).
-/
namespace ProductQuery

/-- Is a request sent to the route of a collection as its queries are? -/
def HttpRequest.isSentToCollection (r : HttpRequest) : Bool :=
  r.method = "POST" ∧ (Route.ofTarget? r.target = some (.query .products) ∨
    Route.ofTarget? r.target = some (.query .attributes))

namespace QueryEnd

def status : QueryEnd → Nat
  | .executed => 200
  | .rejected => 400
  | .cancelled => 503
  | .failed => 500

@[simp]
theorem status_inj {e e' : QueryEnd} : e.status = e'.status ↔ e = e' := by
  cases e <;> cases e' <;> decide

end QueryEnd

/-- What is logged of a query tells how its response ended, and what of it. -/
inductive Log.Entry.Tells (c : Collection) (status : Nat) (body : String) : QueryEnd → Log.Entry → Prop
  | executed {page : Json} {items : List Json} {total : Nat} {duration : UInt64} (hstatus : status = 200)
      (hbody : body = page.text) (hdata : page.Has "data" (.array items))
      (htotal : page.Has "total" (.number (.ofNat total)))
      (hduration : page.Has "debugInfo" (.object [("duration", .number (.ofUInt64 duration))])) :
      Tells c status body .executed ⟨.queryExecuted, [("collection", c.name), ("total", toString total),
        ("returned", toString items.length), ("duration_ms", toString duration.toNat)]⟩
  | rejected {code message : String} (hstatus : status = 400) (hbody : body = (errorBody code message).text) :
      Tells c status body .rejected ⟨.queryRejected, [("collection", c.name), ("code", code), ("message", message)]⟩
  | failed {reason : String} (hstatus : status = 500) (hbody : body = (failureBody c).text) :
      Tells c status body .failed ⟨.requestFailed, [("collection", c.name), ("reason", reason)]⟩

namespace Log.Entry.Tells

variable {c : Collection} {status : Nat} {body : String} {ending : QueryEnd} {entry : Log.Entry}

theorem status_eq (h : Tells c status body ending entry) : status = ending.status := by cases h <;> assumption

theorem ne_cancelled (h : Tells c status body ending entry) : ending ≠ .cancelled := by
  rintro rfl
  cases h

end Log.Entry.Tells

theorem Engine.Ends.tells {R F K : Type} [Queryable R F K] {duration : UInt64} {o : Outcome R}
    {answer : Except Json.SyntaxError Json} (h : Ends duration o answer) (t : Timing) :
    Log.Entry.Tells (Queryable.collection R) (o.response t).status (o.response t).body o.ending (o.entry t) := by
  cases h with
  | page p =>
    have hdata : (p.toJson t.duration).Has "data" (.array (p.data.map Queryable.toJson)) := by
      simp [Page.toJson]
    have htotal : (p.toJson t.duration).Has "total" (.number (.ofNat p.total)) := by simp [Page.toJson]
    have hduration : (p.toJson t.duration).Has "debugInfo"
        (.object [("duration", .number (.ofUInt64 t.duration))]) := by
      simp [Page.toJson]
    have hlength : p.data.length = (p.data.map (Queryable.toJson (R := R))).length := (List.length_map _).symm
    rw [Outcome.entry, hlength]
    exact .executed rfl rfl hdata htotal hduration
  | rejected fault code hstatus hcode hending =>
    have hentry : fault.entry (Queryable.collection R) = ⟨.queryRejected,
        [("collection", (Queryable.collection R).name), ("code", code), ("message", fault.message)]⟩ := by
      cases fault with
      | query e =>
        obtain rfl := Option.some.inj hcode
        rfl
      | refused r =>
        obtain rfl := Option.some.inj hcode
        cases r with
        | cancelled => cases hending
        | _ => rfl
      | internal c reason => cases hcode
    have hbody : (Outcome.response t (.error fault : Outcome R)).body = (errorBody code fault.message).text := by
      rw [Outcome.response, Outcome.toJson, ServiceError.toJson, hcode]
      rfl
    rw [Outcome.ending, Outcome.entry, hending, hentry]
    exact .rejected hstatus hbody
  | failed fault => exact .failed rfl rfl

namespace Service

variable (s : Service) (t : Timing) {r : HttpRequest} {c : Collection}

theorem serve_tells {body : List UInt8} (hlength : body.length ≤ Response.bodyLimit) (c : Collection) :
    ∃ response ending entry, (∀ k, s.serve t k body (.query c) = ⟨response, k.count ending, [entry]⟩) ∧
      Log.Entry.Tells c response.status response.body ending entry := by
  -- The answer of the command has no part in this, and any duration will do.
  refine s.serve_induction (motive := fun c served _ => ∃ response ending entry,
    (∀ k, served k = ⟨response, k.count ending, [entry]⟩) ∧
      Log.Entry.Tells c response.status response.body ending entry) t 0 hlength (fun h => ?_) c
  exact ⟨_, _, _, fun _ => rfl, h.tells t⟩

/-- **A query is counted and logged once, as its response ended**, whatever the counters are. -/
theorem handle_tells (h : r.queried? = some c) : ∃ response ending entry,
    (∀ k, s.handle t k r = ⟨response, k.count ending, [entry]⟩) ∧
      Log.Entry.Tells c response.status response.body ending entry := by
  obtain ⟨hmethod, hlength, htarget⟩ := of_queried h
  obtain ⟨response, ending, entry, hserve, htells⟩ := s.serve_tells t hlength c
  refine ⟨response.withHeaders (s.corsHeaders r), ending, entry, fun k => ?_, htells⟩
  rw [s.handle_of_post t k hmethod htarget, hserve]

theorem method_of_isSentToCollection (h : r.isSentToCollection) :
    r.method = "POST" ∧ ∃ c, Route.ofTarget? r.target = some (.query c) := by
  obtain ⟨hmethod, htarget⟩ := of_decide_eq_true h
  exact ⟨hmethod, htarget.elim (fun h => ⟨_, h⟩) (fun h => ⟨_, h⟩)⟩

theorem isSentToCollection_of_queried (h : r.queried? = some c) : r.isSentToCollection := by
  obtain ⟨hmethod, -, htarget⟩ := of_queried h
  refine decide_eq_true ⟨hmethod, ?_⟩
  cases c with
  | products => exact .inl htarget
  | attributes => exact .inr htarget

/-- **Any other request is neither counted nor logged.**  If it is sent to the route of a collection its body is too
large. -/
theorem handle_of_not_queried (k : Counters) (h : r.queried? = none) :
    (s.handle t k r).counters = k ∧ (s.handle t k r).log = [] ∧
      (s.handle t k r).response.status ∈ if r.isSentToCollection then [413] else [200, 404, 405] := by
  by_cases hquery : r.isSentToCollection
  · obtain ⟨hpost, c, htarget⟩ := method_of_isSentToCollection hquery
    have hlarge : Response.bodyLimit < r.body.length := by
      refine Nat.lt_of_not_le fun hle => ?_
      rw [HttpRequest.queried?, if_pos ⟨hpost, hle⟩, htarget] at h
      cases h
    have hserve : s.serve t k r.body (.query c) = ⟨.bodyTooLarge, k, []⟩ := by
      cases c with
      | products => exact if_pos hlarge
      | attributes => exact if_pos hlarge
    rw [s.handle_of_post t k hpost htarget, hserve, if_pos hquery]
    exact ⟨rfl, rfl, List.mem_singleton.2 rfl⟩
  · have hok : 200 ∈ [200, 404, 405] := by decide
    have hmissing : 404 ∈ [200, 404, 405] := by decide
    have hmethod : 405 ∈ [200, 404, 405] := by decide
    rw [if_neg hquery]
    unfold handle dispatch
    dsimp only
    split
    · exact ⟨rfl, rfl, hok⟩
    split
    · exact ⟨rfl, rfl, hmissing⟩
    · rename_i found htarget
      split
      · rename_i hfound
        unfold forMethod
        cases found with
        | health => split <;> exact ⟨rfl, rfl, hok⟩
        | metrics => split <;> exact ⟨rfl, rfl, hok⟩
        | query c =>
          have hpost : r.method = "POST" := List.mem_singleton.1 (List.contains_iff_mem.1 hfound)
          refine absurd (decide_eq_true ⟨hpost, ?_⟩) hquery
          cases c with
          | products => exact .inl htarget
          | attributes => exact .inr htarget
      · exact ⟨rfl, rfl, hmethod⟩

/-- **No response has the status 503**: queries that are sent to a service are not cancelled. -/
theorem status_handle_ne (k : Counters) (r : HttpRequest) : (s.handle t k r).response.status ≠ 503 := by
  cases hquery : r.queried? with
  | some c =>
    obtain ⟨response, ending, entry, hhandle, htells⟩ := s.handle_tells t hquery
    rw [hhandle, htells.status_eq]
    exact fun hcancelled => htells.ne_cancelled (QueryEnd.status_inj.1 hcancelled)
  | none =>
    obtain ⟨-, -, hstatus⟩ := s.handle_of_not_queried t k hquery
    intro hunavailable
    rw [hunavailable] at hstatus
    split at hstatus <;> simp at hstatus

end Service

end ProductQuery
