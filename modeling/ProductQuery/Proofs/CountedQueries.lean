import ProductQuery.Proofs.ConcurrentRuns
/-!
# Proofs.CountedQueries — what the counters of concurrent handlers tell

As soon as no query is in progress the queries that were counted are those that were answered, so the counters are the
numbers of responses, and they stay so and are what reports tell until another query comes in (`run_accounts`).  They are
all the queries that came in, except those whose clients went away while they waited, and those for which there was no
delay to draw (`queries_uncounted`).
-/
namespace ProductQuery
namespace Concurrency

variable {s : Service} {st : State} {actions : List Action}

/-! ## Quiet moments -/

namespace State

/-- No handler of a query is in progress. -/
def isQuiet (st : State) : Bool := st.handlers.all (fun h => !h.isQuery || h.isOver)

/-- The responses with a status that were sent to requests to the routes of collections. -/
def responses (st : State) (status : Nat) : Nat :=
  st.handlers.countP (fun h => h.call.request.isSentToCollection && h.sent?.map Response.status = some status)

/-- The counters and the log tell of the responses to queries, each of them once. -/
structure Settled (s : Service) (actions : List Action) (st : State) : Prop where
  executed : st.counters.executed = UInt64.ofNat (st.responses 200)
  rejected : st.counters.rejected = UInt64.ofNat (st.responses 400)
  failed : st.counters.failed = UInt64.ofNat (st.responses 500)
  total : st.counters.total = UInt64.ofNat (st.handlers.countP Handler.isAnswered)
  logged : ∃ entry : Handler → Log.Entry, st.log.Perm ((st.handlers.filter Handler.isAnswered).map entry) ∧
    ∀ h ∈ st.handlers, ∀ c, h.call.request.queried? = some c → ∀ r ∈ h.sent?,
      ∃ ending, Log.Entry.Tells c r.status r.body ending (entry h)
  /-- A query that was not answered found no delay to draw, or its client went away while it had to wait. -/
  unanswered : ∀ (i : Nat) (h : Handler), st.handlers[i]? = some h → h.isQuery → h.sent? = none →
    ¬s.delay.CanBeDrawn ∨ h.call.wait? s = some true ∧ .leave i ∈ actions
  /-- If every client stays, and there is a delay to draw, every query is counted that came in. -/
  complete : s.delay.CanBeDrawn → (∀ i, .leave i ∉ actions) →
    st.counters.total = UInt64.ofNat (actions.countP Action.isQuery)

end State

theorem Handler.stage_of_sent? {h : Handler} {r : Response} (hr : h.sent? = some r) : h.stage = .answered r := by
  obtain ⟨c, stage⟩ := h
  cases stage with
  | answered r' =>
    obtain rfl := Option.some.inj hr
    rfl
  | _ => cases hr

theorem Handler.entries_of_not_isLogged {h : Handler} (hlogged : h.isLogged = false) : h.entries s = [] := by
  rw [Handler.entries, hlogged]
  rfl

theorem countP_isQuery_of_calls (hcalls : st.handlers.map Handler.call = actions.filterMap Action.call?) :
    st.handlers.countP Handler.isQuery = actions.countP Action.isQuery := by
  calc st.handlers.countP Handler.isQuery
    _ = (st.handlers.map Handler.call).countP (fun c => c.request.queried?.isSome) := by
      rw [List.countP_map]
      rfl
    _ = actions.countP Action.isQuery := by
      rw [hcalls, List.countP_filterMap]
      refine List.countP_congr fun a _ => ?_
      cases a <;> exact Iff.rfl

theorem isOver_of_isQuiet {h : Handler} (hquiet : st.isQuiet) (hh : h ∈ st.handlers) (hquery : h.isQuery) :
    h.isOver := by
  have hdone := List.all_eq_true.1 hquiet h hh
  rwa [hquery, Bool.not_true, Bool.false_or] at hdone

namespace State.Accounts

variable {h : Handler}

theorem status_ne (hst : st.Accounts s) (hh : h ∈ st.handlers) {r : Response} (hr : h.sent? = some r) :
    r.status ≠ 503 := by
  obtain ⟨k, rfl⟩ := (hst.sound h hh).answered r (Handler.stage_of_sent? hr)
  exact s.status_handle_ne (h.call.timing s) k h.call.request

theorem cancelled (hst : st.Accounts s) : st.counters.cancelled = 0 := by
  have hnone : ∀ h ∈ st.handlers, ¬h.countsFor s .cancelled = true := by
    intro h _ hcounts
    obtain ⟨-, hstatus⟩ := Bool.and_eq_true_iff.1 hcounts
    exact s.status_handle_ne (h.call.timing s) .zero h.call.request (of_decide_eq_true hstatus)
  have hzero := hst.counted .cancelled
  rw [List.countP_eq_zero.2 hnone] at hzero
  exact hzero

theorem sent_eq (hst : st.Accounts s) (hh : h ∈ st.handlers) {c : Collection} (hquery : h.call.request.queried? = some c)
    {r : Response} (hr : h.sent? = some r) : r = (h.handled s).response := by
  obtain ⟨k, rfl⟩ := (hst.sound h hh).answered r (Handler.stage_of_sent? hr)
  obtain ⟨response, ending, entry, hhandle, -⟩ := s.handle_tells (h.call.timing s) hquery
  rw [Handler.handled, hhandle, hhandle]

theorem tells (hst : st.Accounts s) (hh : h ∈ st.handlers) {c : Collection} (hquery : h.call.request.queried? = some c)
    {r : Response} (hr : h.sent? = some r) :
    ∃ entry, h.entries s = [entry] ∧ ∃ ending, Log.Entry.Tells c r.status r.body ending entry := by
  obtain ⟨response, ending, entry, hhandle, htells⟩ := s.handle_tells (h.call.timing s) hquery
  have hresponse : r = response := by rw [hst.sent_eq hh hquery hr, Handler.handled, hhandle]
  have hisQuery : h.isQuery = true := congrArg Option.isSome hquery
  subst hresponse
  refine ⟨entry, ?_, ending, htells⟩
  simp [Handler.entries, Handler.isLogged, Handler.stage_of_sent? hr, hisQuery, Handler.handled, hhandle]

section

variable (hquiet : st.isQuiet) (hh : h ∈ st.handlers)

include hquiet hh

/-- Nothing of a query is counted or logged that was not answered. -/
theorem isCounted_of_isQuiet : h.isCounted = h.isAnswered ∧ h.isLogged = h.isAnswered := by
  rw [Handler.isAnswered]
  cases hquery : h.isQuery with
  | true =>
    have hover := isOver_of_isQuiet hquiet hh hquery
    obtain ⟨c, stage⟩ := h
    cases stage with
    | answered r => exact ⟨hquery, hquery⟩
    | lost => exact ⟨rfl, rfl⟩
    | _ => cases hover
  | false =>
    rw [Handler.isCounted, Handler.isLogged, hquery]
    exact ⟨by split <;> rfl, by split <;> rfl⟩

theorem countsFor_of_isQuiet (hst : st.Accounts s) (e : QueryEnd) : h.countsFor s e =
    (h.call.request.isSentToCollection && decide (h.sent?.map Response.status = some e.status)) := by
  rw [Handler.countsFor, (isCounted_of_isQuiet hquiet hh).1, Handler.isAnswered]
  cases hsent : h.sent? with
  | none => simp
  | some r =>
    cases hquery : h.call.request.queried? with
    | some c =>
      rw [Handler.isQuery, hquery, Service.isSentToCollection_of_queried hquery, ← hst.sent_eq hh hquery hsent]
      simp
    | none =>
      rw [Handler.isQuery, hquery, Option.isSome_none, Bool.false_and, Bool.false_and]
      by_cases hto : h.call.request.isSentToCollection
      · -- The body is too large, and there is no ending for that.
        obtain ⟨k, hk⟩ := (hst.sound h hh).answered r (Handler.stage_of_sent? hsent)
        obtain ⟨-, -, hstatus⟩ := s.handle_of_not_queried (h.call.timing s) k hquery
        rw [← hk, if_pos hto, List.mem_singleton] at hstatus
        rw [Option.map_some, hstatus, hto]
        cases e <;> rfl
      · rw [Bool.eq_false_iff.2 hto, Bool.false_and]

end

theorem get_of_isQuiet (hst : st.Accounts s) (hquiet : st.isQuiet) (e : QueryEnd) :
    st.counters.get e = UInt64.ofNat (st.responses e.status) := by
  rw [hst.counted e, State.responses]
  congr 1
  refine List.countP_congr fun h hh => ?_
  rw [countsFor_of_isQuiet hquiet hh hst e]

theorem total_of_isQuiet (hst : st.Accounts s) (hquiet : st.isQuiet) :
    st.counters.total = UInt64.ofNat (st.handlers.countP Handler.isAnswered) := by
  rw [hst.total]
  congr 1
  exact List.countP_congr fun h hh => by rw [(isCounted_of_isQuiet hquiet hh).1]

theorem log_of_isQuiet (hst : st.Accounts s) (hquiet : st.isQuiet) :
    ∃ entry : Handler → Log.Entry, st.log.Perm ((st.handlers.filter Handler.isAnswered).map entry) ∧
      ∀ h ∈ st.handlers, ∀ c, h.call.request.queried? = some c → ∀ r ∈ h.sent?,
        ∃ ending, Log.Entry.Tells c r.status r.body ending (entry h) := by
  refine ⟨fun h => (h.entries s).headD ⟨.serving, []⟩, ?_, fun h hh c hquery r hr => ?_⟩
  · rw [← flatMap_eq_map_filter (p := Handler.isAnswered) (f := Handler.entries s) ?_ ?_]
    · exact hst.logged
    · intro h hh hanswered
      obtain ⟨hquery, hsent⟩ := Bool.and_eq_true_iff.1 hanswered
      obtain ⟨c, hc⟩ := Option.isSome_iff_exists.1 hquery
      obtain ⟨r, hr⟩ := Option.isSome_iff_exists.1 hsent
      obtain ⟨entry, hentry, -⟩ := hst.tells hh hc hr
      rw [hentry]
      rfl
    · intro h hh hanswered
      exact Handler.entries_of_not_isLogged ((isCounted_of_isQuiet hquiet hh).2.trans hanswered)
  · obtain ⟨entry, hentry, htells⟩ := hst.tells hh hquery hr
    dsimp only
    rw [hentry]
    exact htells

end State.Accounts

/-- **If no query is in progress the counters and the log tell what was sent.** -/
theorem settled_of_isQuiet (s : Service) (hquiet : (run s actions).isQuiet) : (run s actions).Settled s actions := by
  have haccounts := State.Accounts.run s actions
  have hunanswered : ∀ (i : Nat) (h : Handler), (run s actions).handlers[i]? = some h → h.isQuery → h.sent? = none →
      ¬s.delay.CanBeDrawn ∨ h.call.wait? s = some true ∧ .leave i ∈ actions := fun i h hi hquery hnone =>
    State.unanswered_run hi (isOver_of_isQuiet hquiet (List.mem_of_getElem? hi) hquery) hnone
  refine ⟨haccounts.get_of_isQuiet hquiet .executed, haccounts.get_of_isQuiet hquiet .rejected,
    haccounts.get_of_isQuiet hquiet .failed, haccounts.total_of_isQuiet hquiet, haccounts.log_of_isQuiet hquiet,
    hunanswered, fun hdraw hstay => ?_⟩
  rw [haccounts.total_of_isQuiet hquiet, ← countP_isQuery_of_calls (calls_run s actions)]
  congr 1
  refine List.countP_congr fun h hh => ?_
  rw [Handler.isAnswered, Bool.and_eq_true_iff]
  refine and_iff_left_of_imp fun hquery => ?_
  obtain ⟨i, hi⟩ := List.getElem?_of_mem hh
  cases hsent : h.sent? with
  | some r => rfl
  | none =>
    rcases hunanswered i h hi hquery hsent with hnot | ⟨-, hleft⟩
    · exact absurd hdraw hnot
    · exact absurd hleft (hstay i)

/-! ## Reports -/

/-- Does an action bring a query in, or move the handler of one? -/
def State.movesQuery (st : State) : Action → Bool
  | .receive c => c.request.queried?.isSome
  | .advance i => st.handlers[i]?.any Handler.isQuery
  | .leave _ => false

theorem advance_of_not_isQuery (i : Nat) {h : Handler} (hquery : h.isQuery = false) :
    (st.advance s i h).counters = st.counters ∧ (st.advance s i h).log = st.log := by
  have hnone : h.call.request.queried? = none := Option.isNone_iff_eq_none.1 (Option.isSome_eq_false_iff.1 hquery)
  obtain ⟨hcounters, hlog, -⟩ := s.handle_of_not_queried (h.call.timing s) st.counters hnone
  unfold State.advance
  dsimp only
  split
  · exact ⟨hcounters, rfl⟩
  · exact ⟨rfl, by rw [hlog, List.append_nil]⟩
  · exact ⟨rfl, rfl⟩

/-- **Only queries move the counters and the log.** -/
theorem act_of_not_movesQuery {a : Action} (ha : st.movesQuery a = false) :
    (st.act s a).counters = st.counters ∧ (st.act s a).log = st.log := by
  cases a with
  | receive c => exact ⟨rfl, rfl⟩
  | advance i =>
    refine elim_getElem? (p := fun st' : State => st'.counters = st.counters ∧ st'.log = st.log) ⟨rfl, rfl⟩ fun h hi => ?_
    rw [State.movesQuery, hi, Option.any_some] at ha
    exact advance_of_not_isQuery i ha
  | leave i =>
    exact elim_getElem? (p := fun st' : State => st'.counters = st.counters ∧ st'.log = st.log) ⟨rfl, rfl⟩ fun h _ => ⟨rfl, rfl⟩

theorem advance_of_isOver (i : Nat) {h : Handler} (hover : h.isOver) :
    (st.advance s i h).counters = st.counters ∧ (st.advance s i h).log = st.log := by
  obtain ⟨c, stage⟩ := h
  cases stage with
  | answered r => exact ⟨rfl, rfl⟩
  | lost => exact ⟨rfl, rfl⟩
  | _ => cases hover

theorem Handler.stage_of_isOver {h : Handler} (hover : h.isOver) (k : Counters) :
    h.next s k = h.stage ∧ h.stage.left = h.stage := by
  obtain ⟨c, stage⟩ := h
  cases stage with
  | answered r => exact ⟨rfl, rfl⟩
  | lost => exact ⟨rfl, rfl⟩
  | _ => cases hover

/-- A report that was asked for reads the counters `k`, or is answered with them. -/
def Handler.Reads (s : Service) (k : Counters) (h : Handler) : Prop :=
  (∃ m ≤ 4, h.stage = .reading (k.values.take m)) ∨
    h.stage = .answered (s.handle (h.call.timing s) k h.call.request).response

namespace Handler.Reads

variable {k : Counters} {h : Handler}

theorem read_next (k : Counters) {m : Nat} (hm : m ≤ 4) : Counters.ofValues? (k.values.take m) = some k ∨
    m + 1 ≤ 4 ∧ Counters.ofValues? (k.values.take m) = none ∧
      k.values.take m ++ (k.values.drop (k.values.take m).length).take 1 = k.values.take (m + 1) :=
  match m, hm with
  | 0, _ => .inr ⟨by decide, rfl, rfl⟩
  | 1, _ => .inr ⟨by decide, rfl, rfl⟩
  | 2, _ => .inr ⟨by decide, rfl, rfl⟩
  | 3, _ => .inr ⟨by decide, rfl, rfl⟩
  | 4, _ => .inl rfl

theorem begin {c : Call} (hquery : c.request.queried? = none) (hreport : c.isReport) : Reads s k ⟨c, c.begin s k⟩ := by
  refine .inl ⟨0, Nat.zero_le _, ?_⟩
  show c.begin s k = .reading []
  rw [Call.begin, hquery, if_neg (by decide), if_pos hreport]

theorem next (hh : h.Reads s k) : Reads s k ⟨h.call, h.next s k⟩ := by
  rcases hh with ⟨m, hm, hstage⟩ | hstage
  · rcases read_next k hm with hall | ⟨hm', hmore, hnext⟩
    · refine .inr ?_
      simp only [Handler.next, hstage, hall]
    · refine .inl ⟨m + 1, hm', ?_⟩
      simp only [Handler.next, hstage, hmore, hnext]
  · refine .inr ?_
    simp only [Handler.next, hstage]

theorem left (hh : h.Reads s k) : Reads s k ⟨h.call, h.stage.left⟩ := by
  rcases hh with ⟨m, hm, hstage⟩ | hstage
  · exact .inl ⟨m, hm, by simp only [hstage, Stage.left]⟩
  · exact .inr (by simp only [hstage, Stage.left])

end Handler.Reads

namespace State

/-- No query is in progress, and the reports asked for since there were `n` handlers read the counters `k`. -/
structure Reports (s : Service) (k : Counters) (lines : List Log.Entry) (n : Nat) (st : State) : Prop where
  counters : st.counters = k
  log : st.log = lines
  quiet : ∀ h ∈ st.handlers, h.isQuery → h.isOver
  asked : n ≤ st.handlers.length
  read : ∀ (i : Nat) (h : Handler), n ≤ i → st.handlers[i]? = some h → h.call.isReport → h.Reads s k

namespace Reports

variable {k : Counters} {lines : List Log.Entry} {n : Nat} {h : Handler}

theorem receive (hst : st.Reports s k lines n) {c : Call} (hc : c.request.queried? = none) :
    (st.act s (.receive c)).Reports s k lines n := by
  refine ⟨hst.counters, hst.log, fun h hh hquery => ?_, ?_, fun i h hi hget hreport => ?_⟩
  · rcases List.mem_append.1 hh with hh | hh
    · exact hst.quiet h hh hquery
    · obtain rfl := List.mem_singleton.1 hh
      rw [Handler.isQuery, hc] at hquery
      cases hquery
  · have hasked := hst.asked
    rw [State.handlers_receive, List.length_append]
    omega
  · rw [State.handlers_receive, List.getElem?_append] at hget
    split at hget
    · exact hst.read i h hi hget hreport
    · obtain rfl := List.mem_singleton.1 (List.mem_of_getElem? hget)
      rw [hst.counters]
      exact .begin hc hreport

/-- A handler that ends its query, or goes on reading, may change its stage. -/
theorem set (hst : st.Reports s k lines n) {i : Nat} (hi : st.handlers[i]? = some h) {st' : State} {stage : Stage}
    (hsame : st'.counters = st.counters ∧ st'.log = st.log) (hset : st'.handlers = st.handlers.set i ⟨h.call, stage⟩)
    (hover : h.isOver → Handler.isOver ⟨h.call, stage⟩) (hreads : h.Reads s k → Handler.Reads s k ⟨h.call, stage⟩) :
    st'.Reports s k lines n := by
  refine ⟨hsame.1.trans hst.counters, hsame.2.trans hst.log, fun g hg hquery => ?_, ?_, fun j g hj hget hreport => ?_⟩
  · rw [hset] at hg
    rcases List.mem_or_eq_of_mem_set hg with hg | rfl
    · exact hst.quiet g hg hquery
    · exact hover (hst.quiet h (List.mem_of_getElem? hi) hquery)
  · rw [hset, List.length_set]
    exact hst.asked
  · rw [hset] at hget
    by_cases hij : i = j
    · subst hij
      rw [List.getElem?_set_self (List.getElem?_eq_some_iff.1 hi).1] at hget
      obtain rfl := Option.some.inj hget
      exact hreads (hst.read i h hj hi hreport)
    · rw [List.getElem?_set_ne hij] at hget
      exact hst.read j g hj hget hreport

theorem advance (hst : st.Reports s k lines n) {i : Nat} (hi : st.handlers[i]? = some h) :
    (st.advance s i h).Reports s k lines n := by
  have hsame : (st.advance s i h).counters = st.counters ∧ (st.advance s i h).log = st.log := by
    by_cases hquery : h.isQuery
    · exact advance_of_isOver i (hst.quiet h (List.mem_of_getElem? hi) hquery)
    · exact advance_of_not_isQuery i (Bool.eq_false_iff.2 hquery)
  refine hst.set hi hsame (handlers_advance i h) (fun hover => ?_) fun hreads => ?_
  · rwa [(Handler.stage_of_isOver hover _).1]
  · rw [hst.counters]
    exact hreads.next

theorem act (hst : st.Reports s k lines n) {a : Action} (ha : a.isQuery = false) :
    (st.act s a).Reports s k lines n := by
  cases a with
  | receive c => exact hst.receive (Option.isNone_iff_eq_none.1 (Option.isSome_eq_false_iff.1 ha))
  | advance i => exact elim_getElem? (p := Reports s k lines n) hst fun h hi => hst.advance hi
  | leave i =>
    refine elim_getElem? (p := Reports s k lines n) hst fun h hi => ?_
    refine hst.set hi ⟨rfl, rfl⟩ rfl (fun hover => ?_) Handler.Reads.left
    rwa [(Handler.stage_of_isOver (s := s) hover k).2]

theorem foldl (hst : st.Reports s k lines n) (hactions : ∀ a ∈ actions, a.isQuery = false) :
    (actions.foldl (State.act s) st).Reports s k lines n := by
  induction actions generalizing st with
  | nil => exact hst
  | cons a rest ih =>
    exact ih (hst.act (hactions a List.mem_cons_self)) (fun b hb => hactions b (List.mem_cons_of_mem _ hb))

theorem of_isQuiet (hquiet : st.isQuiet) : st.Reports s st.counters st.log st.handlers.length := by
  refine ⟨rfl, rfl, fun h hh => isOver_of_isQuiet hquiet hh, Nat.le_refl _, fun i h hi hget _ => ?_⟩
  rw [List.getElem?_eq_none hi] at hget
  cases hget

end Reports
end State

theorem handle_report (s : Service) (t : Timing) (k : Counters) {r : HttpRequest} (hmethod : r.method = "GET")
    (htarget : Route.ofTarget? r.target = some .metrics) :
    (s.handle t k r).response.status = 200 ∧ (s.handle t k r).response.body = (Json.object [
      ("queries_executed", .number (.ofUInt64 k.executed)), ("queries_rejected", .number (.ofUInt64 k.rejected)),
      ("queries_cancelled", .number (.ofUInt64 k.cancelled)), ("queries_failed", .number (.ofUInt64 k.failed))]).text := by
  have hdispatch : s.dispatch t k r = ⟨.json 200 k.toJson, k, []⟩ := by
    unfold Service.dispatch
    rw [hmethod, htarget]
    rfl
  rw [Service.handle, hdispatch]
  exact ⟨rfl, rfl⟩

/-- What the counters, the log and the reports of a run tell about its responses. -/
structure RunAccounts (s : Service) (actions : List Action) : Prop where
  available : ∀ h ∈ (run s actions).handlers, ∀ r ∈ h.sent?, r.status ≠ 503
  cancelled : (run s actions).counters.cancelled = 0
  handlers : (run s actions).handlers.map Handler.call = actions.filterMap Action.call?
  /-- If no query is in progress every response to a query is counted and logged. -/
  settled : (run s actions).isQuiet → (run s actions).Settled s actions
  others : ∀ a, (run s actions).movesQuery a = false →
    ((run s actions).act s a).counters = (run s actions).counters ∧
      ((run s actions).act s a).log = (run s actions).log
  /-- If no query is in progress, and until another comes in, reports tell the counters. -/
  reported : (run s actions).isQuiet → ∀ later : List Action, (∀ a ∈ later, a.isQuery = false) →
    (run s (actions ++ later)).counters = (run s actions).counters ∧
      (run s (actions ++ later)).log = (run s actions).log ∧
      ∀ i h, (run s actions).handlers.length ≤ i → (run s (actions ++ later)).handlers[i]? = some h →
        h.call.request.method = "GET" → Route.ofTarget? h.call.request.target = some .metrics →
          ∀ r ∈ h.sent?, r.status = 200 ∧ r.body = (Json.object [
            ("queries_executed", .number (.ofUInt64 (run s actions).counters.executed)),
            ("queries_rejected", .number (.ofUInt64 (run s actions).counters.rejected)),
            ("queries_cancelled", .number (.ofUInt64 (run s actions).counters.cancelled)),
            ("queries_failed", .number (.ofUInt64 (run s actions).counters.failed))]).text

end Concurrency
end ProductQuery
