import ProductQuery.Proofs.LoggedResponse
import ProductQuery.Service.Concurrency
/-!
# Proofs.ConcurrentRuns — what every step of concurrent handlers keeps

However the steps of concurrent handlers mix, the counters and the log account for exactly the queries that were counted
and logged so far (`State.Accounts.run`), and every request that came in has its handler, in its place (`calls_run`).  A
handler ends without an answer only if there was no delay to draw, or if its client went away while it had to wait
(`State.unanswered_run`).
-/
namespace ProductQuery

def Counters.get (k : Counters) : QueryEnd → UInt64
  | .executed => k.executed
  | .rejected => k.rejected
  | .cancelled => k.cancelled
  | .failed => k.failed

def Counters.total (k : Counters) : UInt64 := k.executed + k.rejected + k.cancelled + k.failed

@[simp]
theorem Counters.get_count (k : Counters) (ending e : QueryEnd) :
    (k.count ending).get e = k.get e + if ending = e then 1 else 0 := by
  cases ending <;> cases e <;> simp [count, get]

@[simp]
theorem Counters.total_count (k : Counters) (ending : QueryEnd) : (k.count ending).total = k.total + 1 := by
  cases ending <;> simp [count, total] <;> ac_rfl

namespace Concurrency

variable (s : Service) {st : State} {actions : List Action}

namespace Handler

def isQuery (h : Handler) : Bool := h.call.request.queried?.isSome

def sent? (h : Handler) : Option Response :=
  match h.stage with
  | .answered r => some r
  | _ => none

/-- The handler has come to its end, with an answer or without. -/
def isOver (h : Handler) : Bool :=
  match h.stage with
  | .answered _ | .lost => true
  | _ => false

/-- The handler of a query has come to its end with an answer. -/
def isAnswered (h : Handler) : Bool := h.isQuery && h.sent?.isSome

def isCounted (h : Handler) : Bool :=
  match h.stage with
  | .counted | .logged | .answered _ => h.isQuery
  | _ => false

def isLogged (h : Handler) : Bool :=
  match h.stage with
  | .logged | .answered _ => h.isQuery
  | _ => false

/-- What is to become of the request of a handler, counted from zero. -/
def handled (h : Handler) : Handled := s.handle (h.call.timing s) .zero h.call.request

/-- Was the query of a handler counted for an ending? -/
def countsFor (e : QueryEnd) (h : Handler) : Bool := h.isCounted && (h.handled s).response.status = e.status

def entries (h : Handler) : List Log.Entry := if h.isLogged then (h.handled s).log else []

end Handler

/-- Does a stage occur in the handling of queries, or of other requests? -/
def Stage.Suits (isQuery : Bool) : Stage → Prop
  | .reading _ => isQuery = false
  | .answered _ => True
  | _ => isQuery = true

/-- The stage of a handler agrees with its request, and its response is one to its request. -/
structure Handler.IsSound (h : Handler) : Prop where
  staged : h.stage.Suits h.isQuery
  answered : ∀ r, h.stage = .answered r → ∃ k, r = (s.handle (h.call.timing s) k h.call.request).response

variable {s} in
theorem Handler.isSound_answered (c : Call) (k : Counters) :
    IsSound s ⟨c, .answered (s.handle (c.timing s) k c.request).response⟩ :=
  ⟨trivial, fun _ hr => ⟨k, (Stage.answered.inj hr).symm⟩⟩

/-- The counters and the log account for the queries that were counted and logged. -/
structure State.Accounts (st : State) : Prop where
  counted : ∀ e, st.counters.get e = UInt64.ofNat (st.handlers.countP (Handler.countsFor s e))
  total : st.counters.total = UInt64.ofNat (st.handlers.countP Handler.isCounted)
  logged : st.log.Perm (st.handlers.flatMap (Handler.entries s))
  sound : ∀ h ∈ st.handlers, h.IsSound s

section

variable (c : Call)

@[simp]
theorem State.counters_receive : (st.act s (.receive c)).counters = st.counters := rfl

@[simp]
theorem State.log_receive : (st.act s (.receive c)).log = st.log := rfl

@[simp]
theorem State.handlers_receive : (st.act s (.receive c)).handlers = st.handlers ++ [⟨c, c.begin s st.counters⟩] := rfl

end

/-- Where there may be no place `i`, what holds of both outcomes holds. -/
theorem elim_getElem? {α β : Type} {p : β → Prop} {l : List α} {i : Nat} {b : β} {f : α → β} (hnone : p b)
    (hsome : ∀ a, l[i]? = some a → p (f a)) : p (l[i]?.elim b f) := by
  cases hi : l[i]? with
  | none => exact hnone
  | some a => exact hsome a hi

theorem exists_split_of_getElem? {α : Type} {a : α} : ∀ {l : List α} {i : Nat}, l[i]? = some a →
    ∃ before after, l = before ++ a :: after ∧ ∀ b, l.set i b = before ++ b :: after
  | [], _, h => by cases h
  | x :: l, 0, h => by
    obtain rfl := Option.some.inj h
    exact ⟨[], l, rfl, fun _ => rfl⟩
  | x :: l, i + 1, h => by
    obtain ⟨before, after, rfl, hset⟩ := exists_split_of_getElem? (l := l) h
    exact ⟨x :: before, after, rfl, fun b => congrArg (x :: ·) (hset b)⟩

section

variable {α β : Type} {before after : List α} {a b : α}

theorem countP_replaced {p : α → Bool} (h : p b = p a) :
    (before ++ b :: after).countP p = (before ++ a :: after).countP p := by
  rw [List.countP_append, List.countP_append, List.countP_cons, List.countP_cons, h]

theorem countP_gained {p : α → Bool} (h : p a = false) :
    (before ++ b :: after).countP p = (before ++ a :: after).countP p + if p b then 1 else 0 := by
  rw [List.countP_append, List.countP_append, List.countP_cons, List.countP_cons, h, if_neg Bool.false_ne_true,
    Nat.add_zero, Nat.add_assoc]

theorem flatMap_replaced {f : α → List β} (h : f b = f a) :
    (before ++ b :: after).flatMap f = (before ++ a :: after).flatMap f := by
  rw [List.flatMap_append, List.flatMap_append, List.flatMap_cons, List.flatMap_cons, h]

theorem flatMap_gained {f : α → List β} (h : f a = []) :
    ((before ++ a :: after).flatMap f ++ f b).Perm ((before ++ b :: after).flatMap f) := by
  rw [List.flatMap_append, List.flatMap_append, List.flatMap_cons, List.flatMap_cons, h, List.nil_append,
    List.append_assoc]
  exact List.perm_append_comm.append_left _

end

theorem flatMap_eq_map_filter {α β : Type} {p : α → Bool} {f : α → List β} {g : α → β} : ∀ {l : List α},
    (∀ a ∈ l, p a = true → f a = [g a]) → (∀ a ∈ l, p a = false → f a = []) →
      l.flatMap f = (l.filter p).map g
  | [], _, _ => rfl
  | a :: l, hone, hnone => by
    have hrest := flatMap_eq_map_filter (fun b hb => hone b (List.mem_cons_of_mem _ hb))
      (fun b hb => hnone b (List.mem_cons_of_mem _ hb))
    rw [List.flatMap_cons, hrest]
    cases hp : p a with
    | true => rw [hone a List.mem_cons_self hp, List.filter_cons_of_pos hp, List.map_cons, List.singleton_append]
    | false =>
      have hnot : ¬p a = true := Bool.eq_false_iff.1 hp
      rw [hnone a List.mem_cons_self hp, List.filter_cons_of_neg hnot, List.nil_append]

variable {s}

namespace State.Accounts

variable {k : Counters} {lines : List Log.Entry} {before after : List Handler} {h h' : Handler}

theorem initial : State.initial.Accounts s where
  counted e := by cases e <;> rfl
  total := rfl
  logged := .nil
  sound _ h := by cases h

theorem sound_replaced (hst : Accounts s ⟨k, lines, before ++ h :: after⟩) (h' : Handler) (hsound : h'.IsSound s) :
    ∀ g ∈ before ++ h' :: after, g.IsSound s := by
  intro g hg
  rcases List.mem_append.1 hg with hg | hg
  · exact hst.sound g (List.mem_append_left _ hg)
  · rcases List.mem_cons.1 hg with rfl | hg
    · exact hsound
    · exact hst.sound g (List.mem_append_right _ (List.mem_cons_of_mem _ hg))

theorem pass (hst : Accounts s ⟨k, lines, before ++ h :: after⟩) (hcall : h'.call = h.call)
    (hcounted : h'.isCounted = h.isCounted) (hlogged : h'.isLogged = h.isLogged) (hsound : h'.IsSound s) :
    Accounts s ⟨k, lines, before ++ h' :: after⟩ := by
  have hhandled : h'.handled s = h.handled s := by rw [Handler.handled, hcall, Handler.handled]
  have hcounts : ∀ e, h'.countsFor s e = h.countsFor s e := by
    intro e
    rw [Handler.countsFor, Handler.countsFor, hcounted, hhandled]
  have hentries : h'.entries s = h.entries s := by rw [Handler.entries, Handler.entries, hlogged, hhandled]
  refine ⟨fun e => ?_, ?_, ?_, hst.sound_replaced h' hsound⟩
  · rw [hst.counted e, countP_replaced (hcounts e)]
  · rw [hst.total, countP_replaced hcounted]
  · rw [flatMap_replaced hentries]
    exact hst.logged

theorem count {call : Call} {c : Collection} (hst : Accounts s ⟨k, lines, before ++ ⟨call, .ready⟩ :: after⟩)
    (hquery : call.request.queried? = some c) :
    Accounts s ⟨(s.handle (call.timing s) k call.request).counters, lines, before ++ ⟨call, .counted⟩ :: after⟩ := by
  obtain ⟨response, ending, entry, hhandle, htells⟩ := s.handle_tells (call.timing s) hquery
  have hisQuery : ∀ stage, Handler.isQuery ⟨call, stage⟩ = true := fun _ => congrArg Option.isSome hquery
  have hcounts : ∀ e, Handler.countsFor s e ⟨call, .counted⟩ = decide (ending = e) := by
    intro e
    have hstatus : (s.handle (call.timing s) .zero call.request).response.status = ending.status := by
      rw [hhandle]
      exact htells.status_eq
    show (Handler.isQuery _ && decide ((s.handle (call.timing s) .zero call.request).response.status = e.status)) = _
    rw [hisQuery, hstatus, Bool.true_and]
    exact decide_eq_decide.2 QueryEnd.status_inj
  rw [hhandle]
  -- One more handler counts for its ending, and none for another.
  refine ⟨fun e => ?_, ?_, ?_, hst.sound_replaced _ ⟨hisQuery _, fun _ hr => by cases hr⟩⟩
  · have hnot : Handler.countsFor s e ⟨call, .ready⟩ = false := rfl
    dsimp only
    rw [Counters.get_count, countP_gained hnot, hcounts, hst.counted e]
    by_cases he : ending = e <;> simp [he]
  · have hnot : Handler.isCounted ⟨call, .ready⟩ = false := rfl
    have hcounted : Handler.isCounted ⟨call, .counted⟩ = true := hisQuery _
    dsimp only
    rw [Counters.total_count, countP_gained hnot, hcounted, hst.total]
    simp
  · have hentries : Handler.entries s ⟨call, .counted⟩ = Handler.entries s ⟨call, .ready⟩ := rfl
    dsimp only
    rw [flatMap_replaced hentries]
    exact hst.logged

theorem log {call : Call} {c : Collection} (hst : Accounts s ⟨k, lines, before ++ ⟨call, .counted⟩ :: after⟩)
    (hquery : call.request.queried? = some c) :
    Accounts s ⟨k, lines ++ (s.handle (call.timing s) k call.request).log, before ++ ⟨call, .logged⟩ :: after⟩ := by
  obtain ⟨response, ending, entry, hhandle, htells⟩ := s.handle_tells (call.timing s) hquery
  have hisQuery : ∀ stage, Handler.isQuery ⟨call, stage⟩ = true := fun _ => congrArg Option.isSome hquery
  have hnone : Handler.entries s ⟨call, .counted⟩ = [] := rfl
  have hentries : Handler.entries s ⟨call, .logged⟩ = [entry] := by
    simp [Handler.entries, Handler.isLogged, hisQuery, Handler.handled, hhandle]
  rw [hhandle]
  refine ⟨fun e => ?_, ?_, ?_, hst.sound_replaced _ ⟨hisQuery _, fun _ hr => by cases hr⟩⟩
  · have hcounts : Handler.countsFor s e ⟨call, .logged⟩ = Handler.countsFor s e ⟨call, .counted⟩ := rfl
    dsimp only
    rw [countP_replaced hcounts, hst.counted e]
  · have hcounted : Handler.isCounted ⟨call, .logged⟩ = Handler.isCounted ⟨call, .counted⟩ := rfl
    dsimp only
    rw [countP_replaced hcounted, hst.total]
  · dsimp only
    rw [← hentries]
    exact (hst.logged.append_right _).trans (flatMap_gained hnone)

theorem receive (hst : st.Accounts s) (c : Call) : (st.act s (.receive c)).Accounts s := by
  -- A new handler has counted and logged nothing, wherever it begins.
  have hnew : ∀ h : Handler, h = ⟨c, c.begin s st.counters⟩ →
      h.isCounted = false ∧ h.isLogged = false ∧ h.IsSound s := by
    rintro _ rfl
    unfold Call.begin
    by_cases hquery : c.request.queried?.isSome
    · rw [if_pos hquery]
      exact ⟨rfl, rfl, hquery, fun _ hr => by cases hr⟩
    · rw [if_neg hquery]
      have hnot : c.request.queried?.isSome = false := Bool.eq_false_iff.2 hquery
      by_cases hreport : c.isReport
      · rw [if_pos hreport]
        exact ⟨rfl, rfl, hnot, fun _ hr => by cases hr⟩
      · rw [if_neg hreport]
        exact ⟨hnot, hnot, Handler.isSound_answered c st.counters⟩
  obtain ⟨hcounted, hlogged, hsound⟩ := hnew _ rfl
  have hcounts : ∀ e, Handler.countsFor s e ⟨c, c.begin s st.counters⟩ = false := by
    intro e
    rw [Handler.countsFor, hcounted, Bool.false_and]
  have hentries : Handler.entries s ⟨c, c.begin s st.counters⟩ = [] := by rw [Handler.entries, hlogged]; rfl
  refine ⟨fun e => ?_, ?_, ?_, fun h hh => ?_⟩
  · simp [hst.counted e, hcounts]
  · simp [hst.total, hcounted]
  · simp [hst.logged, hentries]
  · rcases List.mem_append.1 hh with hh | hh
    · exact hst.sound h hh
    · obtain rfl := List.mem_singleton.1 hh
      exact hsound

theorem advance {i : Nat} (hst : st.Accounts s) (hi : st.handlers[i]? = some h) : (st.advance s i h).Accounts s := by
  -- The handlers before and after the place stay, so only the one in it gains or loses in each count.
  obtain ⟨k, lines, handlers⟩ := st
  obtain ⟨before, after, hsplit, hset⟩ := exists_split_of_getElem? hi
  dsimp only at hsplit
  subst hsplit
  have hsound := hst.sound h (List.mem_append_right _ List.mem_cons_self)
  unfold State.advance State.move
  simp only [hset]
  obtain ⟨c, stage⟩ := h
  have hstaged := hsound.staged
  cases stage with
  | received =>
    have hquery : c.request.queried?.isSome = true := hstaged
    unfold Handler.next Stage.drawn
    dsimp only
    split <;> exact hst.pass rfl rfl rfl ⟨hquery, fun _ hr => by cases hr⟩
  | waiting => exact hst.pass rfl rfl rfl ⟨hstaged, fun _ hr => by cases hr⟩
  | ready =>
    obtain ⟨collection, hquery⟩ := Option.isSome_iff_exists.1 hstaged
    exact hst.count hquery
  | counted =>
    obtain ⟨collection, hquery⟩ := Option.isSome_iff_exists.1 hstaged
    exact hst.log hquery
  | logged => exact hst.pass rfl rfl rfl (Handler.isSound_answered c k)
  | reading seen =>
    have hnot : c.request.queried?.isSome = false := hstaged
    unfold Handler.next
    dsimp only
    split
    · rename_i k' hread
      exact hst.pass rfl hnot hnot (Handler.isSound_answered c k')
    · exact hst.pass rfl rfl rfl ⟨hnot, fun _ hr => by cases hr⟩
  | answered r => exact hst.pass rfl rfl rfl hsound
  | lost => exact hst.pass rfl rfl rfl hsound

theorem leave {i : Nat} (hst : st.Accounts s) (hi : st.handlers[i]? = some h) : (st.leave i h).Accounts s := by
  obtain ⟨k, lines, handlers⟩ := st
  obtain ⟨before, after, hsplit, hset⟩ := exists_split_of_getElem? hi
  dsimp only at hsplit
  subst hsplit
  have hsound := hst.sound h (List.mem_append_right _ List.mem_cons_self)
  unfold State.leave State.move
  simp only [hset]
  obtain ⟨c, stage⟩ := h
  cases stage with
  | waiting => exact hst.pass rfl rfl rfl ⟨hsound.staged, fun _ hr => by cases hr⟩
  | _ => exact hst.pass rfl rfl rfl hsound

theorem act (hst : st.Accounts s) (a : Action) : (st.act s a).Accounts s := by
  cases a with
  | receive c => exact hst.receive c
  | advance i => exact elim_getElem? (p := Accounts s) hst fun h hi => hst.advance hi
  | leave i => exact elim_getElem? (p := Accounts s) hst fun h hi => hst.leave hi

/-- **The counters and the log account for the queries at every moment of a run**, since every step keeps the account. -/
theorem run (s : Service) (actions : List Action) : (Concurrency.run s actions).Accounts s := by
  suffices hall : ∀ (actions : List Action) (st : State), st.Accounts s →
      (actions.foldl (State.act s) st).Accounts s from hall actions _ initial
  intro actions
  induction actions with
  | nil => exact fun _ hst => hst
  | cons a rest ih => exact fun st hst => ih _ (hst.act a)

end State.Accounts

/-! ## Runs -/

def Action.call? : Action → Option Call
  | .receive c => some c
  | .advance _ => none
  | .leave _ => none

/-- Does a query come in that gets to its handler? -/
def Action.isQuery (a : Action) : Bool := a.call?.any (fun c => c.request.queried?.isSome)

theorem handlers_advance (i : Nat) (h : Handler) :
    (st.advance s i h).handlers = st.handlers.set i ⟨h.call, h.next s st.counters⟩ := by
  unfold State.advance
  dsimp only
  split <;> rfl

/-- **What a step does to the handlers.**  A request gets a new one, or the handler in one place goes on or is left. -/
theorem handlers_act (s : Service) (st : State) (a : Action) :
    (∃ c, a = .receive c ∧ (st.act s a).handlers = st.handlers ++ [⟨c, c.begin s st.counters⟩]) ∨
    (st.act s a).handlers = st.handlers ∧ a.call? = none ∨
    ∃ i h stage, st.handlers[i]? = some h ∧ (st.act s a).handlers = st.handlers.set i ⟨h.call, stage⟩ ∧
      (a = .advance i ∧ stage = h.next s st.counters ∨ a = .leave i ∧ stage = h.stage.left) := by
  cases a with
  | receive c => exact .inl ⟨c, rfl, rfl⟩
  | advance i =>
    rw [State.act]
    cases hi : st.handlers[i]? with
    | none => exact .inr (.inl ⟨rfl, rfl⟩)
    | some h => exact .inr (.inr ⟨i, h, _, hi, handlers_advance i h, .inl ⟨rfl, rfl⟩⟩)
  | leave i =>
    rw [State.act]
    cases hi : st.handlers[i]? with
    | none => exact .inr (.inl ⟨rfl, rfl⟩)
    | some h => exact .inr (.inr ⟨i, h, _, hi, rfl, .inr ⟨rfl, rfl⟩⟩)

theorem calls_act (st : State) (a : Action) :
    (st.act s a).handlers.map Handler.call = st.handlers.map Handler.call ++ a.call?.toList := by
  rcases handlers_act s st a with ⟨c, rfl, hhandlers⟩ | ⟨hhandlers, hcall⟩ | ⟨i, h, stage, hi, hhandlers, hstep⟩
  · rw [hhandlers, List.map_append]
    rfl
  · rw [hhandlers, hcall, Option.toList_none, List.append_nil]
  · have hcall : a.call? = none := by rcases hstep with ⟨rfl, -⟩ | ⟨rfl, -⟩ <;> rfl
    obtain ⟨before, after, hsplit, hset⟩ := exists_split_of_getElem? hi
    rw [hhandlers, hset, hsplit, hcall, Option.toList_none, List.append_nil, List.map_append, List.map_append,
      List.map_cons, List.map_cons]

/-- **Every request that came in has its handler**, in its place. -/
theorem calls_run (s : Service) (actions : List Action) :
    (run s actions).handlers.map Handler.call = actions.filterMap Action.call? := by
  suffices hall : ∀ (actions : List Action) (st : State), (actions.foldl (State.act s) st).handlers.map Handler.call =
      st.handlers.map Handler.call ++ actions.filterMap Action.call? from hall actions .initial
  intro actions
  induction actions with
  | nil => exact fun st => (List.append_nil _).symm
  | cons a rest ih =>
    intro st
    rw [List.foldl_cons, ih, calls_act, List.append_assoc, List.filterMap_cons]
    cases a.call? <;> rfl

/-! ## Handlers without an answer -/

/-- A handler waits only if its query has to.  It has ended without an answer only if there was no delay to draw, or if
it waited and was left. -/
structure Handler.IsExcused (s : Service) (wasLeft : Prop) (h : Handler) : Prop where
  waiting : h.stage = .waiting → h.call.wait? s = some true
  lost : h.stage = .lost → h.call.wait? s = none ∨ h.call.wait? s = some true ∧ wasLeft

namespace Handler.IsExcused

variable {wasLeft wasLeft' : Prop} {h : Handler}

theorem mono (hh : h.IsExcused s wasLeft) (himp : wasLeft → wasLeft') : h.IsExcused s wasLeft' :=
  ⟨hh.waiting, fun hlost => (hh.lost hlost).imp_right (And.imp_right himp)⟩

theorem begin (c : Call) (k : Counters) : IsExcused s wasLeft ⟨c, c.begin s k⟩ := by
  unfold Call.begin
  split
  · exact ⟨nofun, nofun⟩
  · split <;> exact ⟨nofun, nofun⟩

theorem next (hh : h.IsExcused s wasLeft) (k : Counters) : IsExcused s wasLeft ⟨h.call, h.next s k⟩ := by
  obtain ⟨c, stage⟩ := h
  cases stage with
  | received =>
    unfold Handler.next
    dsimp only
    cases hwait : c.wait? s with
    | none => exact ⟨nofun, fun _ => .inl hwait⟩
    | some delayed =>
      cases delayed with
      | true => exact ⟨fun _ => hwait, nofun⟩
      | false => exact ⟨nofun, nofun⟩
  | reading seen =>
    unfold Handler.next
    dsimp only
    split <;> exact ⟨nofun, nofun⟩
  | lost => exact hh
  | _ => exact ⟨nofun, nofun⟩

theorem left (hh : h.IsExcused s wasLeft) (hleft : wasLeft) : IsExcused s wasLeft ⟨h.call, h.stage.left⟩ := by
  obtain ⟨c, stage⟩ := h
  cases stage with
  | waiting => exact ⟨nofun, fun _ => .inr ⟨hh.waiting rfl, hleft⟩⟩
  | _ => exact hh

end Handler.IsExcused

/-- Every handler is excused by the actions that were done. -/
def State.IsExcused (s : Service) (done : List Action) (st : State) : Prop :=
  ∀ (i : Nat) (h : Handler), st.handlers[i]? = some h → h.IsExcused s (.leave i ∈ done)

theorem State.IsExcused.act {done : List Action} (hst : st.IsExcused s done) (a : Action) :
    (st.act s a).IsExcused s (done ++ [a]) := by
  have hold : ∀ (i : Nat) (h : Handler), st.handlers[i]? = some h → h.IsExcused s (.leave i ∈ done ++ [a]) := fun i h hi =>
    (hst i h hi).mono (List.mem_append_left _)
  intro j g hj
  rcases handlers_act s st a with ⟨c, rfl, hhandlers⟩ | ⟨hhandlers, -⟩ | ⟨i, h, stage, hi, hhandlers, hstep⟩
  · rw [hhandlers, List.getElem?_append] at hj
    split at hj
    · exact hold j g hj
    · obtain rfl := List.mem_singleton.1 (List.mem_of_getElem? hj)
      exact .begin c st.counters
  · rw [hhandlers] at hj
    exact hold j g hj
  · rw [hhandlers] at hj
    by_cases hij : i = j
    · subst hij
      rw [List.getElem?_set_self (List.getElem?_eq_some_iff.1 hi).1] at hj
      obtain rfl := Option.some.inj hj
      rcases hstep with ⟨rfl, rfl⟩ | ⟨rfl, rfl⟩
      · exact (hold i h hi).next st.counters
      · exact (hold i h hi).left (List.mem_append_right _ List.mem_cons_self)
    · rw [List.getElem?_set_ne hij] at hj
      exact hold j g hj

theorem State.IsExcused.run (s : Service) (actions : List Action) : (Concurrency.run s actions).IsExcused s actions := by
  suffices hall : ∀ (actions done : List Action) (st : State), st.IsExcused s done →
      (actions.foldl (State.act s) st).IsExcused s (done ++ actions) from
    hall actions [] .initial (fun i h hi => by cases hi)
  intro actions
  induction actions with
  | nil => exact fun done st hst => (List.append_nil done).symm ▸ hst
  | cons a rest ih =>
    intro done st hst
    have hrest := ih (done ++ [a]) _ (hst.act a)
    rwa [List.append_assoc] at hrest

/-- **A query has no answer only if there was no delay to draw, or if its client went away while it had to wait.** -/
theorem State.unanswered_run {i : Nat} {h : Handler} (hi : (run s actions).handlers[i]? = some h) (hover : h.isOver)
    (hnone : h.sent? = none) :
    ¬s.delay.CanBeDrawn ∨ h.call.wait? s = some true ∧ .leave i ∈ actions := by
  have hlost : h.stage = .lost := by
    obtain ⟨c, stage⟩ := h
    cases stage with
    | lost => rfl
    | answered r => cases hnone
    | _ => cases hover
  rcases (IsExcused.run s actions i h hi).lost hlost with hdraw | hleft
  · exact .inl (s.not_canBeDrawn_of_wait? hdraw)
  · exact .inr hleft

end Concurrency
end ProductQuery
