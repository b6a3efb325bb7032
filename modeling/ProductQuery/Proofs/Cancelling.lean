import ProductQuery.Proofs.Steps
import ProductQuery.Proofs.StrictQuery
import ProductQuery.Query.Handle
/-!
# Proofs.Cancelling — queries that are given up

A signal that is set stays set, so a query that finds it set at any of its checks finds it set at the last of them
(`exists_isSetAt_checks_iff`).  What ends a delay first therefore makes no difference, and a query is refused for its
form, or cancelled, or answered as if there were no signal (`query_eq_outcome`).  Handles keep their signals and signals
stay set, whatever is done with other handles (`Handles.shares_after`, `Handles.isCancelled_after`), so a signal that was
set before a query begins cancels it through every handle on it, and no handle on another signal (`query_obeys_signal`).
-/
namespace ProductQuery

/-! ## Handles on signals -/

namespace Handles

variable {s t : Handles} {h k i : Nat}

@[simp]
theorem signals_make : s.make.signals = s.signals ++ [s.flags.length] := rfl

@[simp]
theorem flags_make : s.make.flags = s.flags ++ [false] := rfl

@[simp]
theorem signals_copy : (s.copy h).signals = s.signals ++ s.signals[h]?.toList := rfl

@[simp]
theorem flags_setSignal : (s.setSignal i).flags = s.flags.set i true := rfl

@[simp]
theorem signals_cancel : (s.cancel h).signals = s.signals := by
  unfold cancel
  split <;> rfl

/-- Two handles on one signal. -/
def Shares (s : Handles) (h k : Nat) : Prop := ∃ i, s.signals[h]? = some i ∧ s.signals[k]? = some i

theorem getElem?_signals_act (a : Action) (hi : s.signals[h]? = some i) : (s.act a).signals[h]? = some i := by
  obtain ⟨hlt, -⟩ := List.getElem?_eq_some_iff.1 hi
  cases a with
  | make => exact (List.getElem?_append_left hlt).trans hi
  | copy k => exact (List.getElem?_append_left hlt).trans hi
  | cancel k => rwa [act, signals_cancel]

/-- **A handle stays on its signal.** -/
theorem getElem?_signals_after (actions : List Action) (hi : s.signals[h]? = some i) :
    (s.after actions).signals[h]? = some i := by
  induction actions generalizing s with
  | nil => exact hi
  | cons a rest ih => exact ih (getElem?_signals_act a hi)

theorem shares_after (actions : List Action) (hs : s.Shares h k) : (s.after actions).Shares h k := by
  obtain ⟨i, hh, hk⟩ := hs
  exact ⟨i, getElem?_signals_after actions hh, getElem?_signals_after actions hk⟩

theorem isCancelled_eq (hi : s.signals[h]? = some i) : s.isCancelled h = (s.flags[i]? == some true) := by
  rw [isCancelled, hi, Option.any_some]

theorem isCancelled_of_shares (hs : s.Shares h k) : s.isCancelled h = s.isCancelled k := by
  obtain ⟨i, hh, hk⟩ := hs
  rw [isCancelled_eq hh, isCancelled_eq hk]

/-- A copy is on the signal of the handle it was made of. -/
theorem shares_copy (hlt : h < s.signals.length) : (s.copy h).Shares h s.signals.length := by
  have hi : s.signals[h]? = some s.signals[h] := List.getElem?_eq_getElem hlt
  refine ⟨s.signals[h], (List.getElem?_append_left hlt).trans hi, ?_⟩
  rw [signals_copy, hi, Option.toList_some, List.getElem?_concat_length]

theorem isCancelled_cancel (hlt : h < s.signals.length) : (s.cancel h).isCancelled h = true := by
  have hi : s.signals[h]? = some s.signals[h] := List.getElem?_eq_getElem hlt
  have hflag := s.inRange s.signals[h] (List.getElem_mem hlt)
  have hcancel : s.cancel h = s.setSignal s.signals[h] := by rw [cancel, hi]
  have hset : (s.setSignal s.signals[h]).signals[h]? = some s.signals[h] := hi
  rw [hcancel, isCancelled_eq hset, flags_setSignal, List.getElem?_set_self hflag, beq_self_eq_true]

theorem isCancelled_act (a : Action) (hc : s.isCancelled h = true) : (s.act a).isCancelled h = true := by
  cases hi : s.signals[h]? with
  | none => rw [isCancelled, hi] at hc; cases hc
  | some i =>
    rw [isCancelled_eq hi, beq_iff_eq] at hc
    rw [isCancelled_eq (getElem?_signals_act a hi), beq_iff_eq]
    obtain ⟨hlt, -⟩ := List.getElem?_eq_some_iff.1 hc
    cases a with
    | make => exact (List.getElem?_append_left hlt).trans hc
    | copy k => exact hc
    | cancel k =>
      rw [act, cancel]
      split
      · rename_i j _
        rw [flags_setSignal, List.getElem?_set]
        split
        · rename_i hji
          rw [hji, if_pos hlt]
        · exact hc
      · exact hc

/-- **A signal that is set stays set.** -/
theorem isCancelled_after (actions : List Action) (hc : s.isCancelled h = true) :
    (s.after actions).isCancelled h = true := by
  induction actions generalizing s with
  | nil => exact hc
  | cons a rest ih => exact ih (isCancelled_act a hc)

/-- The same handles and signals, all but one set in both or in neither. -/
structure AgreeOff (i : Nat) (s t : Handles) : Prop where
  signals : s.signals = t.signals
  length : s.flags.length = t.flags.length
  flags : ∀ j, j ≠ i → s.flags[j]? = t.flags[j]?

theorem agreeOff_setSignal (s : Handles) (i : Nat) : AgreeOff i (s.setSignal i) s :=
  ⟨rfl, List.length_set, fun _ hj => List.getElem?_set_ne (Ne.symm hj)⟩

theorem AgreeOff.act (hst : AgreeOff i s t) (a : Action) : AgreeOff i (s.act a) (t.act a) := by
  obtain ⟨hsignals, hlength, hflags⟩ := hst
  cases a with
  | make =>
    refine ⟨?_, ?_, fun j hj => ?_⟩
    · simp [Handles.act, hsignals, hlength]
    · simp [Handles.act, hlength]
    · simp [Handles.act, List.getElem?_append, hlength, hflags j hj]
  | copy k => exact ⟨by simp [Handles.act, hsignals], hlength, hflags⟩
  | cancel k =>
    rw [Handles.act, Handles.act, cancel, cancel, hsignals]
    split
    · refine ⟨hsignals, ?_, fun j hj => ?_⟩
      · simp [hlength]
      · simp [List.getElem?_set, hlength, hflags j hj]
    · exact ⟨hsignals, hlength, hflags⟩

theorem AgreeOff.after (hst : AgreeOff i s t) (actions : List Action) : AgreeOff i (s.after actions) (t.after actions) := by
  induction actions generalizing s t with
  | nil => exact hst
  | cons a rest ih => exact ih (hst.act a)

theorem AgreeOff.isCancelled_eq (hst : AgreeOff i s t) (hk : s.signals[k]? ≠ some i) :
    s.isCancelled k = t.isCancelled k := by
  unfold isCancelled
  rw [← hst.signals]
  cases hj : s.signals[k]? with
  | none => rfl
  | some j =>
    have hne : j ≠ i := by
      rintro rfl
      exact hk hj
    rw [Option.any_some, Option.any_some, hst.flags j hne]

/-- **Setting a signal makes no difference to the handles on others**, now and later. -/
theorem isCancelled_cancel_after (actions : List Action) (hk : ¬(s.after actions).Shares h k) :
    ((s.cancel h).after actions).isCancelled k = (s.after actions).isCancelled k := by
  unfold cancel
  split
  · rename_i i hi
    have hagree := (agreeOff_setSignal s i).after actions
    exact hagree.isCancelled_eq fun hki => hk ⟨i, getElem?_signals_after actions hi, hagree.signals ▸ hki⟩
  · rfl

end Handles

/-! ## What a run sees of a signal -/

theorem Moment.rank_le_of_find?_eq_some {m first : Moment} {sees : Moment → Bool}
    (hfirst : Moment.all.find? sees = some first) (hm : sees m = true) : first.rank ≤ m.rank := by
  obtain ⟨-, before, behind, hall, hnot⟩ := List.find?_eq_some_iff_append.1 hfirst
  have hsorted : Moment.all.Pairwise (fun a b => a.rank < b.rank) := by decide
  have hmem : m ∈ Moment.all := by cases m <;> decide
  rw [hall] at hmem hsorted
  rcases List.mem_append.1 hmem with hbefore | hbehind
  · have hunseen := hnot m hbefore
    rw [hm] at hunseen
    cases hunseen
  · rcases List.mem_cons.1 hbehind with rfl | hbehind
    · exact Nat.le_refl _
    · obtain ⟨-, hcons, -⟩ := List.pairwise_append.1 hsorted
      exact Nat.le_of_lt (List.rel_of_pairwise_cons hcons hbehind)

namespace Course

theorem exists_handles_eq_after (c : Course) {m m' : Moment} (h : m.rank ≤ m'.rank) :
    ∃ actions, c.handles m' = (c.handles m).after actions := by
  have hprefix : m.upTo <+: m'.upTo := List.take_prefix_take_left (Nat.succ_le_succ h)
  obtain ⟨rest, hrest⟩ := hprefix
  refine ⟨rest.flatMap c.actions, ?_⟩
  rw [handles, handles, ← hrest, List.flatMap_append]
  exact List.foldl_append

theorem isCancelled_handles (c : Course) {m m' : Moment} (hm : m.rank ≤ m'.rank) {h : Nat}
    (hc : (c.handles m).isCancelled h = true) : (c.handles m').isCancelled h = true := by
  obtain ⟨actions, hactions⟩ := c.exists_handles_eq_after hm
  rw [hactions]
  exact Handles.isCancelled_after actions hc

/-- **The signal of a handle is set at a moment if the handle says so then.** -/
theorem isSetAt_signal (c : Course) (h : Nat) (m : Moment) :
    (c.signal h).isSetAt m = (c.handles m).isCancelled h := by
  rw [Bool.eq_iff_iff]
  simp only [Signal.isSetAt, signal, Option.any_eq_true, decide_eq_true_eq]
  constructor
  · rintro ⟨first, hfirst, hle⟩
    have hseen : (c.handles first).isCancelled h = true := by simpa using List.find?_some hfirst
    exact c.isCancelled_handles hle hseen
  · intro hc
    have hmem : m ∈ Moment.all := by cases m <;> decide
    have hsome : (Moment.all.find? (fun m => (c.handles m).isCancelled h)).isSome := List.find?_isSome.2 ⟨m, hmem, hc⟩
    obtain ⟨first, hfirst⟩ := Option.isSome_iff_exists.1 hsome
    exact ⟨first, hfirst, Moment.rank_le_of_find?_eq_some hfirst hc⟩

end Course

/-! ## Checks -/

namespace Signal

variable {s : Signal}

/-- **A signal that is set is set from then on.** -/
theorem isSetAt_mono {m m' : Moment} (h : m.rank ≤ m'.rank) (hm : s.isSetAt m = true) : s.isSetAt m' = true := by
  simp only [isSetAt, Option.any_eq_true, decide_eq_true_eq] at hm ⊢
  obtain ⟨first, hfirst, hle⟩ := hm
  exact ⟨first, hfirst, Nat.le_trans hle h⟩

/-- What a run comes to: nothing if the signal is set at a moment, else what it comes to without a signal. -/
def outcome {α : Type} (s : Signal) (last : Moment) (x : Except Refusal α) : Except Refusal α :=
  if s.isSetAt last then .error .cancelled else x

variable {α : Type} {rest x : Except Refusal α} {last m : Moment}

theorem outcome_of_isSetAt (h : s.isSetAt last = true) : s.outcome last x = .error .cancelled := by
  rw [outcome, if_pos h]

theorem outcome_of_not_isSetAt (h : s.isSetAt last = false) : s.outcome last x = x := by
  rw [outcome, h, if_neg Bool.false_ne_true]

theorem check_last (a : α) : (do s.check last; pure a) = s.outcome last (.ok a) := by
  unfold check outcome
  split <;> rfl

/-- **A check in front of the last makes no difference.** -/
theorem check_bind (hm : m.rank ≤ last.rank) (hrest : rest = s.outcome last x) :
    (do s.check m; rest) = s.outcome last x := by
  cases hset : s.isSetAt m with
  | true =>
    rw [outcome_of_isSetAt (isSetAt_mono hm hset), check, if_pos hset]
    rfl
  | false =>
    rw [check, hset, if_neg Bool.false_ne_true]
    exact hrest

/-- **Nor does a delay**, whatever ends it first. -/
theorem waitOut_bind (winner : Winner) (hlast : Moment.endOfDelay.rank ≤ last.rank) (hrest : rest = s.outcome last x) :
    (do s.waitOut winner; rest) = s.outcome last x := by
  unfold waitOut
  split
  · rename_i hset
    have hend : s.isSetAt .endOfDelay = true := by
      rw [Bool.or_eq_true, Bool.and_eq_true] at hset
      rcases hset with hduring | hend
      · exact isSetAt_mono (by decide) hduring
      · exact hend.1
    rw [outcome_of_isSetAt (isSetAt_mono hlast hend)]
    rfl
  · exact hrest

end Signal

namespace Engine

variable {R F K : Type} [Queryable R F K]

/-- The moments at which a query looks at its signal. -/
def checks (delayed sorts : Bool) : List Moment :=
  [.beforeDelay] ++ (if delayed then [.duringDelay, .endOfDelay] else []) ++ [.beforeFilter, .afterFilter] ++
    if sorts then [.afterSort] else []

/-- The last of them. -/
def lastCheck (sorts : Bool) : Moment := if sorts then .afterSort else .afterFilter

theorem lastCheck_mem (delayed sorts : Bool) : lastCheck sorts ∈ checks delayed sorts := by
  cases delayed <;> cases sorts <;> decide

theorem endOfDelay_le_lastCheck (sorts : Bool) : Moment.endOfDelay.rank ≤ (lastCheck sorts).rank := by
  cases sorts <;> decide

/-- **A signal that is set at any check is set at the last.** -/
theorem exists_isSetAt_checks_iff (s : Signal) (delayed sorts : Bool) :
    (∃ m ∈ checks delayed sorts, s.isSetAt m = true) ↔ s.isSetAt (lastCheck sorts) = true := by
  have hlast : ∀ m ∈ checks delayed sorts, m.rank ≤ (lastCheck sorts).rank := by
    cases delayed <;> cases sorts <;> decide
  constructor
  · rintro ⟨m, hm, hset⟩
    exact Signal.isSetAt_mono (hlast m hm) hset
  · intro h
    exact ⟨lastCheck sorts, lastCheck_mem delayed sorts, h⟩

theorem run_eq_outcome (e : Engine R) (q : Request F) (p : Plan K) (s : Signal) :
    e.run q p s = s.outcome (lastCheck p.sort.isSome) (e.run q p .never) := by
  obtain ⟨w, sort, x⟩ := p
  cases sort with
  | none =>
    change _ = s.outcome .afterFilter _
    exact Signal.check_bind (by decide) (Signal.check_last _)
  | some k =>
    change _ = s.outcome .afterSort _
    exact Signal.check_bind (by decide) (Signal.check_bind (by decide) (Signal.check_last _))

theorem query_of_plan_eq_error {e : Engine R} {q : Request F} {r : Refusal} (hplan : plan R e.policy q = .error r)
    (delayed : Bool) (s : Signal) (winner : Winner) : e.query q delayed s winner = .error r := by
  rw [query, prepare, hplan]
  rfl

/-- A query that is in order looks at its signal first, and then may have to wait. -/
theorem query_of_plan {e : Engine R} {q : Request F} {p : Plan K} (hplan : plan R e.policy q = .ok p) (delayed : Bool)
    (s : Signal) (winner : Winner) : e.query q delayed s winner =
      (do
        s.check .beforeDelay
        if delayed then s.waitOut winner
        e.run q p s) := by
  rw [query, prepare, hplan]
  cases s.check .beforeDelay <;> rfl

/-- **A query that is in order comes to what it comes to without a signal, unless the signal is set at its last check.**
Neither the delay nor what ends it makes a difference. -/
theorem query_eq_outcome {e : Engine R} {q : Request F} {p : Plan K} (hplan : plan R e.policy q = .ok p) (delayed : Bool)
    (s : Signal) (winner : Winner) :
    e.query q delayed s winner = s.outcome (lastCheck p.sort.isSome) (e.execute q .never) := by
  have hexecute : e.execute q .never = e.run q p .never := by rw [execute, hplan]; rfl
  have hrun := run_eq_outcome e q p s
  have hbegin : Moment.beforeDelay.rank ≤ (lastCheck p.sort.isSome).rank := Nat.zero_le _
  rw [query_of_plan hplan, hexecute]
  refine Signal.check_bind hbegin ?_
  cases delayed with
  | false => exact hrun
  | true => exact Signal.waitOut_bind winner (endOfDelay_le_lastCheck _) hrun

theorem sorting_of_plan {policy : Policy} {q : Request F} {p : Plan K} (h : plan R policy q = .ok p) :
    sorting R policy q.sort = .ok p.sort := by
  obtain ⟨w, -, h⟩ := bind_eq_ok_iff.1 h
  obtain ⟨sort, hsort, h⟩ := bind_eq_ok_iff.1 h
  obtain ⟨x, -, h⟩ := bind_eq_ok_iff.1 h
  obtain rfl := Except.ok.inj h
  exact hsort

variable (R) in
/-- Does a request name a field that records can be sorted by? -/
def sorts (q : Request F) : Bool := q.sort.any (fun s => (Queryable.sortKey? (R := R) s.field).isSome)

theorem isSome_sort_of_plan {policy : Policy} {q : Request F} {p : Plan K} (h : plan R policy q = .ok p) :
    p.sort.isSome = sorts R q := by
  have hsort := sorting_of_plan h
  unfold sorts
  cases hq : q.sort with
  | none =>
    rw [hq] at hsort
    rw [← Except.ok.inj hsort]
    rfl
  | some s =>
    rw [hq] at hsort
    rw [Option.any_some]
    cases hkey : Queryable.sortKey? (R := R) s.field with
    | some key =>
      rw [sorting_of_key policy hkey] at hsort
      rw [← Except.ok.inj hsort]
      rfl
    | none =>
      cases policy with
      | strict =>
        rw [sorting_strict_of_no_key hkey] at hsort
        cases hsort
      | lenient =>
        rw [sorting_lenient_of_no_key hkey] at hsort
        rw [← Except.ok.inj hsort]
        rfl

theorem exists_plan_of_execute {e : Engine R} {q : Request F} {page : Page R} (h : e.execute q .never = .ok page) :
    ∃ p, plan R e.policy q = .ok p := by
  unfold execute at h
  cases hplan : plan R e.policy q with
  | error r => rw [hplan] at h; cases h
  | ok p => exact ⟨p, rfl⟩

theorem plan_of_execute_eq_error {e : Engine R} {q : Request F} {r : Refusal} (h : e.execute q .never = .error r) :
    plan R e.policy q = .error r := by
  unfold execute at h
  cases hplan : plan R e.policy q with
  | error r' =>
    rw [hplan] at h
    obtain rfl := Except.error.inj h
    rfl
  | ok p =>
    obtain ⟨found, -, hrun⟩ := run_never e q p
    rw [hplan] at h
    cases h.symm.trans hrun

theorem query_of_execute_eq_error {e : Engine R} {q : Request F} {r : Refusal} (h : e.execute q .never = .error r)
    (delayed : Bool) (s : Signal) (winner : Winner) : e.query q delayed s winner = .error r :=
  query_of_plan_eq_error (plan_of_execute_eq_error h) delayed s winner

theorem query_of_execute_eq_ok {e : Engine R} {q : Request F} {page : Page R} (h : e.execute q .never = .ok page)
    (delayed : Bool) (s : Signal) (winner : Winner) :
    e.query q delayed s winner = s.outcome (lastCheck (sorts R q)) (.ok page) := by
  obtain ⟨p, hplan⟩ := exists_plan_of_execute h
  rw [query_eq_outcome hplan, isSome_sort_of_plan hplan, h]

theorem query_never (e : Engine R) (q : Request F) (delayed : Bool) (winner : Winner) :
    e.query q delayed .never winner = e.execute q .never := by
  cases h : e.execute q .never with
  | error r => exact query_of_execute_eq_error h delayed .never winner
  | ok page => exact query_of_execute_eq_ok h delayed .never winner

/-- Setting a signal makes no difference to a query that holds a handle on another. -/
theorem queryDuring_cancel (e : Engine R) (q : Request F) (delayed : Bool) {c : Course} {h k : Nat}
    (hk : ¬(c.handles .afterSort).Shares h k) (winner : Winner) :
    e.queryDuring q delayed { c with start := c.start.cancel h } (some k) winner =
      e.queryDuring q delayed c (some k) winner := by
  have hsees : ∀ m, (Course.handles { c with start := c.start.cancel h } m).isCancelled k =
      (c.handles m).isCancelled k := by
    intro m
    refine Handles.isCancelled_cancel_after _ fun hshares => hk ?_
    have hlast : m.rank ≤ Moment.afterSort.rank := by cases m <;> decide
    obtain ⟨actions, hactions⟩ := c.exists_handles_eq_after hlast
    rw [hactions]
    exact Handles.shares_after actions hshares
  have hsignal : Course.signal { c with start := c.start.cancel h } k = c.signal k := by
    unfold Course.signal
    simp only [hsees]
  rw [queryDuring, queryDuring, Option.elim_some, Option.elim_some, hsignal]

/-- A query is cancelled through any handle on the signal of one that was used to cancel. -/
theorem queryDuring_of_cancel {e : Engine R} {q : Request F} {page : Page R} (hpage : e.execute q .never = .ok page)
    {s : Handles} {h k : Nat} {actions : List Handles.Action} {c : Course} (hlt : h < s.signals.length)
    (hstart : c.start = (s.cancel h).after actions) (hshares : (c.handles .beforeDelay).Shares h k) (delayed : Bool)
    (winner : Winner) : e.queryDuring q delayed c (some k) winner = .error .cancelled := by
  have hset : (c.signal k).isSetAt .beforeDelay = true := by
    rw [Course.isSetAt_signal, ← Handles.isCancelled_of_shares hshares, Course.handles, hstart]
    exact Handles.isCancelled_after _ (Handles.isCancelled_after _ (Handles.isCancelled_cancel hlt))
  rw [queryDuring, Option.elim_some, query_of_execute_eq_ok hpage]
  exact Signal.outcome_of_isSetAt (Signal.isSetAt_mono (Nat.zero_le _) hset)

theorem queryDuring_copy_of_cancel {e : Engine R} {q : Request F} {page : Page R} (hpage : e.execute q .never = .ok page)
    {s : Handles} {h : Nat} {earlier actions : List Handles.Action} {c : Course} (hlt : h < s.signals.length)
    (hstart : c.start = (((s.copy h).after earlier).cancel h).after actions) (delayed : Bool) (winner : Winner) :
    e.queryDuring q delayed c (some s.signals.length) winner = .error .cancelled := by
  have hcopy := Handles.shares_after earlier (Handles.shares_copy hlt)
  have hkept : h < ((s.copy h).after earlier).signals.length := by
    obtain ⟨i, hi, -⟩ := hcopy
    exact (List.getElem?_eq_some_iff.1 hi).1
  refine queryDuring_of_cancel hpage hkept hstart ?_ delayed winner
  rw [Course.handles, hstart]
  exact Handles.shares_after _ (Handles.shares_after actions (Handles.shares_after [.cancel h] hcopy))

/-- How a query obeys its signal. -/
structure Obeys (e : Engine R) (q : Request F) : Prop where
  /-- A request that is not in order is refused for that, whether or not the signal is set. -/
  refused : ∀ r, e.execute q .never = .error r → ∀ delayed s winner, e.query q delayed s winner = .error r
  cancelled : ∀ page, e.execute q .never = .ok page → ∀ delayed s winner,
    (∃ m ∈ checks delayed (sorts R q), s.isSetAt m = true) → e.query q delayed s winner = .error .cancelled
  answered : ∀ page, e.execute q .never = .ok page → ∀ delayed s winner,
    (∀ m ∈ checks delayed (sorts R q), s.isSetAt m = false) → e.query q delayed s winner = .ok page
  /-- A signal that is set when the delay is over is never missed. -/
  delay : ∀ page, e.execute q .never = .ok page → ∀ delayed s winner, s.isSetAt .endOfDelay = true →
    e.query q delayed s winner = .error .cancelled
  /-- A handle that was used to cancel cancels every later query, through itself and through every handle on its
  signal. -/
  later : ∀ page, e.execute q .never = .ok page → ∀ (s : Handles) (h k : Nat) (actions : List Handles.Action)
    (c : Course), h < s.signals.length → c.start = (s.cancel h).after actions →
      (c.handles .beforeDelay).Shares h k → ∀ delayed winner, e.queryDuring q delayed c (some k) winner = .error .cancelled
  /-- So does a copy that was made of it before. -/
  copied : ∀ page, e.execute q .never = .ok page → ∀ (s : Handles) (h : Nat) (earlier actions : List Handles.Action)
    (c : Course), h < s.signals.length → c.start = (((s.copy h).after earlier).cancel h).after actions →
      ∀ delayed winner, e.queryDuring q delayed c (some s.signals.length) winner = .error .cancelled
  without : ∀ delayed c winner, e.queryDuring q delayed c none winner = e.execute q .never
  others : ∀ (c : Course) (h k : Nat), ¬(c.handles .afterSort).Shares h k → ∀ delayed winner,
    e.queryDuring q delayed { c with start := c.start.cancel h } (some k) winner =
      e.queryDuring q delayed c (some k) winner

/-- **A query obeys its signal.**  It is cancelled exactly if it is in order and its signal is set at one of its checks;
else it is refused or answered as if there were no signal, whatever ends the delay. -/
theorem query_obeys_signal (e : Engine R) (q : Request F) :
    Obeys e q ∧ Refusal.cancelled.code = "CATALOG_QUERY_CANCELLED" := by
  refine ⟨⟨fun r h => query_of_execute_eq_error h, fun page h delayed s winner hset => ?_,
    fun page h delayed s winner hunset => ?_, fun page h delayed s winner hset => ?_,
    fun _ hpage _ _ _ _ _ => queryDuring_of_cancel hpage, fun _ hpage _ _ _ _ _ => queryDuring_copy_of_cancel hpage,
    fun delayed c winner => ?_,
    fun c h k hk delayed winner => queryDuring_cancel e q delayed hk winner⟩, rfl⟩
  · rw [query_of_execute_eq_ok h]
    exact Signal.outcome_of_isSetAt ((exists_isSetAt_checks_iff s delayed _).1 hset)
  · rw [query_of_execute_eq_ok h]
    exact Signal.outcome_of_not_isSetAt (hunset _ (lastCheck_mem delayed _))
  · rw [query_of_execute_eq_ok h]
    exact Signal.outcome_of_isSetAt (Signal.isSetAt_mono (endOfDelay_le_lastCheck _) hset)
  · rw [queryDuring, Option.elim_none]
    exact query_never e q delayed winner

/-- A copy of a handle that was used to cancel cancels a query whose delay would end first; a negative start is refused
all the same, and a signal that is set behind the filter comes too late for a query that does not sort. -/
theorem query_obeys_signal_shelf :
    let shelf : Engine Product := ⟨[⟨"p1", "s1", 0, 0, []⟩], .strict⟩
    let q : Request ProductFilter := ⟨none, none, none⟩
    let negative : Request ProductFilter := ⟨none, none, some ⟨-1, 5⟩⟩
    let cancelledThenCopied : Course := ⟨(Handles.empty.make.cancel 0).after [.copy 0], fun _ => []⟩
    shelf.queryDuring q true cancelledThenCopied (some 1) .timer = .error .cancelled ∧
      shelf.query negative true .always .signal = .error (.invalidPagination ⟨-1, 5⟩) ∧
      shelf.query q true ⟨some .afterSort⟩ .signal = shelf.execute q .never := by
  intro shelf q negative cancelledThenCopied
  have hq : shelf.execute q .never = .ok ⟨shelf.records, 1, ⟨0, 25⟩⟩ := rfl
  have hnegative : shelf.execute negative .never = .error (.invalidPagination ⟨-1, 5⟩) := rfl
  obtain ⟨hobeys, -⟩ := query_obeys_signal shelf q
  obtain ⟨hrefuses, -⟩ := query_obeys_signal shelf negative
  refine ⟨hobeys.later _ hq Handles.empty.make 0 1 [.copy 0] cancelledThenCopied (by decide) rfl ⟨0, rfl, rfl⟩ true .timer,
    hrefuses.refused _ hnegative true .always .signal, ?_⟩
  rw [hq]
  exact hobeys.answered _ hq true ⟨some .afterSort⟩ .signal (by decide)

end Engine
end ProductQuery
