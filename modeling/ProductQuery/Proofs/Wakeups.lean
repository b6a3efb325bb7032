import ProductQuery.Query.Token
/-!
# Proofs.Wakeups — no waiter sleeps through a cancellation

A waiter that found the flag unset had asked before the flag was set, so every notification that a canceller sends comes
after its question.  This is what a waiter knows of the shared state (`Waiter.IsSound`), and every step of every party
keeps it (`State.Invariant.run`).  So once a cancellation is complete no waiter is stuck, and each returns after five steps
of its own, whatever the others do (`no_wakeup_lost`).
-/
namespace ProductQuery
namespace Token

open Function (update_self update_of_ne)

/-! ## What a waiter knows -/

/-- What a waiter has found agrees with what is shared.  One that found the flag unset asked before any notification of a
canceller. -/
inductive Waiter.IsSound (s : State) : Waiter → Prop
  | start : IsSound s .start
  | asking {n : Nat} (h : n ≤ s.sent) : IsSound s (.asking n)
  | sawSet {n : Nat} (h : s.flag = true) : IsSound s (.checked n true)
  | sawUnset {n : Nat} (h : n ≤ s.sent) (hnotified : s.isCancelled → n < s.sent) : IsSound s (.checked n false)
  | blocked {n : Nat} (h : n ≤ s.sent) (hnotified : s.isCancelled → n < s.sent) : IsSound s (.blocked n)
  | returned (h : s.flag = true) : IsSound s .returned

/-- A waiter stays sound while others set the flag and send notifications, as long as no canceller finishes without
one. -/
theorem Waiter.IsSound.mono {s t : State} {w : Waiter} (h : w.IsSound s) (hflag : s.flag = true → t.flag = true)
    (hsent : s.sent ≤ t.sent) (hcancelled : t.isCancelled → s.isCancelled ∨ s.sent < t.sent) : w.IsSound t := by
  have hnotified : ∀ {n}, n ≤ s.sent → (s.isCancelled → n < s.sent) → t.isCancelled → n < t.sent := by
    intro n hn hlt ht
    rcases hcancelled ht with hc | hmore
    · exact Nat.lt_of_lt_of_le (hlt hc) hsent
    · exact Nat.lt_of_le_of_lt hn hmore
  cases h with
  | start => exact .start
  | asking h => exact .asking (Nat.le_trans h hsent)
  | sawSet h => exact .sawSet (hflag h)
  | sawUnset h hlt => exact .sawUnset (Nat.le_trans h hsent) (hnotified h hlt)
  | blocked h hlt => exact .blocked (Nat.le_trans h hsent) (hnotified h hlt)
  | returned h => exact .returned (hflag h)

/-- The flag is set by cancellers alone, and every waiter is sound. -/
structure State.Invariant (s : State) : Prop where
  flag : s.flag = true ↔ ∃ c, s.cancellers c ≠ .start
  sound : ∀ i, (s.waiters i).IsSound s

namespace State

variable {s : State}

theorem Invariant.flag_of_isCancelled (hs : s.Invariant) (h : s.isCancelled) : s.flag = true := by
  obtain ⟨c, hc⟩ := h
  exact hs.flag.2 ⟨c, by rw [hc]; exact Canceller.noConfusion⟩

/-- **A waiter stays sound by its own step.** -/
theorem Invariant.isSound_wait (hs : s.Invariant) {w : Waiter} (h : w.IsSound s) : (s.wait w).IsSound s := by
  cases h with
  | start => exact .asking (Nat.le_refl _)
  | @asking n h =>
    rw [wait]
    cases hflag : s.flag with
    | true => exact .sawSet hflag
    | false =>
      -- The flag is not set yet, so no canceller can have finished.
      refine .sawUnset h fun hc => ?_
      rw [hs.flag_of_isCancelled hc] at hflag
      cases hflag
  | sawSet h => exact .returned h
  | sawUnset h hlt => exact .blocked h hlt
  | @blocked n h hlt =>
    rw [wait]
    by_cases hn : n < s.sent
    · rw [if_pos hn]
      exact .start
    · rw [if_neg hn]
      exact .blocked h hlt
  | returned h => exact .returned h

/-! ## Steps and runs -/

theorem Invariant.initial : State.initial.Invariant where
  flag := iff_of_false Bool.false_ne_true fun ⟨_, h⟩ => h rfl
  sound _ := .start

/-- **Every step of every party keeps what the waiters know.** -/
theorem Invariant.act (hs : s.Invariant) (p : Party) : (s.act p).Invariant := by
  cases p with
  | waiter i =>
    have hmono : ∀ {w : Waiter}, w.IsSound s → w.IsSound (s.act (.waiter i)) := fun h =>
      h.mono id (Nat.le_refl _) .inl
    refine ⟨hs.flag, (Function.forall_update_iff s.waiters fun _ w => w.IsSound (s.act (.waiter i))).2 ⟨?_, ?_⟩⟩
    · exact hmono (hs.isSound_wait (hs.sound i))
    · exact fun j _ => hmono (hs.sound j)
  | canceller c =>
    rw [State.act]
    split
    · rename_i hstart
      have hnot : Function.update s.cancellers c .flagSet c ≠ .start := by
        rw [update_self]
        exact Canceller.noConfusion
      refine ⟨iff_of_true rfl ⟨c, hnot⟩, fun i => (hs.sound i).mono (fun _ => rfl) (Nat.le_refl _) ?_⟩
      rintro ⟨d, hd⟩
      have hdc : d ≠ c := by
        rintro rfl
        cases (update_self d Canceller.flagSet s.cancellers).symm.trans hd
      exact .inl ⟨d, (update_of_ne hdc _ _).symm.trans hd⟩
    · rename_i hset
      have hflag : s.flag = true := hs.flag.2 ⟨c, by rw [hset]; exact Canceller.noConfusion⟩
      have hnot : Function.update s.cancellers c .finished c ≠ .start := by
        rw [update_self]
        exact Canceller.noConfusion
      exact ⟨iff_of_true hflag ⟨c, hnot⟩,
        fun i => (hs.sound i).mono id (Nat.le_succ _) fun _ => .inr (Nat.lt_succ_self _)⟩
    · exact hs

theorem Invariant.after (hs : s.Invariant) (schedule : List Party) : (s.after schedule).Invariant := by
  induction schedule generalizing s with
  | nil => exact hs
  | cons p rest ih => exact ih (hs.act p)

theorem Invariant.run (schedule : List Party) : (Token.run schedule).Invariant := Invariant.initial.after schedule

theorem flag_act (p : Party) (h : s.flag = true) : (s.act p).flag = true := by
  cases p with
  | waiter i => exact h
  | canceller c =>
    rw [act]
    split
    · rfl
    · exact h
    · exact h

/-- **A flag that is set stays set.** -/
theorem flag_after (schedule : List Party) (h : s.flag = true) : (s.after schedule).flag = true := by
  induction schedule generalizing s with
  | nil => exact h
  | cons p rest ih => exact ih (flag_act p h)

theorem isCancelled_act (p : Party) (h : s.isCancelled) : (s.act p).isCancelled := by
  obtain ⟨d, hd⟩ := h
  cases p with
  | waiter i => exact ⟨d, hd⟩
  | canceller c =>
    rw [act]
    split
    · rename_i hstart
      have hdc : d ≠ c := by
        rintro rfl
        cases hstart.symm.trans hd
      exact ⟨d, (update_of_ne hdc _ _).trans hd⟩
    · exact ⟨c, update_self _ _ _⟩
    · exact ⟨d, hd⟩

/-! ## After a cancellation -/

theorem Invariant.not_isStuck (hs : s.Invariant) (h : s.isCancelled) (i : Nat) : ¬s.isStuck i := by
  rintro ⟨n, hblocked, hn⟩
  have hsound := hs.sound i
  rw [hblocked] at hsound
  cases hsound with
  | blocked _ hlt => exact hn (hlt h)

end State

/-- How many steps a waiter is away from returning, once it is notified and the flag is set. -/
def Waiter.stepsLeft : Waiter → Nat
  | .returned => 0
  | .checked _ true => 1
  | .asking _ => 2
  | .start => 3
  | .blocked _ => 4
  | .checked _ false => 5

theorem Waiter.eq_returned_of_stepsLeft {w : Waiter} (h : w.stepsLeft = 0) : w = .returned := by
  cases w with
  | returned => rfl
  | checked n seen => cases seen <;> cases h
  | _ => cases h

theorem Waiter.stepsLeft_le (w : Waiter) : w.stepsLeft ≤ 5 := by
  cases w with
  | checked n seen => cases seen <;> simp [stepsLeft]
  | _ => simp [stepsLeft]

namespace State

variable {s : State}

/-- **Once a cancellation is complete no step of a waiter is in vain.** -/
theorem Invariant.stepsLeft_wait (hs : s.Invariant) (h : s.isCancelled) {w : Waiter} (hw : w.IsSound s) :
    (s.wait w).stepsLeft = w.stepsLeft - 1 := by
  cases hw with
  | asking => rw [wait, hs.flag_of_isCancelled h]; rfl
  | blocked _ hlt => rw [wait, if_pos (hlt h)]; rfl
  | _ => rfl

theorem Invariant.stepsLeft_act (hs : s.Invariant) (h : s.isCancelled) (p : Party) (i : Nat) :
    ((s.act p).waiters i).stepsLeft = (s.waiters i).stepsLeft - if p = .waiter i then 1 else 0 := by
  cases p with
  | waiter j =>
    by_cases hij : i = j
    · subst hij
      rw [if_pos rfl, ← hs.stepsLeft_wait h (hs.sound i)]
      exact congrArg Waiter.stepsLeft (update_self _ _ _)
    · rw [if_neg fun hp => hij (Party.waiter.inj hp).symm]
      exact congrArg Waiter.stepsLeft (update_of_ne hij _ _)
  | canceller c =>
    rw [if_neg Party.noConfusion, State.act]
    split <;> rfl

/-- However others go on, a waiter comes nearer to returning by each of its own steps. -/
theorem Invariant.stepsLeft_after (hs : s.Invariant) (h : s.isCancelled) (schedule : List Party) (i : Nat) :
    ((s.after schedule).waiters i).stepsLeft = (s.waiters i).stepsLeft - schedule.count (.waiter i) := by
  induction schedule generalizing s with
  | nil => rfl
  | cons p rest ih =>
    have hrest := ih (hs.act p) (isCancelled_act p h)
    have hcount : (p :: rest).count (.waiter i) = rest.count (.waiter i) + if p = .waiter i then 1 else 0 := by
      simp [List.count_cons]
    rw [hs.stepsLeft_act h p i, Nat.sub_sub, Nat.add_comm, ← hcount] at hrest
    exact hrest

end State

/-- **No wakeup is lost.**  However the steps of any number of waiters and cancellers mix: once a cancellation is
complete no waiter is blocked without a notification since it asked, and every waiter returns after at most five more
steps of its own.  A waiter has returned only if the flag is set, only a canceller sets it, and it stays set. -/
theorem no_wakeup_lost (schedule : List Party) :
    ((run schedule).isCancelled → ∀ i, ¬(run schedule).isStuck i) ∧
    (∀ i, (run schedule).waiters i = .returned → (run schedule).flag = true) ∧
    ((run schedule).flag = true ↔ ∃ c, (run schedule).cancellers c ≠ .start) ∧
    (∀ later, (run schedule).flag = true → (run (schedule ++ later)).flag = true) ∧
    ∀ later i, (run schedule).isCancelled → 5 ≤ later.count (.waiter i) →
      (run (schedule ++ later)).waiters i = .returned := by
  have hs := State.Invariant.run schedule
  have happend : ∀ later, run (schedule ++ later) = (run schedule).after later := fun later => List.foldl_append
  refine ⟨hs.not_isStuck, fun i hi => ?_, hs.flag, fun later h => ?_, fun later i h hcount => ?_⟩
  · have hsound := hs.sound i
    rw [hi] at hsound
    cases hsound with
    | returned h => exact h
  · rw [happend]
    exact State.flag_after later h
  · have hleft := hs.stepsLeft_after h later i
    have hle := ((run schedule).waiters i).stepsLeft_le
    rw [happend]
    exact Waiter.eq_returned_of_stepsLeft (by omega)

/-- A waiter reads the flag just before a cancellation and blocks just after it. -/
theorem no_wakeup_lost_between :
    let schedule : List Party := [.waiter 0, .waiter 0, .canceller 0, .canceller 0, .waiter 0]
    let later : List Party := List.replicate 5 (.waiter 0)
    (run schedule).isCancelled ∧ (run schedule).waiters 0 = .blocked 0 ∧ ¬(run schedule).isStuck 0 ∧
      5 ≤ later.count (.waiter 0) ∧ (run (schedule ++ later)).waiters 0 = .returned := by
  intro schedule later
  have hcancelled : (run schedule).isCancelled := ⟨0, rfl⟩
  have hcount : 5 ≤ later.count (.waiter 0) := by decide
  obtain ⟨hstuck, -, -, -, hreturned⟩ := no_wakeup_lost schedule
  exact ⟨hcancelled, rfl, hstuck hcancelled 0, hcount, hreturned later 0 hcancelled hcount⟩

end Token
end ProductQuery
