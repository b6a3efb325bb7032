import ProductQuery.Proofs.AcceptedSettings
/-!
# Proofs.DelayBounds — how long a query has to wait

Settings are accepted if the least delay is not above the greatest, both in milliseconds.  The delay itself is drawn
from microseconds of 64 bits (`next?_random`).  So every draw keeps to the bounds exactly if the least of them is below
what 64 bits keep of the greatest (`staysWithin_random_iff`), which holds of all bounds up to half a million years.
Beyond, a draw may be shorter than the least delay, or there may be nothing to draw from.
-/
namespace ProductQuery

namespace Delay

/-- Every draw gives a duration, from the first bound up to, and without, the second. -/
def StaysWithin (d : Delay) (least most : Nat) : Prop :=
  ∀ draw, ∃ duration, d.next? draw = some duration ∧ least ≤ duration ∧ duration < most

variable {least most : Nat}

theorem next?_random (draw : Draw) (h : least < most) : (Delay.random least most).next? draw =
    if UInt64.ofNat least < UInt64.ofNat most then some (draw.pick (UInt64.ofNat least) (UInt64.ofNat most)).toNat
    else Option.none := by
  rw [next?, if_neg (Nat.not_le_of_lt h)]

theorem ofNat_lt_ofNat_iff : UInt64.ofNat least < UInt64.ofNat most ↔ least % UInt64.size < most % UInt64.size := by
  rw [UInt64.lt_iff_toNat_lt, UInt64.toNat_ofNat', UInt64.toNat_ofNat']

theorem isSome_next?_random_iff (draw : Draw) (h : least < most) :
    ((Delay.random least most).next? draw).isSome ↔ least % UInt64.size < most % UInt64.size := by
  rw [next?_random draw h, ← ofNat_lt_ofNat_iff]
  split
  · rename_i hlt
    simp [hlt]
  · rename_i hlt
    simp [hlt]

/-- Is there a delay to draw?  For a random one, 64 bits must keep its bounds apart, unless they leave no choice. -/
def CanBeDrawn : Delay → Prop
  | .none => True
  | .fixed _ => True
  | .random least most => most ≤ least ∨ least % UInt64.size < most % UInt64.size

/-- Whether there is a delay to draw does not depend on the draw. -/
theorem isSome_next?_iff (d : Delay) (draw : Draw) : (d.next? draw).isSome ↔ d.CanBeDrawn := by
  cases d with
  | none => exact iff_of_true rfl trivial
  | fixed duration => exact iff_of_true rfl trivial
  | random least most =>
    rw [CanBeDrawn]
    by_cases h : most ≤ least
    · rw [next?, if_pos h]
      exact iff_of_true rfl (.inl h)
    · rw [isSome_next?_random_iff draw (Nat.lt_of_not_le h)]
      exact (or_iff_right h).symm

/-- **A random delay stays within its bounds exactly if the least is below what 64 bits keep of the greatest.** -/
theorem staysWithin_random_iff (h : least < most) :
    (Delay.random least most).StaysWithin least most ↔ least < most % UInt64.size := by
  constructor
  · intro hstays
    -- The least draw is what 64 bits keep of the least bound, so they must keep all of it.
    obtain ⟨duration, hnext, hleast, -⟩ := hstays .least
    rw [next?_random _ h] at hnext
    split at hnext
    · rename_i hlt
      have hduration : least % UInt64.size = duration := by
        rw [← UInt64.toNat_ofNat']
        exact Option.some.inj hnext
      have hmod := ofNat_lt_ofNat_iff.1 hlt
      omega
    · cases hnext
  · intro hlt draw
    have hsize : most % UInt64.size < UInt64.size := Nat.mod_lt _ (by decide)
    have hkept : least % UInt64.size = least := Nat.mod_eq_of_lt (by omega)
    have hbounds : UInt64.ofNat least < UInt64.ofNat most := ofNat_lt_ofNat_iff.2 (by omega)
    obtain ⟨hpickLeast, hpickMost⟩ := draw.within _ _ hbounds
    rw [UInt64.le_iff_toNat_le, UInt64.toNat_ofNat', hkept] at hpickLeast
    rw [UInt64.lt_iff_toNat_lt, UInt64.toNat_ofNat'] at hpickMost
    refine ⟨_, by rw [next?_random draw h, if_pos hbounds], hpickLeast, ?_⟩
    have hmost : most % UInt64.size ≤ most := Nat.mod_le _ _
    omega

end Delay

namespace Latency

variable {l : Latency}

theorem delay_of_disabled (h : l.enabled = false) : l.delay = .none := by
  rw [delay, h]
  rfl

theorem delay_of_eq (henabled : l.enabled = true) (h : l.minMs = l.maxMs) : l.delay = .fixed (micros l.minMs) := by
  rw [delay, henabled, if_pos h]
  rfl

theorem delay_of_ne (henabled : l.enabled = true) (h : l.minMs ≠ l.maxMs) :
    l.delay = .random (micros l.minMs) (micros l.maxMs) := by
  rw [delay, henabled, if_neg h]
  rfl

theorem micros_lt_micros {a b : UInt64} (h : a ≤ b) (hne : a ≠ b) : micros a < micros b := by
  have hle := UInt64.le_iff_toNat_le.1 h
  have htoNat : a.toNat ≠ b.toNat := fun heq => hne (UInt64.toNat_inj.1 heq)
  rw [micros, micros]
  omega

/-- The greatest number of milliseconds whose microseconds fit into 64 bits. -/
def longestMs : Nat := 18446744073709551

end Latency

namespace Config

variable {text : List Symbol} {c : Config}

theorem minMs_le_of_check (h : c.check = .ok ()) (henabled : c.latency.enabled = true) :
    c.latency.minMs ≤ c.latency.maxMs := by
  obtain ⟨-, -, h⟩ := bind_eq_ok_iff.1 h
  obtain ⟨-, -, h⟩ := bind_eq_ok_iff.1 h
  obtain ⟨-, -, h⟩ := bind_eq_ok_iff.1 h
  rw [← UInt64.not_lt]
  intro hlt
  rw [checkLatency, if_pos ⟨henabled, hlt⟩] at h
  cases h

/-- Settings that name the documents and say how long queries wait. -/
def waiting (minMs maxMs : UInt64) : Config := ⟨"p.json", "a.json", .standard, .strict, ⟨true, minMs, maxMs⟩⟩

theorem check_waiting {minMs maxMs : UInt64} (h : minMs ≤ maxMs) : (waiting minMs maxMs).check = .ok () := by
  have hproducts : checkPath "products_path" "p.json" = .ok () := checkPath_of_head rfl (by rw [blanks_eq]; decide)
  have hattributes : checkPath "attributes_path" "a.json" = .ok () := checkPath_of_head rfl (by rw [blanks_eq]; decide)
  have hservice : ServiceConfig.standard.check.mapError ConfigFault.service = .ok () := rfl
  have hlatency : checkLatency ⟨true, minMs, maxMs⟩ = .ok () := by
    rw [checkLatency, if_neg]
    rintro ⟨-, hlt⟩
    exact UInt64.not_lt.2 h hlt
  simp only [check, waiting, hproducts, hattributes, hservice, hlatency]
  rfl

/-- **How long accepted settings make a query wait.**  Not at all without latency, and exactly the one bound if both are
the same.  Else a draw stays within the bounds exactly if the least is below what 64 bits keep of the greatest, as it is
if the greatest fits into 64 bits; and there is something to draw from exactly if 64 bits keep the bounds apart. -/
theorem delay_keeps_bounds_iff (h : ofSymbols text = .ok c) :
    (c.latency.enabled = false → ∀ draw, c.latency.delay.next? draw = some 0) ∧
    (c.latency.enabled = true → c.latency.minMs = c.latency.maxMs →
      ∀ draw, c.latency.delay.next? draw = some (Latency.micros c.latency.minMs)) ∧
    (c.latency.enabled = true → c.latency.minMs ≠ c.latency.maxMs →
      (c.latency.delay.StaysWithin (Latency.micros c.latency.minMs) (Latency.micros c.latency.maxMs) ↔
        Latency.micros c.latency.minMs < Latency.micros c.latency.maxMs % UInt64.size) ∧
      (c.latency.maxMs.toNat ≤ Latency.longestMs →
        c.latency.delay.StaysWithin (Latency.micros c.latency.minMs) (Latency.micros c.latency.maxMs)) ∧
      ∀ draw, (c.latency.delay.next? draw).isSome ↔
        Latency.micros c.latency.minMs % UInt64.size < Latency.micros c.latency.maxMs % UInt64.size) := by
  refine ⟨fun hdisabled draw => ?_, fun henabled heq draw => ?_, fun henabled hne => ?_⟩
  · rw [Latency.delay_of_disabled hdisabled]
    rfl
  · rw [Latency.delay_of_eq henabled heq]
    rfl
  · have hlt := Latency.micros_lt_micros (minMs_le_of_check (ofSymbols_eq_ok_iff.1 h).2 henabled) hne
    have hwithin := Delay.staysWithin_random_iff hlt
    rw [Latency.delay_of_ne henabled hne]
    refine ⟨hwithin, fun hlongest => ?_, fun draw => Delay.isSome_next?_random_iff draw hlt⟩
    have hkept : Latency.micros c.latency.maxMs % UInt64.size = Latency.micros c.latency.maxMs := by
      rw [Latency.longestMs] at hlongest
      rw [Latency.micros, UInt64.size]
      omega
    rw [hwithin, hkept]
    exact hlt

/-- The widest bounds that fit into 64 bits are kept. -/
theorem delay_keeps_bounds_widest :
    let text := Symbol.ofText ("\x7b\"products_path\":\"p.json\",\"attributes_path\":\"a.json\",\"latency\":" ++
      "\x7b\"min_ms\":0,\"max_ms\":18446744073709551\x7d\x7d")
    ofSymbols text = .ok (waiting 0 18446744073709551) ∧
      (waiting 0 18446744073709551).latency.delay.StaysWithin 0 18446744073709551000 := by
  intro text
  have hread : ofSymbols text = .ok (waiting 0 18446744073709551) :=
    ofSymbols_eq_ok_iff.2 ⟨eq_ok_of_toOption (by decide +kernel), check_waiting (by decide)⟩
  obtain ⟨-, -, hrandom⟩ := delay_keeps_bounds_iff hread
  obtain ⟨-, hfits, -⟩ := hrandom rfl (by decide)
  exact ⟨hread, hfits (by decide)⟩

/-- The least bounds beyond 64 bits are accepted, and every draw from them is shorter than the least delay. -/
theorem delay_falls_below_bounds :
    let text := Symbol.ofText ("\x7b\"products_path\":\"p.json\",\"attributes_path\":\"a.json\",\"latency\":" ++
      "\x7b\"min_ms\":18446744073709552,\"max_ms\":18446744073709553\x7d\x7d")
    ∃ c, ofSymbols text = .ok c ∧ c.latency = ⟨true, 18446744073709552, 18446744073709553⟩ ∧
      ∀ draw, ∃ duration, c.latency.delay.next? draw = some duration ∧
        duration < Latency.micros c.latency.minMs := by
  intro text
  have hread : ofSymbols text = .ok (waiting 18446744073709552 18446744073709553) :=
    ofSymbols_eq_ok_iff.2 ⟨eq_ok_of_toOption (by decide +kernel), check_waiting (by decide)⟩
  refine ⟨_, hread, rfl, fun draw => ?_⟩
  -- 64 bits keep 384 and 1384 microseconds of the bounds.
  have hkept : UInt64.ofNat 18446744073709552000 < UInt64.ofNat 18446744073709553000 := by decide
  obtain ⟨-, hpick⟩ := draw.within _ _ hkept
  have hlt := UInt64.lt_iff_toNat_lt.1 hpick
  refine ⟨_, (Delay.next?_random draw (by decide)).trans (if_pos hkept), Nat.lt_trans hlt (by decide)⟩

-- Bounds of one millisecond and just beyond 64 bits leave nothing to draw from.
example : (waiting 1 18446744073709552).latency.delay.next? .least = none := by decide

end Config
end ProductQuery
