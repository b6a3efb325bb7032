import Mathlib.Algebra.Group.Nat.Defs
import ProductQuery.Binary64
/-!
# Proofs.IntegerRounding — integers as doubles

The double nearest to an integer keeps its order and little else.  Rounding is monotone (`value_ofInt_mono`), and it is
exact up to `2^53` in either direction (`value_ofInt_of_natAbs_le`).  Beyond, integers of 64 bits are moved by half of
1024 at most, so two that become one double are no more than 1024 apart (`sub_le_of_value_ofInt_eq`).
-/
namespace ProductQuery
namespace Binary64

/-! ## The nearest multiple -/

variable {n m d : Nat}

theorem divNearest_cases (n d : Nat) :
    (divNearest n d = n / d ∧ 2 * (n % d) ≤ d) ∨ (divNearest n d = n / d + 1 ∧ d ≤ 2 * (n % d)) := by
  unfold divNearest
  dsimp only
  split
  · exact .inl ⟨rfl, by omega⟩
  · split
    · exact .inr ⟨rfl, by omega⟩
    · rcases Nat.mod_two_eq_zero_or_one (n / d) with h | h
      · exact .inl ⟨by omega, by omega⟩
      · exact .inr ⟨by omega, by omega⟩

/-- The nearest multiple is off by half a step at most. -/
theorem divNearest_error (n : Nat) (hd : 0 < d) :
    2 * (divNearest n d * d) ≤ 2 * n + d ∧ 2 * n ≤ 2 * (divNearest n d * d) + d := by
  have hn : n / d * d + n % d = n := by rw [Nat.mul_comm, Nat.div_add_mod]
  have hr : n % d < d := Nat.mod_lt n hd
  rcases divNearest_cases n d with ⟨h, hhalf⟩ | ⟨h, hhalf⟩
  · rw [h]
    omega
  · have hsucc : (n / d + 1) * d = n / d * d + d := Nat.succ_mul _ _
    rw [h]
    omega

theorem divNearest_mul_self (k : Nat) (hd : 0 < d) : divNearest (k * d) d = k := by
  unfold divNearest
  simp [Nat.mul_div_cancel k hd, hd]

theorem divNearest_mono (hd : 0 < d) (h : n ≤ m) : divNearest n d ≤ divNearest m d := by
  refine Nat.le_of_not_lt fun hlt => ?_
  have hstep : (divNearest m d + 1) * d ≤ divNearest n d * d := Nat.mul_le_mul_right d hlt
  have hsucc : (divNearest m d + 1) * d = divNearest m d * d + d := Nat.succ_mul _ _
  have hn := (divNearest_error n hd).1
  have hm := (divNearest_error m hd).2
  -- The two errors make up a whole step only if there is nothing between the numerators.
  have heq : n = m := by omega
  rw [heq] at hlt
  exact Nat.lt_irrefl _ hlt

/-! ## Rounding to 53 significant bits -/

variable {u v k : Nat}

theorem round_one (u : Nat) : round u 1 = divNearest u (2 ^ excess u) * 2 ^ excess u := by
  simp [round]

@[simp]
theorem round_zero : round 0 1 = 0 := by simp [round_one, divNearest]

theorem round_of_dvd (h : 2 ^ excess u ∣ u) : round u 1 = u := by
  have hq : u / 2 ^ excess u * 2 ^ excess u = u := Nat.div_mul_cancel h
  have hnearest := divNearest_mul_self (u / 2 ^ excess u) (Nat.two_pow_pos (excess u))
  rw [hq] at hnearest
  rw [round_one, hnearest, hq]

@[simp]
theorem round_two_pow (k : Nat) : round (2 ^ k) 1 = 2 ^ k := by
  apply round_of_dvd
  apply Nat.pow_dvd_pow
  rw [excess, Nat.log2_two_pow]
  exact Nat.sub_le _ _

theorem round_le_two_pow (h : u ≤ 2 ^ k) (hk : u.log2 ≤ k) : round u 1 ≤ 2 ^ k := by
  have hexcess : excess u ≤ k := Nat.le_trans (Nat.sub_le _ _) hk
  have hsplit : 2 ^ k = 2 ^ (k - excess u) * 2 ^ excess u := by rw [← Nat.pow_add]; congr 1; omega
  -- The power is itself a multiple of the step to which the number is rounded.
  rw [round_one, hsplit]
  apply Nat.mul_le_mul_right
  rw [← divNearest_mul_self (2 ^ (k - excess u)) (Nat.two_pow_pos (excess u)), ← hsplit]
  exact divNearest_mono (Nat.two_pow_pos _) h

theorem two_pow_log2_le_round (hu : u ≠ 0) : 2 ^ u.log2 ≤ round u 1 := by
  have hsplit : 2 ^ u.log2 = 2 ^ (u.log2 - excess u) * 2 ^ excess u := by
    rw [← Nat.pow_add, excess]
    congr 1
    omega
  rw [round_one, hsplit]
  apply Nat.mul_le_mul_right
  rw [← divNearest_mul_self (2 ^ (u.log2 - excess u)) (Nat.two_pow_pos (excess u)), ← hsplit]
  exact divNearest_mono (Nat.two_pow_pos _) (Nat.log2_self_le hu)

/-- **Rounding keeps the order.** -/
theorem round_mono (h : u ≤ v) : round u 1 ≤ round v 1 := by
  by_cases hu : u = 0
  · rw [hu, round_zero]
    exact Nat.zero_le _
  have hv : v ≠ 0 := by omega
  have hlog : u.log2 ≤ v.log2 := (Nat.le_log2 hv).2 (Nat.le_trans (Nat.log2_self_le hu) h)
  by_cases hexcess : excess u = excess v
  · rw [round_one, round_one, hexcess]
    exact Nat.mul_le_mul_right _ (divNearest_mono (Nat.two_pow_pos _) h)
  · -- The numbers keep different bits, so there is a power of two between them.
    have hlt : u.log2 + 1 ≤ v.log2 := by
      unfold excess at hexcess
      omega
    calc round u 1 ≤ 2 ^ (u.log2 + 1) := round_le_two_pow (Nat.le_of_lt Nat.lt_log2_self) (Nat.le_succ _)
      _ ≤ 2 ^ v.log2 := Nat.pow_le_pow_right (by decide) hlt
      _ ≤ round v 1 := two_pow_log2_le_round hv

/-! ## Magnitudes of integers -/

theorem log2_mul_two_pow (h : n ≠ 0) (k : Nat) : (n * 2 ^ k).log2 = n.log2 + k := by
  have hne : n * 2 ^ k ≠ 0 := Nat.mul_ne_zero h (Nat.ne_of_gt (Nat.two_pow_pos k))
  rw [Nat.log2_eq_iff hne, Nat.pow_add, Nat.add_right_comm, Nat.pow_add]
  exact ⟨Nat.mul_le_mul_right _ (Nat.log2_self_le h), Nat.mul_lt_mul_of_pos_right Nat.lt_log2_self (Nat.two_pow_pos k)⟩

theorem exists_one_eq : ∃ k, one = 2 ^ k := by
  unfold one
  generalize 1074 = k
  exact ⟨k, Nat.pow_eq⟩

theorem one_pos : 0 < one := by
  obtain ⟨k, hk⟩ := exists_one_eq
  rw [hk]
  exact Nat.two_pow_pos k

/-- Up to `2^53` every natural number is a double. -/
theorem round_mul_one (h : n ≤ 2 ^ 53) : round (n * one) 1 = n * one := by
  obtain ⟨k, hk⟩ := exists_one_eq
  rw [hk]
  by_cases hn : n = 0
  · rw [hn, Nat.zero_mul, round_zero]
  by_cases hlast : n = 2 ^ 53
  · rw [hlast, ← Nat.pow_add, round_two_pow]
  · apply round_of_dvd
    have hlog : n.log2 < 53 := (Nat.log2_lt hn).2 (by omega)
    have hexcess : excess (n * 2 ^ k) ≤ k := by
      rw [excess, log2_mul_two_pow hn]
      omega
    exact Nat.dvd_mul_left_of_dvd (Nat.pow_dvd_pow 2 hexcess) n

theorem round_mul_one_error (h : n ≤ 2 ^ 63) :
    2 * round (n * one) 1 ≤ 2 * (n * one) + 1024 * one ∧ 2 * (n * one) ≤ 2 * round (n * one) 1 + 1024 * one := by
  obtain ⟨k, hk⟩ := exists_one_eq
  rw [hk]
  by_cases hn : n = 0
  · rw [hn, Nat.zero_mul, round_zero]
    omega
  -- The last number has a bit more than the others, but it is a power of two.
  by_cases hlast : n = 2 ^ 63
  · rw [hlast, ← Nat.pow_add, round_two_pow]
    omega
  · have hlog : n.log2 < 63 := (Nat.log2_lt hn).2 (by omega)
    have hexcess : excess (n * 2 ^ k) ≤ 10 + k := by
      rw [excess, log2_mul_two_pow hn]
      omega
    have hstep : 2 ^ excess (n * 2 ^ k) ≤ 1024 * 2 ^ k := by
      rw [show 1024 = 2 ^ 10 from rfl, ← Nat.pow_add]
      exact Nat.pow_le_pow_right (by decide) hexcess
    have herror := divNearest_error (n * 2 ^ k) (Nat.two_pow_pos (excess (n * 2 ^ k)))
    rw [← round_one] at herror
    omega

/-! ## Integers -/

variable {i j : Int}

theorem value_ofInt (i : Int) :
    (ofInt i).value = if i < 0 then -(round (i.natAbs * one) 1 : Int) else round (i.natAbs * one) 1 := by
  unfold value ofInt
  by_cases h : i < 0 <;> simp [h]

/-- **Rounding an integer to a double keeps the order.** -/
theorem value_ofInt_mono (h : i ≤ j) : (ofInt i).value ≤ (ofInt j).value := by
  rw [value_ofInt, value_ofInt]
  by_cases hi : i < 0
  · by_cases hj : j < 0
    · have hround : round (j.natAbs * one) 1 ≤ round (i.natAbs * one) 1 :=
        round_mono (Nat.mul_le_mul_right _ (by omega))
      rw [if_pos hi, if_pos hj]
      omega
    · rw [if_pos hi, if_neg hj]
      omega
  · have hround : round (i.natAbs * one) 1 ≤ round (j.natAbs * one) 1 :=
      round_mono (Nat.mul_le_mul_right _ (by omega))
    rw [if_neg hi, if_neg (by omega)]
    omega

/-- **Up to `2^53` in either direction an integer is a double.** -/
theorem value_ofInt_of_natAbs_le (h : i.natAbs ≤ 2 ^ 53) : (ofInt i).value = i * one := by
  rw [value_ofInt, round_mul_one h, Int.natCast_mul]
  by_cases hi : i < 0
  · rw [if_pos hi, ← Int.neg_mul]
    congr 1
    omega
  · rw [if_neg hi]
    congr 1
    omega

/-- An integer of 64 bits is moved by half of 1024 at most. -/
theorem value_ofInt_error (h : i.natAbs ≤ 2 ^ 63) :
    2 * (ofInt i).value ≤ 2 * (i * one) + 1024 * one ∧ 2 * (i * one) ≤ 2 * (ofInt i).value + 1024 * one := by
  obtain ⟨habove, hbelow⟩ := round_mul_one_error h
  have hcast : ((i.natAbs * one : Nat) : Int) = i.natAbs * one := Int.natCast_mul _ _
  rw [value_ofInt]
  by_cases hi : i < 0
  · have hneg : i * (one : Int) = -(i.natAbs * one) := by
      rw [← Int.neg_mul]
      congr 1
      omega
    rw [if_pos hi, hneg, ← hcast]
    omega
  · have hpos : i * (one : Int) = i.natAbs * one := by
      congr 1
      omega
    rw [if_neg hi, hpos, ← hcast]
    omega

/-- **Integers of 64 bits that become one double are no more than 1024 apart.** -/
theorem sub_le_of_value_ofInt_eq (hi : i.natAbs ≤ 2 ^ 63) (hj : j.natAbs ≤ 2 ^ 63)
    (h : (ofInt i).value = (ofInt j).value) : j - i ≤ 1024 := by
  have hbelow := (value_ofInt_error hi).1
  have habove := (value_ofInt_error hj).2
  have hscaled : (j - i) * one ≤ 1024 * one := by
    rw [Int.sub_mul]
    omega
  exact Int.le_of_mul_le_mul_right hscaled (Int.natCast_pos.2 one_pos)

/-- **An integer below `2^53` shares its double with no other integer**, and neither do two integers up to `2^53`. -/
theorem eq_of_value_ofInt_eq (h : (ofInt i).value = (ofInt j).value)
    (hi : i.natAbs < 2 ^ 53 ∨ i.natAbs ≤ 2 ^ 53 ∧ j.natAbs ≤ 2 ^ 53) : i = j := by
  rcases hi with hi | ⟨hi, hj⟩
  · have hexact := value_ofInt_of_natAbs_le (Nat.le_of_lt hi)
    -- The neighbours of the integer are doubles too, so rounding keeps everything beyond them apart.
    rcases Int.lt_trichotomy i j with hlt | heq | hgt
    · have hnext := value_ofInt_of_natAbs_le (i := i + 1) (by omega)
      have hmono := value_ofInt_mono (i := i + 1) (j := j) (by omega)
      rw [hnext, ← h, hexact, Int.add_mul] at hmono
      have hone := one_pos
      omega
    · exact heq
    · have hprevious := value_ofInt_of_natAbs_le (i := i - 1) (by omega)
      have hmono := value_ofInt_mono (i := j) (j := i - 1) (by omega)
      rw [hprevious, ← h, hexact, Int.sub_mul] at hmono
      have hone := one_pos
      omega
  · rw [value_ofInt_of_natAbs_le hi, value_ofInt_of_natAbs_le hj] at h
    exact Int.eq_of_mul_eq_mul_right (Int.ne_of_gt (Int.natCast_pos.2 one_pos)) h

end Binary64
end ProductQuery
