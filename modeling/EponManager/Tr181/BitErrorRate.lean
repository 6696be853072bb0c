import EponManager.Tr181.StatsNames

/-!
# The bit error rate (`eponMgr_statsData_calculate_ber`)

The rate is the quotient of two integers that are computed from three counters of the link. The
computation is in 64 bits, and its only test is that the counter of the received bytes is not zero,
while the divisor is eight times that counter.

* `bitErrors_toNat` and `bits_toNat` say what the two integers are for all counters.
* `bits_eq_zero_iff`: exactly when the divisor is zero.
* `ber_exact_iff`: exactly when both integers are those of the formula.
-/

namespace EponManager.StatsData

open Lib

/-- The dividend, in 64 bits. -/
theorem bitErrors_toNat (fecCorrected fecUncorrectable : UInt64) :
    (fecCorrected + fecUncorrectable * 8).toNat =
      (fecCorrected.toNat + 8 * fecUncorrectable.toNat) % 2 ^ 64 := by
  rw [UInt64.toNat_add, UInt64.toNat_mul, Nat.add_mod_mod]
  show (fecCorrected.toNat + fecUncorrectable.toNat * 8) % 2 ^ 64 = _
  rw [Nat.mul_comm]

/-- The divisor, in 64 bits. -/
theorem bits_toNat (bytesReceived : UInt64) :
    (bytesReceived * 8).toNat = 8 * bytesReceived.toNat % 2 ^ 64 := by
  rw [UInt64.toNat_mul]
  show bytesReceived.toNat * 8 % 2 ^ 64 = _
  rw [Nat.mul_comm]

/-- The three lowest bits of a count of bits are zero, so it is zero whenever the lower 61 bits of
the bytes are. -/
theorem bits_eq_zero_iff (bytesReceived : UInt64) :
    bytesReceived * 8 = 0 ↔ 2 ^ 61 ∣ bytesReceived.toNat := by
  rw [← UInt64.toNat_inj, bits_toNat]
  show 8 * bytesReceived.toNat % 2 ^ 64 = 0 ↔ _
  omega

/-- **When the rate is computed exactly**: as long as bytes were received, the integers that are
divided are those of the formula if and only if the formula stays below `2 ^ 64`; then the divisor
is not zero. -/
theorem ber_exact_iff (s : LinkStats) (hreceived : 0 < s.bytesReceived) :
    ∃ totalBitErrors totalBits, calculateBer s = .quotient totalBitErrors totalBits ∧
      (totalBitErrors.toNat = s.fecCorrected.toNat + 8 * s.fecUncorrectable.toNat ∧
          totalBits.toNat = 8 * s.bytesReceived.toNat ∧ totalBits ≠ 0 ↔
        s.fecCorrected.toNat + 8 * s.fecUncorrectable.toNat < 2 ^ 64 ∧
          8 * s.bytesReceived.toNat < 2 ^ 64) := by
  have hpos : 0 < s.bytesReceived.toNat := UInt64.lt_iff_toNat_lt.mp hreceived
  have hne : s.bytesReceived ≠ 0 := by
    intro hzero
    rw [hzero] at hpos
    exact absurd hpos (Nat.lt_irrefl 0)
  refine ⟨_, _, if_neg hne, ?_⟩
  rw [bitErrors_toNat, bits_toNat, ne_eq, bits_eq_zero_iff]
  constructor
  · rintro ⟨herrors, hbits, -⟩
    constructor
    · rw [← herrors]
      exact Nat.mod_lt _ (Nat.two_pow_pos 64)
    · rw [← hbits]
      exact Nat.mod_lt _ (Nat.two_pow_pos 64)
  · rintro ⟨herrors, hbits⟩
    refine ⟨Nat.mod_eq_of_lt herrors, Nat.mod_eq_of_lt hbits, ?_⟩
    intro hdvd
    have hle := Nat.le_of_dvd hpos hdvd
    omega

/-- A thousand bytes, three corrected errors and one codeword that could not be corrected. -/
def thousandBytes : LinkStats :=
  { (default : LinkStats) with bytesReceived := 1000, fecCorrected := 3, fecUncorrectable := 1 }

theorem ber_exact_thousand :
    0 < thousandBytes.bytesReceived ∧ calculateBer thousandBytes = .quotient 11 8000 := by
  have hreceived : 0 < thousandBytes.bytesReceived := by decide
  obtain ⟨errors, bits, hber, hiff⟩ := ber_exact_iff thousandBytes hreceived
  obtain ⟨herrors, hbits, -⟩ := hiff.mpr (by decide)
  have herrors' : errors = 11 := UInt64.toNat_inj.mp herrors
  have hbits' : bits = 8000 := UInt64.toNat_inj.mp hbits
  rw [herrors', hbits'] at hber
  exact ⟨hreceived, hber⟩

/-- `2 ^ 61` bytes: no bits. -/
def manyBytes : LinkStats := { (default : LinkStats) with bytesReceived := 2305843009213693952 }

/-- The divisor is zero, and the dividend is as well; this is what a request is answered from. -/
theorem ber_divides_by_zero :
    0 < manyBytes.bytesReceived ∧ manyBytes.bytesReceived.toNat = 2 ^ 61 ∧
      calculateBer manyBytes = .quotient 0 0 ∧
      ∃ w', Prog.alone (Tr181.statsGetHandler Tr181.StatsParam.ber.name)
        (Tr181.reading manyBytes) World.ready =
          some (⟨.success, some (.ber (.quotient 0 0))⟩, w') := by
  refine ⟨by decide, rfl, rfl, ?_⟩
  obtain ⟨w', hget⟩ := Tr181.getLinkStats_reading manyBytes
  refine ⟨w', ?_⟩
  rw [Tr181.statsGetHandler_run World.ready_initialised hget, Tr181.answeredBy_name]
  rfl

end EponManager.StatsData
