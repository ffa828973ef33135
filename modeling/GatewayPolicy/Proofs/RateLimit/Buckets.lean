import GatewayPolicy.Proofs.RateLimit.Units

/-!
# Quotas as buckets

A quota spread over a window of seconds gives the greatest rate that the quota
pays for, and one token per second where it pays for none.  The window is long
enough for twice the rate to be a word, so the burst capacity never saturates.
A limit is a quota if it is positive, and otherwise the quota zero.
-/

set_option autoImplicit false

namespace GatewayPolicy.TokenBucket

/-- The bucket grants what the quota pays for in each second of the window, at
least one token, and twice that at once. -/
structure Spreads (window quota : Nat) (bucket : TokenBucket) : Prop where
  one_le_rate : 1 ≤ bucket.replenishRate.toNat
  burst : bucket.burstCapacity.toNat = 2 * bucket.replenishRate.toNat
  paid : window ≤ quota → bucket.replenishRate.toNat * window ≤ quota
  greatest : window ≤ quota →
    quota < (bucket.replenishRate.toNat + 1) * window
  floor : quota < window → bucket.replenishRate.toNat = 1

section Quota

variable (unit : IntervalUnit) (quota : UInt64)

/-! ## Rate and burst -/

theorem one_lt_windowSeconds : 1 < unit.windowSeconds.toNat := by
  cases unit <;> decide

theorem toNat_rate :
    (forQuota unit quota).replenishRate.toNat =
      max (quota.toNat / unit.windowSeconds.toNat) 1 := by
  have one : (1 : UInt64).toNat = 1 := rfl
  have larger (share : UInt64) : max share 1 = if share ≤ 1 then 1 else share :=
    rfl
  rw [← UInt64.toNat_div, forQuota, larger]
  dsimp only
  split <;> next order =>
    rw [UInt64.le_iff_toNat_le, one] at order
    omega

theorem double_rate_lt :
    (forQuota unit quota).replenishRate.toNat * 2 < UInt64.size := by
  have window := one_lt_windowSeconds unit
  have word : quota.toNat < UInt64.size := quota.toNat_lt
  have half : quota.toNat / unit.windowSeconds.toNat * 2 ≤ quota.toNat := by
    calc quota.toNat / unit.windowSeconds.toNat * 2
        ≤ quota.toNat / unit.windowSeconds.toNat * unit.windowSeconds.toNat :=
          Nat.mul_le_mul_left _ window
      _ ≤ quota.toNat := Nat.div_mul_le_self _ _
  have size : 2 < UInt64.size := by decide
  rw [toNat_rate]
  omega

theorem toNat_saturatingDouble {rate : UInt64}
    (fits : rate.toNat * 2 < UInt64.size) :
    (saturatingDouble rate).toNat = 2 * rate.toNat := by
  rw [saturatingDouble, if_pos fits, UInt64.toNat_mul, Nat.mul_comm 2]
  exact Nat.mod_eq_of_lt fits

theorem toNat_burst :
    (forQuota unit quota).burstCapacity.toNat =
      2 * (forQuota unit quota).replenishRate.toNat :=
  toNat_saturatingDouble (double_rate_lt unit quota)

theorem spreads_forQuota :
    Spreads unit.windowSeconds.toNat quota.toNat (forQuota unit quota) := by
  have window : 0 < unit.windowSeconds.toNat :=
    Nat.lt_of_succ_lt (one_lt_windowSeconds unit)
  have paying (reached : unit.windowSeconds.toNat ≤ quota.toNat) :
      (forQuota unit quota).replenishRate.toNat =
        quota.toNat / unit.windowSeconds.toNat := by
    rw [toNat_rate, Nat.max_eq_left (Nat.div_pos reached window)]
  refine ⟨?_, toNat_burst unit quota, ?_, ?_, ?_⟩
  · rw [toNat_rate]
    exact Nat.le_max_right _ _
  · intro reached
    rw [paying reached]
    exact Nat.div_mul_le_self _ _
  · intro reached
    rw [paying reached, Nat.mul_comm]
    exact Nat.lt_mul_div_succ _ window
  · -- a quota below the window pays for nothing, and one token is granted
    intro missed
    rw [toNat_rate, Nat.div_eq_of_lt missed]
    rfl

end Quota

theorem rate_le_of_le (unit : IntervalUnit) {quota more : UInt64}
    (le : quota ≤ more) :
    (forQuota unit quota).replenishRate ≤
      (forQuota unit more).replenishRate := by
  rw [UInt64.le_iff_toNat_le] at le ⊢
  rw [toNat_rate, toNat_rate]
  have shares := Nat.div_le_div_right (c := unit.windowSeconds.toNat) le
  omega

theorem burst_le_of_le (unit : IntervalUnit) {quota more : UInt64}
    (le : quota ≤ more) :
    (forQuota unit quota).burstCapacity ≤
      (forQuota unit more).burstCapacity := by
  have rates := UInt64.le_iff_toNat_le.mp (rate_le_of_le unit le)
  rw [UInt64.le_iff_toNat_le, toNat_burst, toNat_burst]
  exact Nat.mul_le_mul_left 2 rates

/-! ## Limits -/

theorem toNat_quotaOfLimit (limit : Int64) :
    ((quotaOfLimit limit).toNat : Int) = max limit.toInt 0 := by
  have zero : (0 : Int64).toInt = 0 := rfl
  rw [quotaOfLimit]
  split
  · next negative =>
      rw [Int64.le_iff_toInt_le, zero] at negative
      rw [Int.max_eq_right negative]
      rfl
  · next positive =>
      rw [Int64.le_iff_toInt_le, zero] at positive
      have nonneg : 0 ≤ limit := by
        rw [Int64.le_iff_toInt_le, zero]
        omega
      rw [Int64.toNat_toUInt64_of_le nonneg, Int.max_eq_left (by omega)]
      exact Int.toNat_of_nonneg (by omega)

theorem ofLimit_eq_ok_iff (written : String) (limit : Int64)
    (bucket : TokenBucket) :
    ofLimit written limit = .ok bucket ↔
      ∃ unit : IntervalUnit, unit.IsWritten written ∧
        bucket = forQuota unit (quotaOfLimit limit) := by
  simp only [← IntervalUnit.parse_eq_ok_iff, ofLimit]
  cases IntervalUnit.parse written with
  | error issue => simp [Except.map]
  | ok unit =>
      simp only [Except.map, Except.ok.injEq, exists_eq_left']
      exact eq_comm

/-- For every unit and every quota the rate and the burst capacity are tight,
and neither falls when the quota grows.  A written unit and a limit make the
bucket of the unit for the limit, or for zero where the limit is negative. -/
theorem buckets_are_tight :
    (∀ (unit : IntervalUnit) (quota : UInt64),
      Spreads unit.windowSeconds.toNat quota.toNat (forQuota unit quota)) ∧
    (∀ (unit : IntervalUnit) (quota more : UInt64), quota ≤ more →
      (forQuota unit quota).replenishRate ≤
          (forQuota unit more).replenishRate ∧
        (forQuota unit quota).burstCapacity ≤
          (forQuota unit more).burstCapacity) ∧
    ∀ (written : String) (limit : Int64) (bucket : TokenBucket),
      ofLimit written limit = .ok bucket ↔
        ∃ (unit : IntervalUnit) (quota : UInt64), unit.IsWritten written ∧
          (quota.toNat : Int) = max limit.toInt 0 ∧
          bucket = forQuota unit quota := by
  refine ⟨spreads_forQuota, ?_, ?_⟩
  · intro unit quota more le
    exact ⟨rate_le_of_le unit le, burst_le_of_le unit le⟩
  · intro written limit bucket
    rw [ofLimit_eq_ok_iff]
    constructor
    · rintro ⟨unit, writes, rfl⟩
      exact ⟨unit, quotaOfLimit limit, writes, toNat_quotaOfLimit limit, rfl⟩
    · rintro ⟨unit, quota, writes, same, rfl⟩
      have quotas : quota = quotaOfLimit limit := by
        apply UInt64.toNat_inj.mp
        exact Int.ofNat_inj.mp (same.trans (toNat_quotaOfLimit limit).symm)
      exact ⟨unit, writes, by rw [quotas]⟩

/-- One request less than a day has seconds and the greatest word, both spread
over a day. -/
theorem greatest_daily_quota_is_no_less :
    (86399 : UInt64) ≤ 18446744073709551615 ∧
    (forQuota .days 86399).replenishRate = 1 ∧
    (forQuota .days 18446744073709551615).replenishRate = 213503982334601 ∧
    (forQuota .days 86399).replenishRate ≤
      (forQuota .days 18446744073709551615).replenishRate ∧
    (forQuota .days 86399).burstCapacity ≤
      (forQuota .days 18446744073709551615).burstCapacity := by
  have le : (86399 : UInt64) ≤ 18446744073709551615 := by decide
  exact ⟨le, by decide, by decide, buckets_are_tight.2.1 .days _ _ le⟩

end GatewayPolicy.TokenBucket
