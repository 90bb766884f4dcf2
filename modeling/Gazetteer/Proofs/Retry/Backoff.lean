import Gazetteer.Proofs.Duration
import Gazetteer.Retry

/-!
# Pauses before retries

The pause before a retry is the base, doubled for every retry before it and at most sixteen times
(`toNat_doublings`). The factor is a word of its own (`toNat_factor`), so that all the arithmetic is
that of a multiple of a duration: **the pause is the exact product as long as a duration can be so
long, and the greatest duration beyond** (`delay_exact_up_to_greatest`). It grows with the retry and
with the base across that limit too.
-/

namespace Gazetteer.Retry

namespace Policy

/-- Doublings grow with the retries before this one, up to the most. The first retry has none, and
there is no retry with the number zero, which counts as the first. -/
theorem toNat_doublings (retry : UInt32) :
    (doublings retry).toNat = min (max retry.toNat 1 - 1) 16 := by
  have hzero : retry = 0 ↔ retry.toNat = 0 := UInt32.toNat_inj.symm
  have hmost : mostDoublings.toNat = 16 := rfl
  rw [doublings, UInt32.toNat_min]
  split
  next hfirst =>
    rw [hmost, hzero.mp hfirst]
    rfl
  next hlater =>
    have hone : (1 : UInt32) ≤ retry := by
      rw [UInt32.le_iff_toNat_le]
      exact Nat.pos_of_ne_zero (mt hzero.mpr hlater)
    have hpred : (retry - 1).toNat = retry.toNat - 1 := UInt32.toNat_sub_of_le _ _ hone
    rw [hpred, hmost]
    omega

theorem toNat_doublings_le (retry : UInt32) : (doublings retry).toNat ≤ 16 := by
  rw [toNat_doublings]
  exact Nat.min_le_right _ _

/-- **No bit of the factor is shifted out of its word**, which has 32 bits and is shifted by sixteen
at most. -/
theorem toNat_factor (retry : UInt32) :
    ((1 : UInt32) <<< doublings retry).toNat = 2 ^ (doublings retry).toNat := by
  have hle := toNat_doublings_le retry
  have hpow : 2 ^ (doublings retry).toNat ≤ 2 ^ 16 := Nat.pow_le_pow_right (by decide) hle
  have hamount : (doublings retry).toNat % 32 = (doublings retry).toNat :=
    Nat.mod_eq_of_lt (by omega)
  rw [UInt32.toNat_shiftLeft, hamount, UInt32.toNat_one, Nat.one_shiftLeft]
  exact Nat.mod_eq_of_lt (by omega)

/-! ## The length of a pause -/

/-- **The exact product**: a base in nanoseconds, doubled for every retry before this one, sixteen
times at most. -/
def product (base : Nat) (retry : UInt32) : Nat :=
  base * 2 ^ min (max retry.toNat 1 - 1) 16

theorem product_mono {base longer : Nat} {retry later : UInt32} (hbase : base ≤ longer)
    (hretry : retry ≤ later) :
    product base retry ≤ product longer later := by
  have hle : retry.toNat ≤ later.toNat := UInt32.le_iff_toNat_le.mp hretry
  exact Nat.mul_le_mul hbase (Nat.pow_le_pow_right (by decide) (by omega))

/-- The product is at most 65536 times the base, since sixteen doublings are the most. -/
theorem product_le (base : Nat) (retry : UInt32) : product base retry ≤ 65536 * base := by
  have hpow : 2 ^ min (max retry.toNat 1 - 1) 16 ≤ 2 ^ 16 :=
    Nat.pow_le_pow_right (by decide) (Nat.min_le_right _ _)
  rw [product, Nat.mul_comm 65536]
  exact Nat.mul_le_mul_left base hpow

/-- **A pause is as long as the product, or as long as a duration can be.** This is the one equation
that all other facts about pauses are read off. -/
theorem toNanos_delay (policy : Policy) (retry : UInt32) :
    (policy.delay retry).toNanos =
      min (product policy.base.toNanos retry) Duration.greatest.toNanos := by
  rw [delay, Duration.toNanos_times, toNat_factor, toNat_doublings, product]

/-- Pauses grow with the base and with the retry, across the longest duration too. -/
theorem delay_mono {policy other : Policy} {retry later : UInt32}
    (hbase : policy.base.toNanos ≤ other.base.toNanos)
    (hretry : retry ≤ later) : (policy.delay retry).toNanos ≤ (other.delay later).toNanos := by
  have hproduct := product_mono hbase hretry
  rw [toNanos_delay, toNanos_delay]
  omega

/-- A pause up to the greatest duration has the seconds and nanoseconds of the product, the carry
from one to the other included. -/
theorem delay_of_product_le {policy : Policy} {retry : UInt32}
    (h : product policy.base.toNanos retry ≤ Duration.greatest.toNanos) :
    (policy.delay retry).seconds.toNat = product policy.base.toNanos retry / secondNanos ∧
      (policy.delay retry).nanos.toNat = product policy.base.toNanos retry % secondNanos := by
  rw [Duration.seconds_eq_div, Duration.nanos_eq_mod, toNanos_delay, Nat.min_eq_left h]
  exact ⟨rfl, rfl⟩

/-- The product of a number of milliseconds is not the length of the greatest duration, which ends
in a nine. So a pause that is the greatest duration has been cut. -/
theorem product_ne_greatest (millis : Nat) (retry : UInt32) :
    product (millis * 1000000) retry ≠ Duration.greatest.toNanos := by
  rw [product, Nat.mul_right_comm, Duration.toNanos_greatest, secondNanos]
  omega

/-- A pause is the greatest duration exactly if the product is longer, provided that it is not just
as long. -/
theorem delay_eq_greatest_iff {policy : Policy} {retry : UInt32}
    (hne : product policy.base.toNanos retry ≠ Duration.greatest.toNanos) :
    policy.delay retry = Duration.greatest ↔
      Duration.greatest.toNanos < product policy.base.toNanos retry := by
  rw [← Duration.toNanos_inj, toNanos_delay]
  omega

/-- **Pauses are exact up to the greatest duration.** For all settings and every retry: the
doublings are fewer than a word has bits, and the factor is the power of two that they say. The
pause has the seconds and nanoseconds of the base times that factor where a duration can be so long,
and is the greatest duration exactly where the product is longer. A later retry or a longer base
never makes it shorter, and it is at most 65536 times the base.

A base of milliseconds is never as long as the greatest duration to the nanosecond, nor is any
product of one, and so the two cases exclude each other. -/
theorem delay_exact_up_to_greatest (settings : Settings) (retry : UInt32) :
    let policy := ofSettings settings
    let exact := product (settings.retryBaseMillis.toNat * 1000000) retry
    ((doublings retry).toNat < 32 ∧
      ((1 : UInt32) <<< doublings retry).toNat = 2 ^ min (max retry.toNat 1 - 1) 16) ∧
    (exact ≤ Duration.greatest.toNanos →
      (policy.delay retry).seconds.toNat = exact / secondNanos ∧
        (policy.delay retry).nanos.toNat = exact % secondNanos) ∧
    (policy.delay retry = Duration.greatest ↔ Duration.greatest.toNanos < exact) ∧
    (∀ later, retry ≤ later → (policy.delay retry).toNanos ≤ (policy.delay later).toNanos) ∧
    (∀ other : Settings, settings.retryBaseMillis ≤ other.retryBaseMillis →
      (policy.delay retry).toNanos ≤ ((ofSettings other).delay retry).toNanos) ∧
    (policy.delay retry).toNanos ≤ 65536 * (settings.retryBaseMillis.toNat * 1000000) := by
  intro policy exact
  have hbase (s : Settings) : (ofSettings s).base.toNanos = s.retryBaseMillis.toNat * 1000000 :=
    Duration.toNanos_ofMillis s.retryBaseMillis
  have hexact : product policy.base.toNanos retry = exact :=
    congrArg (product · retry) (hbase settings)
  refine ⟨⟨?amount, ?factor⟩, ?carry, ?cap, ?later, ?longer, ?most⟩
  case amount => exact Nat.lt_of_le_of_lt (toNat_doublings_le retry) (by decide)
  case factor => rw [toNat_factor, toNat_doublings]
  case carry =>
    rw [← hexact]
    exact delay_of_product_le
  case cap =>
    rw [← hexact]
    exact delay_eq_greatest_iff (hexact ▸ product_ne_greatest _ retry)
  case later => exact fun later => delay_mono (Nat.le_refl _)
  case longer =>
    intro other hother
    refine delay_mono ?_ (UInt32.le_refl retry)
    rw [hbase, hbase]
    exact Nat.mul_le_mul_right 1000000 (UInt64.le_iff_toNat_le.mp hother)
  case most =>
    rw [toNanos_delay, hexact]
    exact Nat.le_trans (Nat.min_le_left _ _) (product_le _ retry)

/-- The longest base that can be set is doubled nine times without loss, and ten times is too
much. -/
theorem delay_exact_up_to_greatest_longest :
    let policy := ofSettings { retryBaseMillis := 18446744073709551615 }
    (policy.delay 10).seconds = 9444732965739290426 ∧ (policy.delay 10).nanos = 880000000 ∧
      policy.delay 11 = Duration.greatest ∧
        (policy.delay 10).toNanos ≤ (policy.delay 11).toNanos := by
  intro policy
  obtain ⟨-, hcarry, -, hlater, -⟩ :=
    delay_exact_up_to_greatest { retryBaseMillis := 18446744073709551615 } 10
  obtain ⟨-, -, hcap, -⟩ :=
    delay_exact_up_to_greatest { retryBaseMillis := 18446744073709551615 } 11
  obtain ⟨hseconds, hnanos⟩ := hcarry (by decide)
  refine ⟨UInt64.toNat_inj.mp
    (hseconds.trans (by decide)), UInt32.toNat_inj.mp (hnanos.trans (by decide)), ?_, ?_⟩
  · exact hcap.mpr (by decide)
  · exact hlater 11 (by decide)

end Policy

end Gazetteer.Retry
