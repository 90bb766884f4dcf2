import Gazetteer.Duration
import Mathlib.Algebra.Order.Ring.Nat

/-!
# Durations by their length

A duration is its length in nanoseconds, split into full seconds and what is left (`seconds_eq_div`,
`nanos_eq_mod`), and there is one for each length up to the greatest. So a multiple is said by its
length: **it is exact up to the greatest duration, and that one beyond** (`toNanos_times`).
-/

namespace Gazetteer.Duration

/-- The greatest duration is one nanosecond short of `2 ^ 64` seconds. -/
theorem toNanos_greatest : greatest.toNanos = 2 ^ 64 * secondNanos - 1 := by decide

/-! ## Full seconds and what is left -/

/-- The full seconds of a length. Nanoseconds never make a full second, which is what the field of a
duration says of them. -/
theorem seconds_eq_div (d : Duration) : d.seconds.toNat = d.toNanos / secondNanos := by
  have hnanos := d.nanos_lt
  rw [toNanos, secondNanos]
  omega

theorem nanos_eq_mod (d : Duration) : d.nanos.toNat = d.toNanos % secondNanos := by
  have hnanos := d.nanos_lt
  rw [toNanos, secondNanos]
  omega

/-- **Durations of one length are one duration**, since there is never a full second among the
nanoseconds. -/
theorem toNanos_inj {d e : Duration} : d.toNanos = e.toNanos ↔ d = e := by
  constructor
  · intro h
    have hseconds : d.seconds = e.seconds := by
      rw [← UInt64.toNat_inj, seconds_eq_div, seconds_eq_div, h]
    have hnanos : d.nanos = e.nanos := by
      rw [← UInt32.toNat_inj, nanos_eq_mod, nanos_eq_mod, h]
    cases d
    cases e
    cases hseconds
    cases hnanos
    rfl
  · rintro rfl
    rfl

/-! ## Lengths of durations that are made -/

theorem toNat_ofNat_nanos {nanos : Nat} (h : nanos < 1000000000) :
    (UInt32.ofNat nanos).toNat = nanos :=
  UInt32.toNat_ofNat_of_lt' (Nat.lt_trans h (by decide))

/-- A duration of milliseconds is so long: no number of them that a word can say is too great for a
duration. -/
theorem toNanos_ofMillis (millis : UInt64) :
    (ofMillis millis).toNanos = millis.toNat * 1000000 := by
  have hseconds : (millis / 1000).toNat = millis.toNat / 1000 := UInt64.toNat_div millis 1000
  have hnanos : (UInt32.ofNat (millis.toNat % 1000 * 1000000)).toNat =
      millis.toNat % 1000 * 1000000 :=
    toNat_ofNat_nanos (by omega)
  rw [toNanos, ofMillis, hseconds, hnanos, secondNanos]
  omega

/-- A multiple of a length, with the full seconds among its nanoseconds carried. Both products are
of numbers and not of words, so that nothing is lost before the carry. -/
theorem toNanos_mul (d : Duration) (factor : Nat) :
    d.toNanos * factor =
      (d.seconds.toNat * factor + d.nanos.toNat * factor / 1000000000) * secondNanos +
        d.nanos.toNat * factor % 1000000000 := by
  rw [toNanos, Nat.add_mul, Nat.mul_right_comm, Nat.add_mul, Nat.add_assoc, secondNanos,
    Nat.div_add_mod']

/-- **A multiple is exact up to the greatest duration**, and that one beyond. Its seconds, with the
carry of its nanoseconds, fit their word exactly if the multiple is no longer than a duration can
be. -/
theorem toNanos_times (d : Duration) (factor : UInt32) :
    (d.times factor).toNanos = min (d.toNanos * factor.toNat) greatest.toNanos := by
  have hleft : d.nanos.toNat * factor.toNat % 1000000000 < 1000000000 := Nat.mod_lt _ (by decide)
  rw [toNanos_mul, times]
  split
  next hfits =>
    have hseconds := UInt64.toNat_ofNat_of_lt' hfits
    have hnanos := toNat_ofNat_nanos hleft
    rw [toNanos, hseconds, hnanos, toNanos_greatest, secondNanos]
    omega
  next hbeyond =>
    rw [toNanos_greatest, secondNanos]
    omega

end Gazetteer.Duration
