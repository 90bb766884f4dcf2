import Gazetteer.Number.Fixed

/-!
# Durations

Spans of time in whole seconds and nanoseconds, up to the greatest that a 64-bit count of seconds
holds. A product that would lie beyond it is that greatest one. The text of a duration is a number
of the largest unit that it fills, with as many decimals as it needs.
-/

namespace Gazetteer

/-- The nanoseconds of a second. -/
def secondNanos : Nat := 1000000000

/-- A span of time. The nanoseconds are those beyond the last full second. -/
structure Duration where
  seconds : UInt64
  nanos : UInt32
  nanos_lt : nanos.toNat < 1000000000 := by decide
deriving DecidableEq

namespace Duration

/-- The length of a duration in nanoseconds. -/
def toNanos (d : Duration) : Nat :=
  d.seconds.toNat * secondNanos + d.nanos.toNat

/-- No time. -/
def zero : Duration where
  seconds := 0
  nanos := 0

/-- The greatest duration. -/
def greatest : Duration where
  seconds := 18446744073709551615
  nanos := 999999999

theorem ofNat_nanos_lt {n : Nat} (h : n < 1000000000) : (UInt32.ofNat n).toNat < 1000000000 := by
  have hsize : UInt32.size = 4294967296 := rfl
  rw [UInt32.toNat_ofNat_of_lt' (by omega)]
  exact h

/-- A number of milliseconds. -/
def ofMillis (ms : UInt64) : Duration where
  seconds := ms / 1000
  nanos := .ofNat (ms.toNat % 1000 * 1000000)
  nanos_lt := ofNat_nanos_lt (by omega)

/-- **A multiple of a duration**, or the greatest one. Full seconds of nanoseconds are carried. -/
def times (d : Duration) (factor : UInt32) : Duration :=
  let nanos := d.nanos.toNat * factor.toNat
  let seconds := d.seconds.toNat * factor.toNat + nanos / 1000000000
  if seconds < 18446744073709551616 then
    { seconds := .ofNat seconds
      nanos := .ofNat (nanos % 1000000000)
      nanos_lt := ofNat_nanos_lt (Nat.mod_lt _ (by decide)) }
  else greatest

/-- The digits of a fraction, given in units of the last place, without the zeros at their end. -/
def fractionDigits (places fraction : Nat) : List Char :=
  ((Number.paddedDigits places fraction).toList.reverse.dropWhile (· == '0')).reverse

/-- A number of units with a fraction in so many places. -/
def decimalText (whole places fraction : Nat) : String :=
  match fractionDigits places fraction with
  | [] => toString whole
  | digits => toString whole ++ "." ++ String.ofList digits

/-- **The text of a duration.** -/
def text (d : Duration) : String :=
  let nanos := d.nanos.toNat
  if d.seconds ≠ 0 then decimalText d.seconds.toNat 9 nanos ++ "s"
  else if 1000000 ≤ nanos then decimalText (nanos / 1000000) 6 (nanos % 1000000) ++ "ms"
  else if 1000 ≤ nanos then decimalText (nanos / 1000) 3 (nanos % 1000) ++ "µs"
  else toString nanos ++ "ns"

end Duration

end Gazetteer
