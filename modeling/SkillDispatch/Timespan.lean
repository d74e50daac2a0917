import SkillDispatch.Duration

set_option autoImplicit false

namespace SkillDispatch

/-- Seconds and nanoseconds; the nanoseconds are less than a second. -/
structure Timespan where
  seconds : UInt64
  nanos : UInt32
  nanos_lt : nanos.toNat < 1_000_000_000

namespace Timespan

def duration (span : Timespan) : Duration :=
  .ofSeconds span.seconds.toNat span.nanos.toNat

def millis (span : Timespan) : BitVec 128 :=
  span.seconds.toBitVec.setWidth 128 * 1000#128 +
    (span.nanos / 1_000_000).toBitVec.setWidth 128

/-- The milliseconds in 64 bits. A count that does not fit becomes the largest one that does. -/
def shortMillis (span : Timespan) : UInt64 :=
  if span.millis.toNat < UInt64.size then ⟨span.millis.setWidth 64⟩ else ⟨BitVec.allOnes 64⟩

/-- A part of a second in milliseconds is less than a second in nanoseconds. -/
theorem part_toNat (millis : UInt64) :
    ((millis % 1000).toUInt32 * 1_000_000).toNat = millis.toNat % 1000 * 1_000_000 := by
  simp only [UInt32.toNat_mul, UInt64.toNat_toUInt32, UInt64.toNat_mod, UInt64.toNat_ofNat,
    UInt32.toNat_ofNat, Nat.reducePow, Nat.reduceMod]
  omega

def ofMillis (millis : UInt64) : Timespan where
  seconds := millis / 1000
  nanos := (millis % 1000).toUInt32 * 1_000_000
  nanos_lt := by
    rw [part_toNat]
    omega

theorem duration_injective {first second : Timespan} (same : first.duration = second.duration) :
    first = second := by
  obtain ⟨seconds, nanos, nanos_lt⟩ := first
  obtain ⟨others, parts, parts_lt⟩ := second
  have total : seconds.toNat * 1_000_000_000 + nanos.toNat =
      others.toNat * 1_000_000_000 + parts.toNat := congrArg Duration.nanos same
  have sameSeconds : seconds = others := UInt64.toNat_inj.1 (by omega)
  have sameNanos : nanos = parts := UInt32.toNat_inj.1 (by omega)
  subst sameSeconds sameNanos
  rfl

theorem millis_toNat (span : Timespan) : span.millis.toNat = span.duration.millis := by
  have seconds := span.seconds.toNat_lt
  have nanos := span.nanos_lt
  have counted : span.millis.toNat = span.seconds.toNat * 1000 + span.nanos.toNat / 1_000_000 := by
    simp only [millis, BitVec.toNat_add, BitVec.toNat_mul, BitVec.toNat_setWidth,
      BitVec.toNat_ofNat, UInt64.toNat_toBitVec, UInt32.toNat_toBitVec, UInt32.toNat_div,
      UInt32.toNat_ofNat, Nat.reducePow, Nat.reduceMod]
    omega
  rw [counted]
  simp only [duration, Duration.millis, Duration.ofSeconds]
  omega

theorem shortMillis_toNat (span : Timespan) :
    span.shortMillis.toNat = min span.duration.millis (UInt64.size - 1) := by
  rw [shortMillis, millis_toNat]
  split
  · rename_i fits
    rw [← UInt64.toNat_toBitVec, BitVec.toNat_setWidth, millis_toNat]
    simp only [UInt64.size] at fits ⊢
    omega
  · rename_i tooMany
    simp only [UInt64.size] at tooMany ⊢
    rw [← UInt64.toNat_toBitVec, BitVec.toNat_allOnes]
    omega

theorem ofMillis_duration (millis : UInt64) :
    (ofMillis millis).duration = .ofMillis millis.toNat := by
  have seconds : (ofMillis millis).seconds.toNat = millis.toNat / 1000 := UInt64.toNat_div ..
  have nanos : (ofMillis millis).nanos.toNat = millis.toNat % 1000 * 1_000_000 := part_toNat millis
  rw [duration, seconds, nanos]
  simp only [Duration.ofSeconds, Duration.ofMillis, Duration.mk.injEq]
  omega

end Timespan

end SkillDispatch
