set_option autoImplicit false

namespace SkillDispatch

structure Duration where
  nanos : Nat
  deriving DecidableEq

namespace Duration

def ofMillis (millis : Nat) : Duration := ⟨millis * 1_000_000⟩

def ofSeconds (seconds nanos : Nat) : Duration := ⟨seconds * 1_000_000_000 + nanos⟩

def millis (duration : Duration) : Nat := duration.nanos / 1_000_000

/-- The millisecond at which a timer for a duration goes off: the first one at which the duration is
over. -/
def timerMillis (duration : Duration) : Nat := (duration.nanos + 999_999) / 1_000_000

theorem timerMillis_eq_zero_iff (duration : Duration) :
    duration.timerMillis = 0 ↔ duration.nanos = 0 := by
  simp only [timerMillis]
  omega

/-- A quantity in units of `10 ^ places` parts, with as many places as it takes. -/
def inUnits (places : Nat) (parts : Nat) : String :=
  let unit := Nat.pow 10 places
  let fraction := (toString (unit + parts % unit)).toList.drop 1
  let shown := (fraction.reverse.dropWhile fun digit => digit = '0').reverse
  toString (parts / unit) ++ if shown.isEmpty then "" else String.ofList ('.' :: shown)

/-- The duration in the largest unit of which it holds at least one. -/
protected def toString (duration : Duration) : String :=
  if 1_000_000_000 ≤ duration.nanos then inUnits 9 duration.nanos ++ "s"
  else if 1_000_000 ≤ duration.nanos then inUnits 6 duration.nanos ++ "ms"
  else if 1000 ≤ duration.nanos then inUnits 3 duration.nanos ++ "µs"
  else inUnits 0 duration.nanos ++ "ns"

instance : ToString Duration :=
  ⟨Duration.toString⟩

end Duration

end SkillDispatch
