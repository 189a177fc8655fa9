/-!
# `WeatherStation.WallClock`: the time of day from the uptime

The clock is set to a number of seconds since the epoch at some uptime, and goes on with the
uptime from there. Uptimes are in milliseconds.
-/

set_option autoImplicit false

namespace WeatherStation

/-- Port of the time servers. -/
def sntpPort : UInt16 := 123

/-- Attempts to set the clock at boot before the station resets. -/
def syncAttempts : Nat := 8

/-- Seconds after which the clock is set again. -/
def resyncPeriodSecs : Nat := 3600

/-- A clock. -/
structure WallClock where
  /-- Seconds since the epoch when the clock was set. -/
  epoch : Nat := 0
  /-- Uptime when the clock was set. -/
  uptime : Nat := 0
  isSynced : Bool := false
  deriving DecidableEq, Repr, Inhabited

namespace WallClock

/-- Set the clock. -/
def set (_ : WallClock) (epoch uptime : Nat) : WallClock := ⟨epoch, uptime, true⟩

/-- Set the clock from a source that may have failed, and learn whether it did not. -/
def sync (c : WallClock) (source : Option Nat) (uptime : Nat) : Bool × WallClock :=
  match source with
  | some epoch => (true, c.set epoch uptime)
  | none => (false, c)

/-- Seconds since the epoch at an uptime. The sum is made without a check, of numbers of 64 bits,
and `now_lt` says that it has no more bits itself. -/
def now (c : WallClock) (uptime : Nat) : Nat := c.epoch + (uptime - c.uptime) / 1000

/-- At an uptime of 64 bits the time of day has 64 bits too, unless the clock was set to a time in
the upper half of what 64 bits can hold. -/
theorem now_lt {c : WallClock} {uptime : Nat} (hepoch : c.epoch < 0x8000000000000000)
    (huptime : uptime < 0x10000000000000000) : c.now uptime < 0x10000000000000000 := by
  rw [now]
  omega

/-- Whether the clock was never set, or not for `period` seconds. -/
def needsResync (c : WallClock) (uptime period : Nat) : Bool :=
  !c.isSynced || decide (period * 1000 ≤ uptime - c.uptime)

end WallClock

end WeatherStation
