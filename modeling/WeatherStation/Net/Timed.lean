import WeatherStation.Time

/-!
# `WeatherStation.Net.Timed`: computations that take time

What the station asks of the network takes time and may never come to an end. `Timed` holds
the three things that such a computation can do with the clock. The modules of this folder are
written over any monad with them, so that the same definitions run on the bench and are
reasoned about with scripted replies.
-/

set_option autoImplicit false

namespace WeatherStation.Net

/-- Computations with an uptime clock. -/
class Timed (m : Type → Type) where
  /-- The uptime. -/
  now : m Micros
  /-- Wait. -/
  pause : Micros → m Unit
  /-- Run a computation for at most some time. What comes at the last moment still counts;
  after that the computation is dropped and there is no result. -/
  within {α : Type} : Micros → m α → m (Option α)

end WeatherStation.Net
