import WeatherStation.Bench.Bed

/-!
# `WeatherStation.Bench.LinkRig`: the link manager on the bed

The rig runs the link manager over the radio of the bed. Callbacks are numbers, and the rig
notes which of them were run.
-/

set_option autoImplicit false

namespace WeatherStation.Bench

open Net

/-- The link manager and what it is connected to. -/
structure LinkRig where
  bed : Bed
  wifi : Wifi Nat := {}
  /-- The callbacks that were run, latest first. -/
  lost : List Nat := []

namespace LinkRig

/-- Join a network; no result if that never comes to an end. -/
def connect (r : LinkRig) (a : AccessPoint) : Option (Except WifiError Unit) × LinkRig :=
  match r.bed.run (r.wifi.connect radio a) with
  | (.ok (result, wifi), bed) => (some result, { r with bed, wifi })
  | (.error _, bed) => (none, { r with bed })

/-- Look at the link, and run the callback if it is lost. -/
def monitor (r : LinkRig) : LinkRig :=
  let (callback, wifi) := r.wifi.monitor r.bed.isAssociated
  { r with wifi, lost := callback.toList ++ r.lost }

/-- Whether the link is up. -/
def isConnected (r : LinkRig) : Bool := r.wifi.isConnected r.bed.isAssociated

/-- How often a callback was run. -/
def runs (r : LinkRig) (callback : Nat) : Nat := r.lost.count callback

end LinkRig

end WeatherStation.Bench
