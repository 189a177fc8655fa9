import WeatherStation.Net.Timed

/-!
# `WeatherStation.Net.Wifi`: the link to the access point

`Wifi.connect` starts the radio once, associates and waits for an address. `Wifi.monitor` is
called again and again with the present state of the link; when a link that was up is found
lost, it gives back what was registered to be run then.

`Wifi.up` is what was last reported. It changes only in `monitor` and in a `connect` that
succeeds.
-/

set_option autoImplicit false

namespace WeatherStation.Net

/-- Time to associate. -/
def associationTimeout : Micros := seconds 10

/-- Time between two looks at the association. -/
def associationPoll : Micros := millis 200

/-- Looks at the association within its time, the first and the last moment included. -/
def associationChecks : Nat := associationTimeout / associationPoll + 1

/-- Time to get an address. -/
def leaseTimeout : Micros := seconds 10

/-- Why there is no link. -/
inductive WifiError where
  /-- The radio refused. -/
  | driver
  | associationTimeout
  | dhcpTimeout
  deriving DecidableEq, Repr

/-- The error in words. -/
def WifiError.message : WifiError → String
  | driver => "WiFi driver error"
  | associationTimeout => "WiFi association timed out"
  | dhcpTimeout => "DHCP lease timed out"

/-- How a network is protected. -/
inductive Protection where
  | unprotected
  | wpa2Personal
  deriving DecidableEq, Repr

/-- A network to join. -/
structure AccessPoint where
  ssid : String
  password : String
  deriving DecidableEq, Repr

/-- A network without a password is not protected. -/
def AccessPoint.protection (a : AccessPoint) : Protection :=
  if a.password.isEmpty then .unprotected else .wpa2Personal

/-- The radio and the address of the interface. -/
structure Radio (m : Type → Type) where
  /-- Set the network to join. -/
  configure : AccessPoint → m Bool
  start : m Bool
  /-- Begin to associate. -/
  associate : m Bool
  /-- Whether the radio is associated now; a radio that cannot tell is not. -/
  isAssociated : m Bool
  /-- Wait for an address. -/
  awaitAddress : m Unit

/-- The state of the link, as far as the station knows. -/
structure Wifi (γ : Type) where
  /-- Whether the radio was started. -/
  started : Bool := false
  /-- Whether the link was last reported as up. -/
  up : Bool := false
  /-- What to run when the link is lost. -/
  onLoss : Option γ := none
  deriving Repr

namespace Wifi

variable {m : Type → Type} [Monad m] {γ : Type}

/-- Register what to run when the link is lost, in place of what was registered before. -/
def setOnLoss (w : Wifi γ) (callback : γ) : Wifi γ := { w with onLoss := some callback }

/-- Configure and start the radio, unless that was done. -/
def prepare (w : Wifi γ) (radio : Radio m) (a : AccessPoint) : m (Bool × Wifi γ) := do
  if w.started then
    return (true, w)
  if !(← radio.configure a) then
    return (false, w)
  if !(← radio.start) then
    return (false, w)
  return (true, { w with started := true })

/-- Look at the association so many times, with a pause between two looks. -/
def awaitAssociation [Timed m] (radio : Radio m) : Nat → m Bool
  | 0 => return false
  | 1 => radio.isAssociated
  | looks + 2 => do
    if ← radio.isAssociated then
      return true
    Timed.pause associationPoll
    awaitAssociation radio (looks + 1)

/-- Join a network and wait for an address. -/
def connect [Timed m] (w : Wifi γ) (radio : Radio m) (a : AccessPoint) :
    m (Except WifiError Unit × Wifi γ) := do
  let (ready, w) ← w.prepare radio a
  if !ready then
    return (.error .driver, w)
  if !(← radio.associate) then
    return (.error .driver, w)
  if !(← awaitAssociation radio associationChecks) then
    return (.error .associationTimeout, w)
  match ← Timed.within leaseTimeout radio.awaitAddress with
  | none => return (.error .dhcpTimeout, w)
  | some _ => return (.ok (), { w with up := true })

/-- Whether the link was reported as up and the radio is associated now. -/
def isConnected (w : Wifi γ) (associated : Bool) : Bool := w.up && associated

/-- Take note of the present state of the link. What is to be run comes back when a link that
was up is lost. -/
def monitor (w : Wifi γ) (associated : Bool) : Option γ × Wifi γ :=
  (if w.up && !associated then w.onLoss else none, { w with up := associated })

end Wifi

end WeatherStation.Net
