import WeatherStation.Time

/-!
# `WeatherStation.Mqtt.Connection`: the states of the connection to the broker

The connection moves through five states. An `Event` says how the last action ended, and
`transition` gives the next state, the number of failures in a row and the next action,
from nothing but the present state, that number and the event. `Connection` keeps the
state, the state before it and the number.
-/

set_option autoImplicit false

namespace WeatherStation.Mqtt

/-- Where the connection stands. -/
inductive ConnectionState where
  | disconnected
  | resolveBroker
  | connectBroker
  | subscribe
  | connected
  deriving DecidableEq, Repr, Inhabited

/-- The states, on the way to an open session. -/
def ConnectionState.all : List ConnectionState :=
  [.disconnected, .resolveBroker, .connectBroker, .subscribe, .connected]

/-- How an action ended. -/
inductive Event where
  /-- The session was started, or the wait before a fresh start is over. -/
  | started
  | brokerResolved
  | resolveFailed
  | brokerConnected
  | connectFailed
  | subscribed
  | subscribeFailed
  /-- A poll round ended and the session is intact. -/
  | pollIdle
  /-- The connection broke or was reported as gone. -/
  | linkLost
  deriving DecidableEq, Repr, Inhabited

/-- The events, in the order in which a session meets them. -/
def Event.all : List Event :=
  [.started, .brokerResolved, .resolveFailed, .brokerConnected, .connectFailed, .subscribed,
    .subscribeFailed, .pollIdle, .linkLost]

/-- What to do next. -/
inductive Action where
  | resolve
  | connect
  | subscribe
  | poll
  /-- Wait, then run the entry action of the state. -/
  | retry (delay : Micros)
  /-- Close the connection, then run the entry action of the state. -/
  | teardown
  /-- Wait disconnected, then start afresh. -/
  | backoff (delay : Micros)
  deriving DecidableEq, Repr, Inhabited

/-- Delays before another attempt, and how many failures send it back to the start. -/
structure Policy where
  /-- Failures in a row while connecting or subscribing before the broker is resolved again. -/
  maxFailures : UInt8 := 4
  resolveRetry : Micros := seconds 2
  connectRetry : Micros := seconds 2
  disconnectedBackoff : Micros := seconds 4
  deriving DecidableEq, Repr, Inhabited

/-- One more, but never past the largest number. -/
def countUp (failures : UInt8) : UInt8 := if failures = 255 then 255 else failures + 1

/-- The action on entering a state, or entering it again. -/
def ConnectionState.entryAction (policy : Policy) : ConnectionState → Action
  | .disconnected => .backoff policy.disconnectedBackoff
  | .resolveBroker => .resolve
  | .connectBroker => .connect
  | .subscribe => .subscribe
  | .connected => .poll

/-- The outcome of an event. -/
structure Transition where
  state : ConnectionState
  /-- Failures in a row in that state. -/
  failures : UInt8
  action : Action
  deriving DecidableEq, Repr, Inhabited

/-- What an event leads to. An event that the state does not expect changes nothing and runs
the state's entry action again. -/
def transition (policy : Policy) (state : ConnectionState) (failures : UInt8) (event : Event) :
    Transition :=
  match state, event with
  | .disconnected, .started => ⟨.resolveBroker, 0, .resolve⟩
  | .disconnected, _ => ⟨.disconnected, 0, .backoff policy.disconnectedBackoff⟩
  | .resolveBroker, .brokerResolved => ⟨.connectBroker, 0, .connect⟩
  | .resolveBroker, .resolveFailed => ⟨.resolveBroker, 0, .retry policy.resolveRetry⟩
  | .resolveBroker, .linkLost => ⟨.resolveBroker, 0, .retry policy.resolveRetry⟩
  | .connectBroker, .brokerConnected => ⟨.subscribe, 0, .subscribe⟩
  | .connectBroker, .connectFailed =>
    if policy.maxFailures ≤ countUp failures then
      ⟨.resolveBroker, 0, .retry policy.connectRetry⟩
    else ⟨.connectBroker, countUp failures, .retry policy.connectRetry⟩
  | .connectBroker, .linkLost => ⟨.resolveBroker, 0, .teardown⟩
  | .subscribe, .subscribed => ⟨.connected, 0, .poll⟩
  | .subscribe, .subscribeFailed =>
    if policy.maxFailures ≤ countUp failures then ⟨.resolveBroker, 0, .teardown⟩
    else ⟨.subscribe, countUp failures, .subscribe⟩
  | .subscribe, .linkLost => ⟨.resolveBroker, 0, .teardown⟩
  | .connected, .pollIdle => ⟨.connected, 0, .poll⟩
  | .connected, .linkLost => ⟨.resolveBroker, 0, .teardown⟩
  | state, _ => ⟨state, failures, state.entryAction policy⟩

/-- A connection: its state, the state before it and the failures in a row. -/
structure Connection where
  policy : Policy
  state : ConnectionState := .disconnected
  previous : Option ConnectionState := none
  failures : UInt8 := 0
  deriving DecidableEq, Repr, Inhabited

namespace Connection

/-- A connection that has not been started. -/
def new (policy : Policy) : Connection := { policy }

/-- The action of the present state. -/
def entryAction (c : Connection) : Action := c.state.entryAction c.policy

/-- Whether the session is open. -/
def isConnected (c : Connection) : Bool := c.state == .connected

/-- The next action after an event, and the connection after it. -/
def handle (c : Connection) (event : Event) : Action × Connection :=
  let next := transition c.policy c.state c.failures event
  (next.action,
    { c with
      state := next.state
      previous := if next.state = c.state then c.previous else some c.state
      failures := next.failures })

end Connection

end WeatherStation.Mqtt
