import WeatherStation.Bench.Broker
import WeatherStation.Mqtt.Client
import WeatherStation.Mqtt.Session
import WeatherStation.Station.Basic

/-!
# `WeatherStation.Bench.World`: session, client and station on one clock

The world runs the session against the scripted broker, alone or beside one call of the
client. It goes in rounds. In a round the client has its turn first, and then the session
runs until it has to wait for something that has not happened. After the round the clock
stays if somebody can go on at once; otherwise it jumps to the next time at which something
happens. A computation takes no time.

A run ends when the client's call has ended and the session has done the steps that were
demanded of it. A step that has begun is always brought to its end, except when the run has
a time limit, at which everything is dropped.
-/

set_option autoImplicit false

namespace WeatherStation.Bench

open Mqtt Sensor

/-- The steps demanded of the session. -/
inductive Demand where
  /-- This many steps. -/
  | steps (left : Nat)
  /-- At most this many steps, but none after one that leaves the session open. -/
  | untilConnected (left : Nat) (begun : Bool)
  /-- Steps as long as the client's call goes on. -/
  | whileBusy
  /-- Steps without an end. -/
  | forever
  deriving DecidableEq, Repr

/-- The client's call. -/
inductive Task where
  | publishing (call : PublishCall)
  | joining (call : JoinCall)
  | finished

/-- Everything on the bench. -/
structure World where
  now : Micros := 0
  session : Session
  broker : Broker
  client : Client
  station : Station
  /-- What the sensor gives, read by read. -/
  sensor : List (Except ReadError Reading) := []
  /-- The end of a write that takes time. -/
  pause : Option Timer := none
  /-- When the whole run is dropped. -/
  limit : Option Timer := none
  task : Task := .finished
  demand : Demand := .steps 0
  /-- The actions that steps came back with, latest first. -/
  actions : List Action := []
  /-- The result of the last publish. -/
  published : Except PublishError Unit := .ok ()
  /-- The result of the last wait for a session. -/
  joined : Bool := false

namespace World

/-- The world with another state of what the tasks share. -/
def withExchange (w : World) (exchange : Exchange) : World :=
  { w with session := { w.session with exchange } }

/-! ### The client's turn -/

/-- The client's publish goes on, or has ended. -/
def withPublish (w : World) : PublishCall → World
  | .settled result => { w with task := .finished, published := result }
  | call => { w with task := .publishing call }

/-- The client's turn. -/
def pollClient (w : World) : World :=
  match w.task with
  | .finished => w
  | .joining call =>
    match call.poll w.session.exchange w.now with
    | .settled joined => { w with task := .finished, joined }
    | waiting => { w with task := .joining waiting }
  | .publishing call =>
    let (call, exchange) := call.poll w.session.exchange w.now
    (w.withExchange exchange).withPublish call

/-- Whether the client's call has ended. -/
def isIdle (w : World) : Bool :=
  match w.task with
  | .finished => true
  | _ => false

/-! ### The session's turn -/

/-- The reply to what the session waits for, if there is one at this time. Bytes come before
the time limit of a read, and that before a request. -/
def answer? (w : World) : Option (Reply × World) :=
  match w.session.call? with
  | none => none
  | some (.resolve _) =>
    let (address, broker) := w.broker.resolve
    some (.resolved address, { w with broker })
  | some (.dial _) =>
    let (ok, broker) := w.broker.dial
    some (.dialed ok, { w with broker })
  | some (.write bytes) =>
    if w.broker.writeDelay = 0 || w.pause.any (·.runsOut w.now) then
      let (ok, broker) := w.broker.write w.now bytes
      some (.written ok, { w with broker, pause := none })
    else none
  | some (.read room) =>
    match w.broker.read w.now room with
    | some (bytes, broker) => some (.received bytes, { w with broker })
    | none =>
      if w.session.timesOut w.now then some (.elapsed, w)
      else if w.session.takesRequest then some (.requested, w)
      else none
  | some .close => some (.closed, { w with broker := w.broker.close })
  | some (.sleep _) => if w.session.timesOut w.now then some (.elapsed, w) else none

/-- Set the end of a write that has just begun and takes time. -/
def startPause (w : World) : World :=
  match w.session.call?, w.pause with
  | some (.write _), none => { w with pause := some (.set (w.now + w.broker.writeDelay)) }
  | _, _ => w

/-- Whether another step is demanded. -/
def wantsStep (w : World) : Bool :=
  match w.demand with
  | .steps left => 0 < left
  | .untilConnected left begun => 0 < left && !(begun && w.session.state == .connected)
  | .whileBusy => !w.isIdle
  | .forever => true

/-- One step less is demanded. -/
def Demand.countDown : Demand → Demand
  | .steps left => .steps (left - 1)
  | .untilConnected left _ => .untilConnected (left - 1) true
  | .whileBusy => .whileBusy
  | .forever => .forever

/-- Note the action that a step came back with. -/
def noteAction (w : World) : World :=
  match w.session.phase with
  | .idle next => { w with actions := next :: w.actions }
  | _ => w

/-- Let the session go on to its next wait, or begin its next step. There is no turn left if
the session waits for something that has not happened, or no step is demanded. -/
def turn? (w : World) : Option World :=
  match w.session.phase with
  | .idle next =>
    if w.wantsStep then
      some { w with
        session := w.session.begin w.now next
        demand := Demand.countDown w.demand }.noteAction
    else none
  | .crashed => none
  | _ =>
    match w.answer? with
    | some (reply, w) => some { w with session := w.session.resume w.now reply }.noteAction
    | none => none

/-- The session's turns of one round. -/
def runSession : Nat → World → World
  | 0, w => w
  | fuel + 1, w =>
    match w.turn? with
    | some w => runSession fuel w
    | none => w.startPause

/-! ### Rounds -/

/-- Everything has had its turn: every timer may run out from now on. -/
def yield (w : World) : World :=
  let mark (t : Timer) : Timer := { t with yielded := true }
  { w with session := w.session.yield, pause := w.pause.map mark, limit := w.limit.map mark }

/-- Whether the session is in the middle of a step. -/
def midStep (w : World) : Bool :=
  match w.session.phase with
  | .idle _ => false
  | _ => true

/-- Whether the decoder ran over the end of a packet. -/
def hasCrashed (w : World) : Bool :=
  match w.session.phase with
  | .crashed => true
  | _ => false

/-- Whether the run is over. -/
def isOver (w : World) : Bool := w.hasCrashed || w.isIdle && !w.midStep && !w.wantsStep

/-- Whether the client can go on at once. -/
def clientCanGoOn (w : World) : Bool :=
  match w.task with
  | .publishing (.offering _ _) => w.session.exchange.request.isNone
  | .publishing (.awaiting _ _) => w.session.exchange.ack.isSome
  | .joining (.waiting _) => w.session.exchange.connected
  | _ => false

/-- When the client's call is over at the latest. -/
def clientDue? (w : World) : Option Micros :=
  match w.task with
  | .publishing call => call.due?
  | .joining call => call.due?
  | .finished => none

/-- The times at which something happens. -/
def candidates (w : World) : List Micros :=
  let reads :=
    match w.session.call? with
    | some (.read _) => w.broker.nextAvailable
    | _ => none
  [w.clientDue?, w.session.timer?.map Timer.due, w.pause.map Timer.due,
    w.limit.map Timer.due, reads].filterMap id

/-- The next time at which something happens, if anything will. -/
def nextInstant? (w : World) : Option Micros :=
  if w.clientCanGoOn then some w.now
  else w.candidates.min?.map (max w.now)

/-- Drop whatever the session waits for. -/
def drop (w : World) : World :=
  { w with session := w.session.abandon, pause := none, limit := none, demand := .steps 0 }

/-- Rounds until the run is over or nothing can happen any more. The client has had its turn
when the first of them begins. -/
def run : Nat → World → World
  | 0, w => w
  | fuel + 1, w =>
    let w := runSession fuel w
    if w.isOver then w
    else if w.limit.any (·.runsOut w.now) then w.drop
    else match w.nextInstant? with
      | none => w
      | some next => run fuel { w.yield with now := next }.pollClient

/-! ### Steps of a test -/

/-- Bound on the rounds of one run and on the turns of one round. -/
def patience : Nat := 1000000000

/-- Before a step of a test: no actions yet. -/
def fresh (w : World) : World := { w with actions := [] }

/-- Run with a demand. -/
def runFor (w : World) (demand : Demand) : World := run patience { w with demand }

/-- Run a call of the client that has had its first turn, beside the session or alone. -/
def runTask (w : World) (alone : Bool) : World :=
  w.runFor (if alone then .steps 0 else .whileBusy)

/-- Start the session: the first action. -/
def start (w : World) : World :=
  { w.fresh with session := w.session.start w.now }.noteAction

/-- The action that comes next. -/
def nextAction? (w : World) : Option Action :=
  match w.session.phase with
  | .idle next => some next
  | _ => none

/-- Steps of the session, starting with another action if one is given. -/
def step (w : World) (n : Nat) (action : Option Action) : World :=
  let session :=
    match action with
    | some next => { w.session with phase := .idle next }
    | none => w.session
  { w.fresh with session }.runFor (.steps n)

/-- Start the session and step until the connection is in its last state, or for sixteen
steps. -/
def bringUp (w : World) : World := w.start.runFor (.untilConnected 16 false)

/-- Start the session and let it run for some time, then drop it in the middle of what it
does. -/
def runDropped (w : World) (time : Micros) : World :=
  { w.start with limit := some (.set (w.now + time)) }.runFor .forever

/-- Publish a message. The session finishes the step it is in. -/
def publishOnce (w : World) (topic : String) (payload : List UInt8) (alone : Bool) : World :=
  let (call, client, exchange) := w.client.publish w.session.exchange w.now topic payload
  ({ w.withExchange exchange with client }.withPublish call).runTask alone

/-- Publish a message some times in a row. -/
def publishTimes (w : World) (topic : String) (payload : List UInt8) (alone : Bool) :
    Nat → World
  | 0 => w
  | times + 1 => (w.publishOnce topic payload alone).publishTimes topic payload alone times

/-- Publish a message some times in a row, as a step of a test. -/
def publish (w : World) (topic : String) (payload : List UInt8) (times : Nat) (alone : Bool) :
    World :=
  w.fresh.publishTimes topic payload alone times

/-- Publish the registration message. -/
def authorize (w : World) (alone : Bool) : World :=
  w.publish Config.authTopic (utf8 w.station.registration.toJson.render) 1 alone

/-- What the sensor gives next; a sensor without a script always times out. -/
def readSensor (w : World) : Except ReadError Reading × World :=
  let (reading, sensor) := takeAnswer w.sensor
  (reading.getD (.error .timeout), { w with sensor })

/-- One round of the station. -/
def tick (w : World) (now : Nat) (alone : Bool) : Outcome × World :=
  if w.station.isThrottled now then (.throttled, w.fresh)
  else
    let (reading, w) := w.fresh.readSensor
    match w.station.sample now reading with
    | (.ended outcome, station) => (outcome, { w with station })
    | (.due telemetry, station) =>
      let w := { w with station }.publish Config.telemetryTopic
        (utf8 telemetry.toJson.render) 1 alone
      (.published w.published, w)

/-- Wait for an open session. -/
def waitConnected (w : World) (timeout : Micros) (alone : Bool) : World :=
  match Client.join w.session.exchange w.now timeout with
  | .settled joined => { w.fresh with joined }
  | call => { w.fresh with task := .joining call }.runTask alone

/-- The link layer reports that the network is gone. -/
def notifyDisconnect (w : World) : World :=
  w.withExchange (w.session.exchange.notifyDisconnect w.now)

/-- Take the oldest message out of the inbox. -/
def nextMessage (w : World) : Option Message × World :=
  match w.session.exchange.nextMessage w.now with
  | some (message, exchange) => (some message, w.withExchange exchange)
  | none => (none, w)

/-- Take every message out of the inbox. -/
def dispatch (w : World) : List Message × World :=
  let rec go : Nat → World → List Message × World
    | 0, w => ([], w)
    | n + 1, w =>
      match w.nextMessage with
      | (some message, w) =>
        let (messages, w) := go n w
        (message :: messages, w)
      | (none, w) => ([], w)
  go w.session.exchange.inbox.length w

/-- The transactions since a moment at which the journal had `before` entries, oldest first. -/
def transactionsSince (w : World) (before : Nat) : List Transaction :=
  let journal := w.session.exchange.journal
  ((journal.take (journal.length - before)).filterMap Transaction.ofEntry?).reverse

end World

end WeatherStation.Bench
