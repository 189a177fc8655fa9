import WeatherStation.Mqtt.Encoding
import WeatherStation.Mqtt.Inbound

/-!
# `WeatherStation.Mqtt.Session`: the session with the broker

The session runs the actions of the connection one after the other. An action is begun with
`begin` and runs until it has to wait, for the transport or for a time. The phase says what
it waits for, `call?` puts that as a question to the surroundings, and `resume` goes on with
their reply, up to the next wait or to the end of the action. Between two actions the phase
is `idle` and holds the action that comes next.

A wait that has a time limit carries a `Timer`. A timer gives way once before it can run
out: `yield` marks that everything else has had its turn. A reply that the phase does not
wait for changes nothing, so a run of the session is any sequence of replies.

`abandon` drops whatever the session waits for.
-/

set_option autoImplicit false

namespace WeatherStation.Mqtt

/-- Size of the buffer for bytes from the broker. -/
def inboundCapacity : Nat := 1024

/-- Size of the buffer for one packet to the broker. -/
def outboundCapacity : Nat := 1024

/-- Name under which the station opens its session. -/
def defaultClientId : String := "zephyrux"

/-- Time limits of the session and of the publishing client. -/
structure Timeouts where
  connack : Micros := seconds 2
  suback : Micros := seconds 4
  /-- Length of one poll round. -/
  poll : Micros := seconds 1
  publishAck : Micros := seconds 4
  deriving DecidableEq, Repr

/-- How the session is set up. -/
structure SessionConfig where
  /-- Name or dotted address of the broker. -/
  host : String
  port : UInt16
  clientId : String := defaultClientId
  pingInterval : Micros := seconds 60
  /-- Topics to subscribe to, possibly none. -/
  topics : List String := []
  timeouts : Timeouts := {}
  policy : Policy := {}
  deriving DecidableEq, Repr

/-- The keep-alive announced to the broker, twice the ping interval in whole seconds, as far
as sixteen bits go. -/
def SessionConfig.keepAliveSeconds (c : SessionConfig) : UInt16 :=
  UInt16.ofNat (min (2 * c.pingInterval.toSeconds) 65535)

/-! ### What the session waits for -/

/-- A time limit. -/
structure Timer where
  due : Micros
  /-- Whether everything else has had its turn since the timer was set. -/
  yielded : Bool
  deriving DecidableEq, Repr

namespace Timer

/-- A timer that was just set. -/
def set (due : Micros) : Timer := ⟨due, false⟩

/-- Whether the timer has run out. -/
def runsOut (t : Timer) (now : Micros) : Bool := t.yielded && decide (t.due ≤ now)

end Timer

/-- Why the session reads. -/
inductive Purpose where
  /-- To be let in. -/
  | connack
  /-- To have this subscription confirmed. -/
  | suback (id : UInt16)
  /-- To see what comes. -/
  | poll
  deriving DecidableEq, Repr

/-- Why the session writes. -/
inductive Errand where
  | connect
  | subscribe (id : UInt16)
  | farewell
  | ping
  | publish (id : UInt16)
  /-- An acknowledgement, after which reading goes on until the time given. -/
  | puback (id : UInt16) (purpose : Purpose) (due : Micros)
  deriving DecidableEq, Repr

/-- Why the session closes the connection. -/
inductive Closing where
  | connectFailed
  | teardown
  deriving DecidableEq, Repr

/-- Why the session sleeps. -/
inductive Rest where
  | retry
  | backoff
  deriving DecidableEq, Repr

/-- Where the session stands. -/
inductive Phase where
  /-- Between two actions. -/
  | idle (next : Action)
  | resolving
  | dialing (remote : Endpoint)
  | writing (bytes : List UInt8) (errand : Errand)
  | reading (purpose : Purpose) (timer : Timer)
  | closing (why : Closing)
  | sleeping (timer : Timer) (why : Rest)
  /-- The decoder ran over the end of a packet. Nothing follows. -/
  | crashed
  deriving DecidableEq, Repr

/-- The session and what it shares. -/
structure Session where
  config : SessionConfig
  connection : Connection
  inbound : PacketReader
  /-- Where the broker is, once its name is resolved. -/
  broker : Option Endpoint
  /-- When the next PINGREQ is due. -/
  nextPing : Option Micros
  /-- Id of the last SUBSCRIBE. -/
  subscribeId : UInt16
  /-- Id of a publish that was written and not acknowledged. -/
  inFlight : Option UInt16
  phase : Phase
  exchange : Exchange

namespace Session

/-- A session that has not been started. -/
def new (config : SessionConfig) (exchange : Exchange) : Session where
  config := config
  connection := .new config.policy
  inbound := .new inboundCapacity
  broker := none
  nextPing := none
  subscribeId := 0
  inFlight := none
  phase := .idle (Connection.new config.policy).entryAction
  exchange := exchange

/-- Where the connection stands. -/
def state (s : Session) : ConnectionState := s.connection.state

/-- What the session waits for. -/
def call? (s : Session) : Option Call :=
  match s.phase with
  | .resolving => some (.resolve s.config.host)
  | .dialing remote => some (.dial remote)
  | .writing bytes _ => some (.write bytes)
  | .reading _ _ => some (.read s.inbound.spare)
  | .closing _ => some .close
  | .sleeping timer _ => some (.sleep timer.due)
  | .idle _ => none
  | .crashed => none

/-- Add to the journal. -/
def note (s : Session) (now : Micros) (what : Happening) : Session :=
  { s with exchange := s.exchange.note now what }

/-- Note that the session waits, for what its phase says. -/
def noteAsked (s : Session) (now : Micros) : Session :=
  match s.call? with
  | some call => s.note now (.asked call)
  | none => s

/-- Note how a wait ended. -/
def noteAnswered (s : Session) (now : Micros) (reply : Reply) : Session :=
  match s.call? with
  | some call => s.note now (.answered call reply)
  | none => s

/-- Wait in a phase. -/
def await (s : Session) (now : Micros) (phase : Phase) : Session :=
  { s with phase }.noteAsked now

/-- Set the flag that says whether a session is open. -/
def setConnected (s : Session) (connected : Bool) : Session :=
  { s with exchange := { s.exchange with connected } }

/-! ### Ends of actions -/

/-- The action ends and the state stays; its entry action comes next. -/
def reenter (s : Session) : Session := { s with phase := .idle s.connection.entryAction }

/-- The action ends with an event. -/
def finish (s : Session) (now : Micros) (event : Event) : Session :=
  let (next, connection) := s.connection.handle event
  { s with connection, phase := .idle next }.note now (.ended event)

/-- Connecting failed: close, then report it. -/
def abortConnect (s : Session) (now : Micros) : Session := s.await now (.closing .connectFailed)

/-- The connection failed while reading or writing. -/
def lose (s : Session) (now : Micros) : Purpose → Session
  | .connack => s.abortConnect now
  | .suback _ => s.finish now .linkLost
  | .poll => s.finish now .linkLost

/-! ### Reading -/

/-- The id after `id` for a SUBSCRIBE. Ids of SUBSCRIBE are in the upper half of the range and
never meet those of PUBLISH. -/
def nextSubscribeId (id : UInt16) : UInt16 := 0x8000 ||| ((id + 1) &&& 0x7FFF)

/-- What a packet means for the purpose of reading. -/
inductive Verdict where
  /-- The purpose is reached. -/
  | granted
  /-- The broker refused. -/
  | refused
  /-- The packet is about something else. -/
  | immaterial
  deriving DecidableEq, Repr

/-- Judge a packet that was applied. Any packet ends a poll round. -/
def verdict : Purpose → Received → Verdict
  | .connack, .connack code => if code = 0 then .granted else .refused
  | .suback id, .suback confirmed failed =>
    if confirmed ≠ id then .immaterial else if failed then .refused else .granted
  | .poll, _ => .granted
  | _, _ => .immaterial

/-- The purpose of reading is reached. -/
def succeed (s : Session) (now : Micros) : Purpose → Session
  | .connack =>
    { s with nextPing := some (now + s.config.pingInterval) }.finish now .brokerConnected
  | .suback _ => (s.setConnected true).finish now .subscribed
  | .poll => s.finish now .pollIdle

/-- The broker refused, or its answer did not come in time. A poll round just ends. -/
def giveUp (s : Session) (now : Micros) : Purpose → Session
  | .connack => s.abortConnect now
  | .suback _ => s.finish now .subscribeFailed
  | .poll => s.finish now .pollIdle

/-- What is in flight after a packet: nothing once it is acknowledged. -/
def inFlightAfter (inFlight : Option UInt16) : Received → Option UInt16
  | .puback id => if inFlight = some id then none else inFlight
  | _ => inFlight

/-- Write a packet, or do without if it cannot be encoded. -/
def write (s : Session) (now : Micros) (packet : Packet) (errand : Errand)
    (otherwise : Session) : Session :=
  match packet.encodeWithin outboundCapacity with
  | some bytes => s.await now (.writing bytes errand)
  | none => otherwise

/-- Apply packets that are held, then wait for bytes. A message that has to be acknowledged
is, before anything else; the wait for another packet has its timer set anew. -/
def read (s : Session) (now : Micros) (purpose : Purpose) (timer : Timer) : Session :=
  match _h : receive now s.inbound s.exchange with
  | (.corrupt, inbound, exchange) => { s with inbound, exchange }.lose now purpose
  | (.overrun, inbound, exchange) => { s with inbound, exchange, phase := .crashed }
  | (.hungry, inbound, exchange) =>
    { s with inbound, exchange }.await now (.reading purpose timer)
  | (.packet received, inbound, exchange) =>
    let s' := { s with inbound, exchange, inFlight := inFlightAfter s.inFlight received }
    match received.reply? with
    | some id => s'.write now (.puback id) (.puback id purpose timer.due) (s'.lose now purpose)
    | none =>
      match verdict purpose received with
      | .granted => s'.succeed now purpose
      | .refused => s'.giveUp now purpose
      | .immaterial => s'.read now purpose (.set timer.due)
termination_by s.inbound.held.length
decreasing_by exact length_receive_lt _h

/-! ### Actions -/

/-- Whether the topics fit one SUBSCRIBE. -/
def topicsFit (topics : List String) : Bool :=
  topics.length ≤ maxSubscribeTopics && topics.all fun t => t.utf8ByteSize ≤ maxTopicLength

/-- The broker's address is known. -/
def settleBroker (s : Session) (now : Micros) (address : Ipv4) : Session :=
  { s with broker := some ⟨address, s.config.port⟩ }.finish now .brokerResolved

/-- Find the broker's address. A dotted address needs no question. -/
def beginResolve (s : Session) (now : Micros) : Session :=
  match Ipv4.ofText? s.config.host with
  | some address => s.settleBroker now address
  | none => s.await now .resolving

/-- Open a connection, which makes an earlier report of a lost network void. -/
def beginConnect (s : Session) (now : Micros) : Session :=
  let s := { s with
    exchange := { s.exchange with disconnectPending := false, connected := false } }
  match s.broker with
  | none => s.finish now .connectFailed
  | some remote => { s with inbound := s.inbound.clear }.await now (.dialing remote)

/-- Ask for the topics. The session is open only when the broker has confirmed them, and at
once if there are none. -/
def beginSubscribe (s : Session) (now : Micros) : Session :=
  if s.config.topics.isEmpty then (s.setConnected true).finish now .subscribed
  else if !topicsFit s.config.topics then s.finish now .subscribeFailed
  else
    let id := nextSubscribeId s.subscribeId
    let s := { s with subscribeId := id }
    s.write now (.subscribe id (s.config.topics.map (·, QoS.atMostOnce))) (.subscribe id)
      (s.finish now .subscribeFailed)

/-- Wait for what comes in one poll round. -/
def beginPollRead (s : Session) (now : Micros) : Session :=
  s.read now .poll (.set (now + s.config.timeouts.poll))

/-- One poll round: say farewell if the network was reported as gone; else send a PINGREQ if
one is due, then wait for a packet or a request. -/
def beginPoll (s : Session) (now : Micros) : Session :=
  if s.exchange.disconnectPending then
    s.write now .disconnect .farewell (s.finish now .linkLost)
  else
    match s.nextPing with
    | some due =>
      if due ≤ now then
        let s := { s with nextPing := some (now + s.config.pingInterval) }
        s.write now .pingreq .ping (s.finish now .linkLost)
      else s.beginPollRead now
    | none => s.beginPollRead now

/-- Publish a request that was taken. -/
def beginPublish (s : Session) (now : Micros) (request : Request) : Session :=
  s.write now request.packet (.publish request.id) (s.finish now .pollIdle)

/-- Begin an action. -/
def begin (s : Session) (now : Micros) (action : Action) : Session :=
  let s := s.note now (.began action)
  match action with
  | .resolve => s.beginResolve now
  | .connect => s.beginConnect now
  | .subscribe => s.beginSubscribe now
  | .poll => s.beginPoll now
  | .retry delay => s.await now (.sleeping (.set (now + delay)) .retry)
  | .teardown => (s.setConnected false).await now (.closing .teardown)
  | .backoff delay =>
    (s.setConnected false).await now (.sleeping (.set (now + delay)) .backoff)

/-! ### Replies -/

/-- The question for the address was answered. -/
def onResolved (s : Session) (now : Micros) : Option Ipv4 → Session
  | some address => s.settleBroker now address
  | none => s.finish now .resolveFailed

/-- The connection is open, or not. -/
def onDialed (s : Session) (now : Micros) (ok : Bool) : Session :=
  if ok then
    s.write now (.connect ⟨s.config.keepAliveSeconds, s.config.clientId, true⟩) .connect
      (s.abortConnect now)
  else s.abortConnect now

/-- The bytes were written, or not. A farewell is not asked for its outcome. -/
def onWritten (s : Session) (now : Micros) (errand : Errand) (ok : Bool) : Session :=
  match errand with
  | .connect =>
    if ok then s.read now .connack (.set (now + s.config.timeouts.connack))
    else s.abortConnect now
  | .subscribe id =>
    if ok then s.read now (.suback id) (.set (now + s.config.timeouts.suback))
    else s.finish now .linkLost
  | .farewell => s.finish now .linkLost
  | .ping => if ok then s.beginPollRead now else s.finish now .linkLost
  | .publish id =>
    if ok then { s with inFlight := some id }.finish now .pollIdle else s.finish now .linkLost
  | .puback _ purpose due =>
    if !ok then s.lose now purpose
    else match purpose with
      | .poll => s.finish now .pollIdle
      | _ => s.read now purpose (.set due)

/-- Bytes came in. None at all mean that the broker closed the connection. -/
def onBytes (s : Session) (now : Micros) (purpose : Purpose) (timer : Timer) :
    Option (List UInt8) → Session
  | some (b :: bytes) =>
    { s with inbound := s.inbound.fill (b :: bytes) }.read now purpose timer
  | some [] => s.lose now purpose
  | none => s.lose now purpose

/-- A request waits: take it. -/
def onRequested (s : Session) (now : Micros) : Session :=
  match s.exchange.request with
  | some request =>
    let exchange := { s.exchange with request := none }.note now (.taken request)
    { s with exchange }.beginPublish now request
  | none => s

/-- The connection is closed. A teardown forgets what belonged to the connection, the
request that was not taken included. -/
def onClosed (s : Session) (now : Micros) : Closing → Session
  | .connectFailed => s.finish now .connectFailed
  | .teardown =>
    { s with
      inbound := s.inbound.clear
      nextPing := none
      inFlight := none
      exchange := { s.exchange with request := none } }.reenter

/-- The rest is over. -/
def onRested (s : Session) (now : Micros) : Rest → Session
  | .retry => s.reenter
  | .backoff => s.finish now .started

/-- Go on with a reply. -/
def resume (s : Session) (now : Micros) (reply : Reply) : Session :=
  let noted := s.noteAnswered now reply
  match s.phase, reply with
  | .resolving, .resolved address => noted.onResolved now address
  | .dialing _, .dialed ok => noted.onDialed now ok
  | .writing _ errand, .written ok => noted.onWritten now errand ok
  | .reading purpose timer, .received bytes => noted.onBytes now purpose timer bytes
  | .reading purpose timer, .elapsed =>
    if timer.runsOut now then noted.giveUp now purpose else s
  | .reading .poll _, .requested =>
    if s.exchange.request.isSome then noted.onRequested now else s
  | .closing why, .closed => noted.onClosed now why
  | .sleeping timer why, .elapsed => if timer.runsOut now then noted.onRested now why else s
  | _, _ => s

/-- Everything else has had its turn: a timer that is waited for may run out from now on. -/
def yield (s : Session) : Session :=
  match s.phase with
  | .reading purpose timer => { s with phase := .reading purpose { timer with yielded := true } }
  | .sleeping timer why => { s with phase := .sleeping { timer with yielded := true } why }
  | _ => s

/-- Leave the first state. -/
def start (s : Session) (now : Micros) : Session := s.finish now .started

/-- Drop what the session waits for; the entry action of the state comes next. -/
def abandon (s : Session) : Session := s.reenter

/-! ### What the surroundings may reply -/

/-- The time limit of the wait. -/
def timer? (s : Session) : Option Timer :=
  match s.phase with
  | .reading _ timer => some timer
  | .sleeping timer _ => some timer
  | _ => none

/-- Whether the wait has run out. -/
def timesOut (s : Session) (now : Micros) : Bool := s.timer?.any (·.runsOut now)

/-- Whether the session would take a request and one is there. -/
def takesRequest (s : Session) : Bool :=
  match s.phase with
  | .reading .poll _ => s.exchange.request.isSome
  | _ => false

end Session

end WeatherStation.Mqtt
