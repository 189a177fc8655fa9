import WeatherStation.Mqtt.Exchange

/-!
# `WeatherStation.Mqtt.Client`: publishing through the session

The client publishes one message after the other. A publish is admitted only while a session
is open and the network was not reported as gone. It takes a message id, hands a request to
the session and waits until the broker has acknowledged that id or the time is over. Then
it takes its request back if the session has not taken it.

`Client.publish` is the first turn of such a call and `PublishCall.poll` every later one;
between two turns the session may run. `Client.join` and `JoinCall.poll` wait in the same way
for an open session.
-/

set_option autoImplicit false

namespace WeatherStation.Mqtt

/-- The largest message id; the ids above it belong to SUBSCRIBE. -/
def maxMessageId : UInt16 := 0x7FFF

/-- The publishing side. -/
structure Client where
  /-- Time allowed for an acknowledgement. -/
  ackTimeout : Micros
  /-- Id of the next message. -/
  nextId : UInt16 := 1
  deriving DecidableEq, Repr

/-- A publish under way. -/
inductive PublishCall where
  /-- The slot for requests is taken. -/
  | offering (request : Request) (due : Micros)
  /-- The request was handed over. -/
  | awaiting (id : UInt16) (due : Micros)
  | settled (result : Except PublishError Unit)

/-- A wait for an open session. -/
inductive JoinCall where
  | waiting (due : Micros)
  | settled (joined : Bool)
  deriving DecidableEq, Repr

namespace PublishCall

/-- The result of a call that has ended. -/
def result? : PublishCall → Option (Except PublishError Unit)
  | settled result => some result
  | _ => none

/-- When the time of a call is over. -/
def due? : PublishCall → Option Micros
  | offering _ due => some due
  | awaiting _ due => some due
  | settled _ => none

/-- Hand the request over if the slot is free. -/
def offer (x : Exchange) (now : Micros) (request : Request) (due : Micros) :
    PublishCall × Exchange :=
  match x.request with
  | some _ => (offering request due, x)
  | none =>
    (awaiting request.id due, { x with request := some request }.note now (.offered request))

/-- Look at the acknowledged id, which takes it out of its slot. -/
def listen (x : Exchange) (now : Micros) (id : UInt16) (due : Micros) : PublishCall × Exchange :=
  match x.ack with
  | none => (awaiting id due, x)
  | some acknowledged =>
    let x := { x with ack := none }
    if acknowledged = id then (settled (.ok ()), x.note now (.settled (some id) (.ok ())))
    else (awaiting id due, x)

/-- What a call can do without waiting. -/
def advance (x : Exchange) (now : Micros) : PublishCall → PublishCall × Exchange
  | offering request due =>
    match offer x now request due with
    | (awaiting id due, x) => listen x now id due
    | blocked => blocked
  | awaiting id due => listen x now id due
  | settled result => (settled result, x)

/-- The time is over: take back a request that was not taken. -/
def expire (x : Exchange) (now : Micros) (id : UInt16) : PublishCall × Exchange :=
  (settled (.error .ackTimeout),
    { x with request := none }.note now (.settled (some id) (.error .ackTimeout)))

/-- A later turn of a call. An acknowledgement that has come counts even at the time limit. -/
def poll (x : Exchange) (now : Micros) (call : PublishCall) : PublishCall × Exchange :=
  match advance x now call with
  | (offering request due, x) =>
    if due ≤ now then expire x now request.id else (offering request due, x)
  | (awaiting id due, x) => if due ≤ now then expire x now id else (awaiting id due, x)
  | done => done

end PublishCall

namespace JoinCall

/-- When the time of a wait is over. -/
def due? : JoinCall → Option Micros
  | waiting due => some due
  | settled _ => none

/-- A later turn of a wait. -/
def poll (x : Exchange) (now : Micros) : JoinCall → JoinCall
  | waiting due =>
    if x.connected then settled true else if due ≤ now then settled false else waiting due
  | settled joined => settled joined

end JoinCall

namespace Client

/-- The id after `id`: they run from 1 to `maxMessageId` and start over. -/
def idAfter (id : UInt16) : UInt16 := if maxMessageId ≤ id then 1 else id + 1

/-- The first turn of a publish. Its id is used up even if the message is too long. An
acknowledgement left over from an earlier message is forgotten. -/
def publish (c : Client) (x : Exchange) (now : Micros) (topic : String) (payload : List UInt8) :
    PublishCall × Client × Exchange :=
  if !x.connected || x.disconnectPending then
    (.settled (.error .notConnected), c, x.note now (.settled none (.error .notConnected)))
  else
    let id := c.nextId
    let c := { c with nextId := idAfter id }
    match Request.new? topic payload id with
    | .error e => (.settled (.error e), c, x.note now (.settled (some id) (.error e)))
    | .ok request =>
      let x := { x with ack := none }.note now (.admitted request)
      let (call, x) := PublishCall.advance x now (.offering request (now + c.ackTimeout))
      (call, c, x)

/-- The first turn of a wait for an open session. -/
def join (x : Exchange) (now timeout : Micros) : JoinCall :=
  if x.connected then .settled true else .waiting (now + timeout)

end Client

end WeatherStation.Mqtt
