import WeatherStation.Mqtt.Connection
import WeatherStation.Mqtt.Message
import WeatherStation.Net.Ipv4
import WeatherStation.Time

/-!
# `WeatherStation.Mqtt.Journal`: what the session asks and what happens to it

The session waits for its surroundings by way of a `Call`; a `Reply` is how a wait ends. A
journal lists the calls, the replies and what the tasks did in between, each with its time.
-/

set_option autoImplicit false

namespace WeatherStation.Mqtt

/-- What the session waits for. -/
inductive Call where
  /-- The address of a host. -/
  | resolve (host : String)
  /-- A connection to the broker. -/
  | dial (remote : Endpoint)
  /-- The writing of bytes. -/
  | write (bytes : List UInt8)
  /-- Bytes from the broker, at most `room`. -/
  | read (room : Nat)
  /-- The end of the connection. -/
  | close
  /-- A time. -/
  | sleep (due : Micros)
  deriving DecidableEq, Repr

/-- How a wait ends. -/
inductive Reply where
  /-- The address of the host, or none. -/
  | resolved (address : Option Ipv4)
  /-- Whether the connection is open. -/
  | dialed (ok : Bool)
  /-- Whether all bytes were written. -/
  | written (ok : Bool)
  /-- Bytes, or a failure. No bytes at all mean that the broker closed the connection. -/
  | received (bytes : Option (List UInt8))
  | closed
  /-- The time limit has passed. -/
  | elapsed
  /-- A request waits to be published. -/
  | requested
  deriving DecidableEq, Repr

/-- One thing that happened. -/
inductive Happening where
  /-- The session began an action. -/
  | began (action : Action)
  /-- The action ended with an event. -/
  | ended (event : Event)
  | asked (call : Call)
  | answered (call : Call) (reply : Reply)
  /-- The bytes of a complete packet were found in the stream and go to the decoder. -/
  | framed (bytes : List UInt8)
  /-- A packet was taken off the stream and applied. -/
  | applied (packet : Packet)
  /-- Bytes of a packet were taken off the stream and ignored. -/
  | skipped (bytes : List UInt8)
  /-- The session took a request. -/
  | taken (request : Request)
  /-- The link layer reported that the network is gone. -/
  | notified
  /-- The client was admitted and made this request. -/
  | admitted (request : Request)
  /-- The client handed its request over. -/
  | offered (request : Request)
  /-- The client's publish ended. -/
  | settled (id : Option UInt16) (result : Except PublishError Unit)
  /-- The dispatching task took a message. -/
  | dispatched (message : Message)

/-- A happening and its time. -/
structure Entry where
  time : Micros
  what : Happening

end WeatherStation.Mqtt
