import WeatherStation.Net.Error
import WeatherStation.Net.Ipv4
import WeatherStation.Net.Timed

/-!
# `WeatherStation.Net.Tcp`: the connection to the broker

`TcpSocket` is one socket of the network stack together with its name resolution. The functions
here are what the session asks of it: `resolve` takes the first address of a name, `writeAll`
offers what is left of the bytes until the socket has taken all of them, and `close` gives up
the connection and waits a moment for the last segment to leave.
-/

set_option autoImplicit false

namespace WeatherStation.Net

variable {m : Type → Type} [Monad m]

/-- A name server: the IPv4 addresses of a name. -/
abbrev LookUp (m : Type → Type) := String → m (Except DnsError (List Ipv4))

/-- The first address of a name. -/
def resolve (lookUp : LookUp m) (host : String) : m (Except NetError Ipv4) := do
  match ← lookUp host with
  | .error e => return .error (.dns e)
  | .ok [] => return .error .noAddress
  | .ok (address :: _) => return .ok address

/-- A TCP socket of the stack. -/
structure TcpSocket (m : Type → Type) where
  lookUp : LookUp m
  connect : Endpoint → m (Except DialError Unit)
  /-- Wait for bytes and take at most so many; none at the end of the stream. -/
  read : Nat → m (Except StreamError (List UInt8))
  /-- Offer bytes, and learn how many of the first ones were taken. -/
  write : List UInt8 → m (Except StreamError Nat)
  /-- Give up the connection. -/
  abort : m Unit
  /-- Wait until everything has been sent. -/
  flush : m (Except StreamError Unit)

/-- A connection without a sign of life breaks after this time. -/
def socketTimeout : Micros := seconds 10

/-- Time for the last segment of a connection that is closed. -/
def closeTimeout : Micros := seconds 1

namespace TcpSocket

/-- The first address of a name. -/
def resolve (s : TcpSocket m) (host : String) : m (Except NetError Ipv4) :=
  Net.resolve s.lookUp host

/-- Open a connection. -/
def dial (s : TcpSocket m) (remote : Endpoint) : m (Except NetError Unit) := do
  return (← s.connect remote).mapError .connect

/-- Wait for bytes and take at most `room`. -/
def receive (s : TcpSocket m) (room : Nat) : m (Except NetError (List UInt8)) := do
  return (← s.read room).mapError .tcp

/-- Write all the bytes. A socket that takes none is closed. -/
def writeAll (s : TcpSocket m) (bytes : List UInt8) : m (Except NetError Unit) :=
  if bytes = [] then return .ok ()
  else do
    match ← s.write bytes with
    | .error e => return .error (.tcp e)
    | .ok n =>
      if n = 0 then return .error .closed
      else s.writeAll (bytes.drop n)
termination_by bytes.length
decreasing_by
  have := List.length_pos_iff.mpr ‹¬bytes = []›
  simp only [List.length_drop]
  omega

/-- Close the connection. A failure is of no interest any more. -/
def close [Timed m] (s : TcpSocket m) : m Unit := do
  s.abort
  let _ ← Timed.within closeTimeout s.flush

end TcpSocket

end WeatherStation.Net
