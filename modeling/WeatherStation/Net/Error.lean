/-!
# `WeatherStation.Net.Error`: what can go wrong on the network

The errors of name resolution, of a TCP connection and of a time query, and `NetError`, which
is any of them together with the cases that the station tells apart itself.
-/

set_option autoImplicit false

namespace WeatherStation.Net

/-- Why a name was not resolved. -/
inductive DnsError where
  | invalidName
  | nameTooLong
  | failed
  deriving DecidableEq, Repr

/-- The errors, in the order they are declared. -/
def DnsError.all : List DnsError := [invalidName, nameTooLong, failed]

/-- Why a connection was not opened. -/
inductive DialError where
  | invalidState
  | connectionReset
  | timedOut
  | noRoute
  deriving DecidableEq, Repr

/-- The errors, in the order they are declared. -/
def DialError.all : List DialError := [invalidState, connectionReset, timedOut, noRoute]

/-- Why an open connection broke. -/
inductive StreamError where
  | connectionReset
  deriving DecidableEq, Repr

/-- The errors, in the order they are declared. -/
def StreamError.all : List StreamError := [connectionReset]

/-- Why the answer of a time server was not taken. -/
inductive SntpError where
  /-- The request could not be sent, or no datagram could be received. -/
  | network
  /-- The datagram is not from the server that was asked. -/
  | responseAddressMismatch
  /-- The datagram has the wrong length. -/
  | incorrectPayload
  /-- The answer is not to this request. -/
  | incorrectOriginTimestamp
  /-- The answer is neither from a server nor a broadcast. -/
  | incorrectMode
  | incorrectResponseVersion
  /-- The server is not synchronized. -/
  | incorrectStratumHeaders
  deriving DecidableEq, Repr

/-- Why the network did not do what was asked. -/
inductive NetError where
  | dns (error : DnsError)
  /-- The name has no IPv4 address. -/
  | noAddress
  | connect (error : DialError)
  | tcp (error : StreamError)
  /-- The connection takes no more bytes. -/
  | closed
  /-- No local port was free. -/
  | udp
  /-- The time server did not answer in time. -/
  | timeout
  | sntp (error : SntpError)
  deriving DecidableEq, Repr

end WeatherStation.Net
