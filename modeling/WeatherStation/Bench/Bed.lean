import WeatherStation.Net.Sntp
import WeatherStation.Net.Wifi
import WeatherStation.Text.Hex

/-!
# `WeatherStation.Bench.Bed`: a network that follows a script

The bed stands in for the radio, the network stack and the name server. Every call gets the
next reply from the script of its kind, or a default reply when the script is used up. A reply
can take time, and it can fail to come at all. What time alone decides, the state of the link
and the address of the interface, stands in a timeline.

`OnBed` is the monad of computations on the bed. A computation halts when the time it is
allowed is over, or when it waits for something that will never happen.
-/

set_option autoImplicit false

namespace WeatherStation.Bench

open Net

/-- A reply of the script. -/
inductive Reply (α : Type) where
  /-- The result, some time after the call. -/
  | after (delay : Micros) (result : α)
  /-- No result, ever. -/
  | never

/-- One byte of a scripted datagram. An answer can quote the transmit time of the request. -/
inductive DatagramByte where
  | literal (byte : UInt8)
  /-- This byte of the transmit time. -/
  | echo (index : Nat)
  deriving DecidableEq, Repr

/-- The bytes that hex digits write, where a run of sixteen letters `O` stands for the transmit
time. -/
def DatagramByte.ofText? : List Char → Option (List DatagramByte)
  | [] => some []
  | 'O' :: rest =>
    if rest.take 15 = List.replicate 15 'O' then
      (ofText? (rest.drop 15)).map ((List.range 8).map echo ++ ·)
    else none
  | high :: low :: rest =>
    match Text.Hex.byte? high low, ofText? rest with
    | some b, some bytes => some (literal b :: bytes)
    | _, _ => none
  | _ => none
termination_by text => text.length

/-- A datagram of the script, and where it seems to come from. -/
structure ScriptedDatagram where
  bytes : List DatagramByte
  source : Endpoint
  deriving DecidableEq, Repr

/-- The replies to come, call by call. -/
structure Script where
  lookUp : List (Reply (Except DnsError (List Ipv4))) := []
  dial : List (Reply (Except DialError Unit)) := []
  read : List (Reply (Except StreamError (List UInt8))) := []
  /-- The most bytes that the socket takes; any number without one. -/
  write : List (Reply (Except StreamError (Option Nat))) := []
  flush : List (Reply (Except StreamError Unit)) := []
  bind : List (Reply Bool) := []
  send : List (Reply Bool) := []
  receive : List (Reply (Option ScriptedDatagram)) := []
  configure : List (Reply Bool) := []
  start : List (Reply Bool) := []
  associate : List (Reply Bool) := []

/-- A call that reached the bed. -/
inductive BedCall where
  | setTimeout (limit : Micros)
  | lookUp (name : String)
  | dial (remote : Endpoint)
  /-- What the socket took, nothing if it failed. -/
  | write (taken : Option (List UInt8))
  | abort
  | flush
  | bind (port : UInt16)
  | send (remote : Endpoint) (bytes : List UInt8)
  | configure (network : AccessPoint)
  | start (time : Micros)
  | associate (time : Micros)

/-- The network and its clock. -/
structure Bed where
  now : Micros := 0
  /-- When the present computation is dropped. -/
  limit : Option Micros := none
  script : Script := {}
  /-- Whether the radio is associated, from a time on. -/
  links : List (Micros × Bool) := []
  /-- The address of the interface, from a time on. -/
  addresses : List (Micros × Option Ipv4) := []
  /-- The transmit time of the last request. -/
  transmit : List UInt8 := []
  /-- The calls so far, latest first. -/
  calls : List BedCall := []

/-- Why a computation did not come to its end. -/
inductive Halt where
  /-- Its time was over. -/
  | elapsed
  /-- It waits for something that will never happen. -/
  | stuck
  deriving DecidableEq, Repr

/-- Computations on the bed. -/
abbrev OnBed := ExceptT Halt (StateM Bed)

/-! ### Time -/

/-- Wait until a time, or halt when the limit comes first. -/
def waitUntil (due : Micros) : OnBed Unit := do
  let b ← get
  match b.limit with
  | none => set { b with now := due }
  | some limit =>
    if due ≤ limit then set { b with now := due }
    else
      set { b with now := limit }
      throw .elapsed

/-- Wait for something that will never happen. -/
def waitForever {α : Type} : OnBed α := do
  let b ← get
  match b.limit with
  | none => throw .stuck
  | some limit =>
    set { b with now := limit }
    throw .elapsed

/-- Run a computation with a limit. Limits are not nested on the bed. -/
def withLimit {α : Type} (time : Micros) (x : OnBed α) : OnBed (Option α) := fun b =>
  match x { b with limit := some (b.now + time) } with
  | (.ok a, b) => (.ok (some a), { b with limit := none })
  | (.error .elapsed, b) => (.ok none, { b with limit := none })
  | (.error .stuck, b) => (.error .stuck, { b with limit := none })

/-- On the bed time passes only where a computation waits. -/
instance : Timed OnBed where
  now := return (← get).now
  pause time := do waitUntil ((← get).now + time)
  within := withLimit

/-- Run a computation on the bed. -/
def Bed.run {α : Type} (b : Bed) (x : OnBed α) : Except Halt α × Bed := x b

/-! ### Replies -/

/-- Note a call. -/
def note (call : BedCall) : OnBed Unit :=
  modify fun b => { b with calls := call :: b.calls }

/-- Change the script. -/
def changeScript (f : Script → Script) : OnBed Unit :=
  modify fun b => { b with script := f b.script }

/-- Wait for a reply. Without one the default is there at once, or nothing ever comes. -/
def settle {α : Type} (reply : Option (Reply α)) (default : Option α) : OnBed α := do
  match reply, default with
  | some (.after delay result), _ =>
    waitUntil ((← get).now + delay)
    return result
  | some .never, _ => waitForever
  | none, some a => return a
  | none, none => waitForever

/-- The reply of a call that does not wait. -/
def atOnce (replies : List (Reply Bool)) : Bool :=
  match replies with
  | .after _ result :: _ => result
  | _ => true

/-- The address that names have by default. -/
def defaultAddress : Ipv4 := ⟨192, 168, 1, 10⟩

/-- Resolve a name. A dotted address is its own, and no server is asked. -/
def lookUp : LookUp OnBed := fun name => do
  match Ipv4.ofText? name with
  | some address => return .ok [address]
  | none =>
    note (.lookUp name)
    let replies := (← get).script.lookUp
    changeScript fun s => { s with lookUp := replies.tail }
    settle replies.head? (some (.ok [defaultAddress]))

/-! ### TCP -/

/-- Read. What the reader has no room for is the next reply. -/
def readStream (room : Nat) : OnBed (Except StreamError (List UInt8)) := do
  let replies := (← get).script.read
  changeScript fun s => { s with read := replies.tail }
  match ← settle replies.head? none with
  | .error e => return .error e
  | .ok bytes =>
    if room < bytes.length then
      changeScript fun s => { s with read := .after 0 (.ok (bytes.drop room)) :: s.read }
    return .ok (bytes.take room)

/-- Write: the socket takes as many of the first bytes as the reply says. -/
def writeStream (bytes : List UInt8) : OnBed (Except StreamError Nat) := do
  let replies := (← get).script.write
  changeScript fun s => { s with write := replies.tail }
  match ← settle replies.head? (some (.ok none)) with
  | .error e =>
    note (.write none)
    return .error e
  | .ok most =>
    let taken := bytes.take (most.getD bytes.length)
    note (.write (some taken))
    return .ok taken.length

/-- The TCP socket on the bed. -/
def tcpSocket : TcpSocket OnBed where
  lookUp := lookUp
  connect remote := do
    note (.dial remote)
    let replies := (← get).script.dial
    changeScript fun s => { s with dial := replies.tail }
    settle replies.head? (some (.ok ()))
  read := readStream
  write := writeStream
  abort := note .abort
  flush := do
    note .flush
    let replies := (← get).script.flush
    changeScript fun s => { s with flush := replies.tail }
    settle replies.head? (some (.ok ()))

/-! ### UDP -/

/-- The bytes of a scripted datagram. -/
def DatagramByte.fill (transmit : List UInt8) : DatagramByte → UInt8
  | .literal byte => byte
  | .echo index => transmit[index]?.getD 0

/-- The UDP socket on the bed. A datagram that does not fit a packet is a failure. -/
def udpSocket : Sntp.UdpSocket OnBed where
  lookUp := lookUp
  bind port := do
    note (.bind port)
    let replies := (← get).script.bind
    changeScript fun s => { s with bind := replies.tail }
    return atOnce replies
  send remote bytes := do
    note (.send remote bytes)
    let replies := (← get).script.send
    modify fun b => { b with transmit := bytes.drop 40 }
    changeScript fun s => { s with send := replies.tail }
    settle replies.head? (some true)
  receive := do
    let replies := (← get).script.receive
    changeScript fun s => { s with receive := replies.tail }
    match ← settle replies.head? none with
    | none => return none
    | some d =>
      let transmit := (← get).transmit
      if Sntp.packetLength < d.bytes.length then return none
      else return some ⟨d.source, d.bytes.map (·.fill transmit)⟩

/-! ### Radio -/

/-- The value of a timeline at a time: that of the last entry whose time has come. -/
def valueAt {α : Type} (entries : List (Micros × α)) (time : Micros) : Option α :=
  ((entries.filter fun e => e.1 ≤ time).getLast?).map (·.2)

/-- Whether the radio is associated now. -/
def Bed.isAssociated (b : Bed) : Bool := (valueAt b.links b.now).getD false

/-- The address of the interface now. -/
def Bed.address? (b : Bed) : Option Ipv4 := (valueAt b.addresses b.now).join

/-- Wait until the interface has an address. -/
def awaitAddress : OnBed Unit := do
  let b ← get
  if b.address?.isSome then return
  let times := (b.addresses.map (·.1)).filter fun t =>
    b.now < t && ((valueAt b.addresses t).join).isSome
  match times.min? with
  | some time => waitUntil time
  | none => waitForever

/-- Longest name of a network that the radio takes, in bytes. -/
def maxSsidLength : Nat := 32

/-- Longest password that the radio takes, in bytes. -/
def maxPasswordLength : Nat := 64

/-- The radio on the bed. It refuses a name or a password that is too long. -/
def radio : Radio OnBed where
  configure a := do
    note (.configure a)
    if maxSsidLength < a.ssid.utf8ByteSize || maxPasswordLength < a.password.utf8ByteSize then
      return false
    let replies := (← get).script.configure
    changeScript fun s => { s with configure := replies.tail }
    return atOnce replies
  start := do
    note (.start (← get).now)
    let replies := (← get).script.start
    changeScript fun s => { s with start := replies.tail }
    return atOnce replies
  associate := do
    note (.associate (← get).now)
    let replies := (← get).script.associate
    changeScript fun s => { s with associate := replies.tail }
    return atOnce replies
  isAssociated := return (← get).isAssociated
  awaitAddress := awaitAddress

end WeatherStation.Bench
