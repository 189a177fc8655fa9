import WeatherStation.Net.Tcp
import WeatherStation.WallClock

/-!
# `WeatherStation.Net.Sntp`: the time of day from a time server

One query is one datagram of 48 bytes each way. The request carries a time stamp made from the
uptime, and the answer has to quote it: `epoch?` checks an answer and gives the seconds since
1970 that it tells. `fetch` asks a server, and `syncClock` sets the wall clock by it.

Time stamps are 64-bit fixed-point numbers, whole seconds since 1900 in the upper half.
-/

set_option autoImplicit false

namespace WeatherStation.Net.Sntp

/-- Server that is asked for the time. -/
def defaultServer : String := "pool.ntp.org"

/-- Time for an answer. -/
def timeout : Micros := seconds 2

/-- Length of a request and of an answer. -/
def packetLength : Nat := 48

/-- Seconds from 1900 to 1970. -/
def epochOffset : Nat := 2208988800

/-! ### Packets -/

/-- The time stamp of an uptime, as if the station had been started in 1970. -/
def timestamp (uptime : Micros) : UInt64 :=
  UInt64.ofNat ((uptime.toSeconds + epochOffset) * 0x100000000 +
    uptime % 1000000 * 0xFFFFFFFF / 1000000)

/-- A 64-bit number, high byte first. -/
def bigEndian (n : UInt64) : List UInt8 :=
  (List.range 8).map fun i => UInt8.ofNat (n.toNat / Nat.pow 256 (7 - i))

/-- The number that bytes write, high byte first. -/
def number (bytes : List UInt8) : Nat := bytes.foldl (fun n b => 256 * n + b.toNat) 0

/-- Each byte adds eight bits to the number before it. -/
theorem foldl_bytes_lt (bytes : List UInt8) (n : Nat) :
    bytes.foldl (fun n b => 256 * n + b.toNat) n < (n + 1) * Nat.pow 256 bytes.length := by
  induction bytes generalizing n with
  | nil => exact Nat.lt_of_lt_of_eq (Nat.lt_succ_self n) (Nat.mul_one _).symm
  | cons b rest ih =>
    have hbyte : 256 * n + b.toNat + 1 ≤ (n + 1) * 256 := by
      have hlt := b.toNat_lt
      omega
    calc rest.foldl (fun n b => 256 * n + b.toNat) (256 * n + b.toNat)
        < (256 * n + b.toNat + 1) * Nat.pow 256 rest.length := ih _
      _ ≤ (n + 1) * 256 * Nat.pow 256 rest.length := Nat.mul_le_mul_right _ hbyte
      _ = (n + 1) * Nat.pow 256 (rest.length + 1) := by
        rw [Nat.mul_assoc, Nat.mul_comm 256]
        rfl

/-- The number in a field of a packet. -/
def field (bytes : List UInt8) (start length : Nat) : Nat :=
  number ((bytes.drop start).take length)

/-- A field of four bytes holds a number of 32 bits. -/
theorem field_four_lt (bytes : List UInt8) (start : Nat) : field bytes start 4 < 0x100000000 := by
  have hnumber := foldl_bytes_lt ((bytes.drop start).take 4) 0
  have hlength : ((bytes.drop start).take 4).length ≤ 4 := List.length_take_le 4 _
  have hpow : Nat.pow 256 ((bytes.drop start).take 4).length ≤ Nat.pow 256 4 :=
    Nat.pow_le_pow_right (by decide) hlength
  rw [Nat.zero_add, Nat.one_mul] at hnumber
  exact Nat.lt_of_lt_of_le hnumber hpow

/-- A request of version 4 from a client. Only its transmit time is filled in. -/
def request (transmit : UInt64) : List UInt8 :=
  0x23 :: List.replicate 39 0 ++ bigEndian transmit

/-- A datagram and where it came from. -/
structure Datagram where
  source : Endpoint
  bytes : List UInt8
  deriving DecidableEq, Repr

/-- The seconds since 1970 in the answer to a request. The checks are made in this order; a
fraction of all ones counts as the next second. -/
def epoch? (server : Endpoint) (transmit : UInt64) (answer : Datagram) :
    Except SntpError Nat :=
  let bytes := answer.bytes
  let head := field bytes 0 1
  if answer.source ≠ server then .error .responseAddressMismatch
  else if bytes.length ≠ packetLength then .error .incorrectPayload
  else if field bytes 24 8 ≠ transmit.toNat then .error .incorrectOriginTimestamp
  else if head % 8 ≠ 4 ∧ head % 8 ≠ 5 then .error .incorrectMode
  else if head / 8 % 8 ≠ 4 then .error .incorrectResponseVersion
  else if field bytes 1 1 = 0 then .error .incorrectStratumHeaders
  else .ok (field bytes 40 4 - epochOffset + if field bytes 44 4 = 0xFFFFFFFF then 1 else 0)

/-- A check that refuses has no result. -/
theorem ok_of_check {refused : Prop} [Decidable refused] {e : SntpError}
    {rest : Except SntpError Nat} {epoch : Nat}
    (h : (if refused then .error e else rest) = .ok epoch) : rest = .ok epoch := by
  split at h
  · cases h
  · exact h

/-- A server gives a time in 32 bits. A clock that is set by it stays in 64 bits
(`WallClock.now_lt`). -/
theorem epoch?_lt {server : Endpoint} {transmit : UInt64} {answer : Datagram} {epoch : Nat}
    (h : epoch? server transmit answer = .ok epoch) : epoch < 0x100000000 := by
  have hseconds := field_four_lt answer.bytes 40
  have hround : (if field answer.bytes 44 4 = 0xFFFFFFFF then 1 else 0) ≤ 1 := by
    split
    · exact Nat.le_refl 1
    · exact Nat.zero_le 1
  -- The checks before the result are six.
  have hresult :=
    ok_of_check (ok_of_check (ok_of_check (ok_of_check (ok_of_check (ok_of_check h)))))
  obtain rfl := Except.ok.inj hresult
  rw [epochOffset]
  omega

/-! ### Queries -/

variable {m : Type → Type} [Monad m]

/-- A UDP socket of the stack. -/
structure UdpSocket (m : Type → Type) where
  lookUp : LookUp m
  /-- Take a local port, any for port 0. -/
  bind : UInt16 → m Bool
  /-- Send a datagram. -/
  send : Endpoint → List UInt8 → m Bool
  /-- Wait for a datagram that fits a packet. -/
  receive : m (Option Datagram)

/-- Send a request and wait for its answer. -/
def ask [Timed m] (s : UdpSocket m) (server : Endpoint) : m (Except SntpError Nat) := do
  let transmit := timestamp (← Timed.now)
  if !(← s.send server (request transmit)) then
    return .error .network
  match ← s.receive with
  | none => return .error .network
  | some answer => return epoch? server transmit answer

/-- Ask a server for the seconds since 1970. -/
def fetch [Timed m] (s : UdpSocket m) (server : String) : m (Except NetError Nat) := do
  match ← resolve s.lookUp server with
  | .error e => return .error e
  | .ok address =>
    if !(← s.bind 0) then
      return .error .udp
    match ← Timed.within timeout (ask s ⟨address, sntpPort⟩) with
    | none => return .error .timeout
    | some answer => return answer.mapError .sntp

/-- Set a clock by a server, and learn whether it was set. The clock counts from the uptime,
in milliseconds, at which the query began. -/
def syncClock [Timed m] (s : UdpSocket m) (server : String) (clock : WallClock) :
    m (Bool × WallClock) := do
  let uptime := (← Timed.now).toMillis
  let answer ← fetch s server
  return clock.sync answer.toOption uptime

end WeatherStation.Net.Sntp
