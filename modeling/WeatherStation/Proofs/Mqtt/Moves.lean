import WeatherStation.Mqtt.Session

/-!
# `WeatherStation.Proofs.Mqtt.Moves`: what the session does, move by move

Between two waits the session does several things in a row: a reply ends a write, the next
packets are looked at, the action ends, and so on. `Move` lists them one by one. A move leads
from a `Point` inside an action to the next one, and each constructor says when the move is
made and what it changes. A `Path` is a sequence of moves at one time.

`begin_path` and `resume_path` show that beginning an action and going on with a reply are
such paths. So a property of points and sessions that every move keeps is kept by the session
(`Path.invariant`), and the functions of the session need not be opened again.
-/

set_option autoImplicit false

namespace WeatherStation.Proofs.Mqtt

open WeatherStation.Mqtt

/-- Where the session stands. -/
inductive Point where
  /-- It waits or is between two actions, as its phase says. -/
  | waiting
  /-- It has begun an action. -/
  | running (action : Action)
  /-- It is about to write a packet. If the packet cannot be encoded it goes on elsewhere. -/
  | sending (packet : Packet) (errand : Errand) (otherwise : Point)
  /-- It looks for a packet. -/
  | scanning (purpose : Purpose) (timer : Timer)
  /-- It has applied a packet. -/
  | judging (purpose : Purpose) (timer : Timer) (received : Received)
  /-- The connection has failed. -/
  | losing (purpose : Purpose)
  /-- The broker has refused, or not answered in time. -/
  | givingUp (purpose : Purpose)
  /-- The action is about to end. -/
  | ending (event : Event)

/-- For what purpose the session would read if a write succeeded. -/
def purposeOf : Errand → Purpose
  | .connect => .connack
  | .subscribe id => .suback id
  | .farewell => .poll
  | .ping => .poll
  | .publish _ => .poll
  | .puback _ purpose _ => purpose

/-- The flags before a new connection. -/
def resetFlags (s : Session) : Session :=
  { s with exchange := { s.exchange with disconnectPending := false, connected := false } }

/-- The exchange when a packet goes to the decoder. -/
def noteFramed (s : Session) (now : Micros) (bytes : List UInt8) : Exchange :=
  s.exchange.note now (.framed bytes)

/-- What fits the buffer is the encoding of the packet. -/
theorem encodeWithin_eq {capacity : Nat} {packet : Packet} {bytes : List UInt8}
    (h : packet.encodeWithin capacity = some bytes) : packet.encode = bytes := by
  rw [Packet.encodeWithin] at h
  split at h
  · cases h
  · split at h
    · exact Option.some.inj h
    · cases h

/-- A packet that is not too long and has no id of zero is encoded in full. -/
theorem encodeWithin_of_le {capacity : Nat} {packet : Packet} (hid : packet.id? ≠ some 0)
    (h : packet.encode.length ≤ capacity) :
    packet.encodeWithin capacity = some packet.encode := by
  rw [Packet.encodeWithin, if_neg hid, if_pos h]

/-- The two bytes of a number, as they are written. -/
theorem toNat_bytes (n : UInt16) :
    (n >>> 8).toUInt8.toNat = n.toNat / 256 ∧ n.toUInt8.toNat = n.toNat % 256 := by
  have hn := n.toNat_lt
  have hhigh : (n >>> 8).toUInt8.toNat = n.toNat / 256 % 256 := by
    simp [Nat.shiftRight_eq_div_pow]
  have hlow : n.toUInt8.toNat = n.toNat % 256 := by simp
  exact ⟨by omega, hlow⟩

/-- One thing that the session does. Each constructor has the condition under which the code takes
this branch, the point it comes to, and all that it changes. -/
inductive Move (now : Micros) : Point → Session → Point → Session → Prop where
  | begin {s : Session} {action : Action} (h : s.phase = .idle action) :
    Move now .waiting s (.running action) (s.note now (.began action))
  -- Actions.
  | resolveAtOnce {s : Session} {address : Ipv4} (h : Ipv4.ofText? s.config.host = some address) :
    Move now (.running .resolve) s (.ending .brokerResolved)
      { s with broker := some ⟨address, s.config.port⟩ }
  | resolveAsk {s : Session} (h : Ipv4.ofText? s.config.host = none) :
    Move now (.running .resolve) s .waiting (s.await now .resolving)
  | connectNowhere {s : Session} (h : s.broker = none) :
    Move now (.running .connect) s (.ending .connectFailed) (resetFlags s)
  | connectDial {s : Session} {remote : Endpoint} (h : s.broker = some remote) :
    Move now (.running .connect) s .waiting
      ({ resetFlags s with inbound := s.inbound.clear }.await now (.dialing remote))
  | subscribeNothing {s : Session} (h : s.config.topics = []) :
    Move now (.running .subscribe) s (.ending .subscribed) (s.setConnected true)
  | subscribeUnfit {s : Session} (h : s.config.topics ≠ [])
      (hfit : Session.topicsFit s.config.topics = false) :
    Move now (.running .subscribe) s (.ending .subscribeFailed) s
  | subscribeSend {s : Session} (h : s.config.topics ≠ [])
      (hfit : Session.topicsFit s.config.topics = true) :
    Move now (.running .subscribe) s
      (.sending (.subscribe (Session.nextSubscribeId s.subscribeId)
          (s.config.topics.map (·, QoS.atMostOnce)))
        (.subscribe (Session.nextSubscribeId s.subscribeId)) (.ending .subscribeFailed))
      { s with subscribeId := Session.nextSubscribeId s.subscribeId }
  | pollFarewell {s : Session} (h : s.exchange.disconnectPending = true) :
    Move now (.running .poll) s (.sending .disconnect .farewell (.ending .linkLost)) s
  | pollPing {s : Session} {due : Micros} (h : s.exchange.disconnectPending = false)
      (hping : s.nextPing = some due) (hdue : due ≤ now) :
    Move now (.running .poll) s (.sending .pingreq .ping (.ending .linkLost))
      { s with nextPing := some (now + s.config.pingInterval) }
  | pollRead {s : Session} (h : s.exchange.disconnectPending = false)
      (hping : ∀ due, s.nextPing = some due → now < due) :
    Move now (.running .poll) s (.scanning .poll (.set (now + s.config.timeouts.poll))) s
  | retry {s : Session} {delay : Micros} :
    Move now (.running (.retry delay)) s .waiting
      (s.await now (.sleeping (.set (now + delay)) .retry))
  | teardown {s : Session} :
    Move now (.running .teardown) s .waiting
      ((s.setConnected false).await now (.closing .teardown))
  | backoff {s : Session} {delay : Micros} :
    Move now (.running (.backoff delay)) s .waiting
      ((s.setConnected false).await now (.sleeping (.set (now + delay)) .backoff))
  -- Replies.
  | resolved {s : Session} {address : Ipv4} (h : s.phase = .resolving) :
    Move now .waiting s (.ending .brokerResolved)
      { s.note now (.answered (.resolve s.config.host) (.resolved (some address))) with
        broker := some ⟨address, s.config.port⟩ }
  | unresolved {s : Session} (h : s.phase = .resolving) :
    Move now .waiting s (.ending .resolveFailed)
      (s.note now (.answered (.resolve s.config.host) (.resolved none)))
  | dialed {s : Session} {remote : Endpoint} (h : s.phase = .dialing remote) :
    Move now .waiting s
      (.sending (.connect ⟨s.config.keepAliveSeconds, s.config.clientId, true⟩) .connect
        (.losing .connack))
      (s.note now (.answered (.dial remote) (.dialed true)))
  | undialed {s : Session} {remote : Endpoint} (h : s.phase = .dialing remote) :
    Move now .waiting s (.losing .connack)
      (s.note now (.answered (.dial remote) (.dialed false)))
  | writeFailed {s : Session} {bytes : List UInt8} {errand : Errand}
      (h : s.phase = .writing bytes errand) :
    Move now .waiting s (.losing (purposeOf errand))
      (s.note now (.answered (.write bytes) (.written false)))
  | writtenConnect {s : Session} {bytes : List UInt8} (h : s.phase = .writing bytes .connect) :
    Move now .waiting s (.scanning .connack (.set (now + s.config.timeouts.connack)))
      (s.note now (.answered (.write bytes) (.written true)))
  | writtenSubscribe {s : Session} {bytes : List UInt8} {id : UInt16}
      (h : s.phase = .writing bytes (.subscribe id)) :
    Move now .waiting s (.scanning (.suback id) (.set (now + s.config.timeouts.suback)))
      (s.note now (.answered (.write bytes) (.written true)))
  | writtenFarewell {s : Session} {bytes : List UInt8} (h : s.phase = .writing bytes .farewell) :
    Move now .waiting s (.losing .poll)
      (s.note now (.answered (.write bytes) (.written true)))
  | writtenPing {s : Session} {bytes : List UInt8} (h : s.phase = .writing bytes .ping) :
    Move now .waiting s (.scanning .poll (.set (now + s.config.timeouts.poll)))
      (s.note now (.answered (.write bytes) (.written true)))
  | writtenPublish {s : Session} {bytes : List UInt8} {id : UInt16}
      (h : s.phase = .writing bytes (.publish id)) :
    Move now .waiting s (.ending .pollIdle)
      { s.note now (.answered (.write bytes) (.written true)) with inFlight := some id }
  | writtenPuback {s : Session} {bytes : List UInt8} {id : UInt16} {purpose : Purpose}
      {due : Micros} (h : s.phase = .writing bytes (.puback id purpose due))
      (hpurpose : purpose ≠ .poll) :
    Move now .waiting s (.scanning purpose (.set due))
      (s.note now (.answered (.write bytes) (.written true)))
  | writtenLastPuback {s : Session} {bytes : List UInt8} {id : UInt16} {due : Micros}
      (h : s.phase = .writing bytes (.puback id .poll due)) :
    Move now .waiting s (.ending .pollIdle)
      (s.note now (.answered (.write bytes) (.written true)))
  | received {s : Session} {purpose : Purpose} {timer : Timer} {bytes : List UInt8}
      (h : s.phase = .reading purpose timer) (hbytes : bytes ≠ []) :
    Move now .waiting s (.scanning purpose timer)
      { s.note now (.answered (.read s.inbound.spare) (.received (some bytes))) with
        inbound := s.inbound.fill bytes }
  | readEnded {s : Session} {purpose : Purpose} {timer : Timer}
      (h : s.phase = .reading purpose timer) :
    Move now .waiting s (.losing purpose)
      (s.note now (.answered (.read s.inbound.spare) (.received (some []))))
  | readFailed {s : Session} {purpose : Purpose} {timer : Timer}
      (h : s.phase = .reading purpose timer) :
    Move now .waiting s (.losing purpose)
      (s.note now (.answered (.read s.inbound.spare) (.received none)))
  | expired {s : Session} {purpose : Purpose} {timer : Timer}
      (h : s.phase = .reading purpose timer) (hdue : timer.runsOut now = true) :
    Move now .waiting s (.givingUp purpose)
      (s.note now (.answered (.read s.inbound.spare) .elapsed))
  | requested {s : Session} {timer : Timer} {request : Request}
      (h : s.phase = .reading .poll timer) (hrequest : s.exchange.request = some request) :
    Move now .waiting s (.sending request.packet (.publish request.id) (.ending .pollIdle))
      { s with
        exchange :=
          { s.exchange.note now (.answered (.read s.inbound.spare) .requested) with
            request := none }.note now (.taken request) }
  | closedEarly {s : Session} (h : s.phase = .closing .connectFailed) :
    Move now .waiting s (.ending .connectFailed) (s.note now (.answered .close .closed))
  | closedDown {s : Session} (h : s.phase = .closing .teardown) :
    Move now .waiting s .waiting
      { s with
        inbound := s.inbound.clear
        nextPing := none
        inFlight := none
        exchange :=
          { s.exchange.note now (.answered .close .closed) with request := none } }.reenter
  | restedRetry {s : Session} {timer : Timer} (h : s.phase = .sleeping timer .retry)
      (hdue : timer.runsOut now = true) :
    Move now .waiting s .waiting (s.note now (.answered (.sleep timer.due) .elapsed)).reenter
  | restedBackoff {s : Session} {timer : Timer} (h : s.phase = .sleeping timer .backoff)
      (hdue : timer.runsOut now = true) :
    Move now .waiting s (.ending .started) (s.note now (.answered (.sleep timer.due) .elapsed))
  -- Packets.
  | corrupt {s : Session} {purpose : Purpose} {timer : Timer} {e : PacketError}
      {reader : PacketReader} (h : s.inbound.frame? = (.error e, reader)) :
    Move now (.scanning purpose timer) s (.losing purpose) { s with inbound := reader }
  | hungry {s : Session} {purpose : Purpose} {timer : Timer} {reader : PacketReader}
      (h : s.inbound.frame? = (.ok none, reader)) :
    Move now (.scanning purpose timer) s .waiting
      ({ s with inbound := reader }.await now (.reading purpose timer))
  | overrun {s : Session} {purpose : Purpose} {timer : Timer} {n : Nat} {reader : PacketReader}
      (h : s.inbound.frame? = (.ok (some n), reader))
      (hpacket : (noteFramed s now (reader.packet n)).interpret now (reader.packet n) =
        .error .overrun) :
    Move now (.scanning purpose timer) s .waiting
      { s with
        inbound := reader
        exchange := noteFramed s now (reader.packet n)
        phase := .crashed }
  | skip {s : Session} {purpose : Purpose} {timer : Timer} {n : Nat} {reader : PacketReader}
      {fault : Fault} (h : s.inbound.frame? = (.ok (some n), reader))
      (hpacket : (noteFramed s now (reader.packet n)).interpret now (reader.packet n) =
        .error fault)
      (hfault : fault ≠ .overrun) :
    Move now (.scanning purpose timer) s (.scanning purpose timer)
      { s with
        inbound := reader.consume n
        exchange := (noteFramed s now (reader.packet n)).note now (.skipped (reader.packet n)) }
  | apply {s : Session} {purpose : Purpose} {timer : Timer} {n : Nat} {reader : PacketReader}
      {received : Received} {exchange : Exchange} (h : s.inbound.frame? = (.ok (some n), reader))
      (hpacket : (noteFramed s now (reader.packet n)).interpret now (reader.packet n) =
        .ok (received, exchange)) :
    Move now (.scanning purpose timer) s (.judging purpose timer received)
      { s with
        inbound := reader.consume n
        exchange
        inFlight := Session.inFlightAfter s.inFlight received }
  -- What a packet means.
  | acknowledge {s : Session} {purpose : Purpose} {timer : Timer} {received : Received}
      {id : UInt16} (h : received.reply? = some id) :
    Move now (.judging purpose timer received) s
      (.sending (.puback id) (.puback id purpose timer.due) (.losing purpose)) s
  | grantConnack {s : Session} {timer : Timer} {received : Received}
      (h : received.reply? = none) (hverdict : Session.verdict .connack received = .granted) :
    Move now (.judging .connack timer received) s (.ending .brokerConnected)
      { s with nextPing := some (now + s.config.pingInterval) }
  | grantSuback {s : Session} {timer : Timer} {received : Received} {id : UInt16}
      (h : received.reply? = none) (hverdict : Session.verdict (.suback id) received = .granted) :
    Move now (.judging (.suback id) timer received) s (.ending .subscribed)
      (s.setConnected true)
  | grantPoll {s : Session} {timer : Timer} {received : Received} (h : received.reply? = none) :
    Move now (.judging .poll timer received) s (.ending .pollIdle) s
  | refuse {s : Session} {purpose : Purpose} {timer : Timer} {received : Received}
      (h : received.reply? = none) (hverdict : Session.verdict purpose received = .refused) :
    Move now (.judging purpose timer received) s (.givingUp purpose) s
  | pass {s : Session} {purpose : Purpose} {timer : Timer} {received : Received}
      (h : received.reply? = none) (hverdict : Session.verdict purpose received = .immaterial) :
    Move now (.judging purpose timer received) s (.scanning purpose (.set timer.due)) s
  -- Ends.
  | send {s : Session} {packet : Packet} {errand : Errand} {otherwise : Point}
      {bytes : List UInt8} (h : packet.encodeWithin outboundCapacity = some bytes) :
    Move now (.sending packet errand otherwise) s .waiting (s.await now (.writing bytes errand))
  | sendNot {s : Session} {packet : Packet} {errand : Errand} {otherwise : Point}
      (h : packet.encodeWithin outboundCapacity = none) :
    Move now (.sending packet errand otherwise) s otherwise s
  | loseConnack {s : Session} :
    Move now (.losing .connack) s .waiting (s.await now (.closing .connectFailed))
  | loseLink {s : Session} {purpose : Purpose} (h : purpose ≠ .connack) :
    Move now (.losing purpose) s (.ending .linkLost) s
  | giveUpConnack {s : Session} : Move now (.givingUp .connack) s (.losing .connack) s
  | giveUpSuback {s : Session} {id : UInt16} :
    Move now (.givingUp (.suback id)) s (.ending .subscribeFailed) s
  | giveUpPoll {s : Session} : Move now (.givingUp .poll) s (.ending .pollIdle) s
  | finish {s : Session} {event : Event} :
    Move now (.ending event) s .waiting (s.finish now event)

/-- Moves one after the other, all at one time. -/
inductive Path (now : Micros) : Point → Session → Point → Session → Prop where
  | refl {p : Point} {s : Session} : Path now p s p s
  | step {p q r : Point} {s t u : Session} (head : Move now p s q t) (tail : Path now q t r u) :
    Path now p s r u

section
variable {now : Micros}

/-- What every move keeps is kept along a path. -/
theorem Path.invariant {P : Point → Session → Prop}
    (move : ∀ {p q : Point} {s t : Session}, Move now p s q t → P p s → P q t)
    {p q : Point} {s t : Session} (path : Path now p s q t) (h : P p s) : P q t := by
  induction path with
  | refl => exact h
  | step head _ ih => exact ih (move head h)

/-- What is done in two stretches at one time. -/
theorem Path.trans {p q r : Point} {s t u : Session} (first : Path now p s q t)
    (second : Path now q t r u) : Path now p s r u := by
  induction first with
  | refl => exact second
  | step head _ ih => exact .step head (ih second)

/-! ### The functions of the session are paths -/

/-- The end of an action is one move. -/
theorem finish_path (s : Session) (event : Event) :
    Path now (.ending event) s .waiting (s.finish now event) := .step .finish .refl

/-- To lose the connection ends the action. Only in an attempt to connect the transport is closed
first. -/
theorem lose_path (s : Session) (purpose : Purpose) :
    Path now (.losing purpose) s .waiting (s.lose now purpose) := by
  cases purpose with
  | connack => exact .step .loseConnack .refl
  -- Only an attempt to connect closes the connection at once.
  | suback id => exact .step (.loseLink Purpose.noConfusion) (finish_path s _)
  | poll => exact .step (.loseLink Purpose.noConfusion) (finish_path s _)

/-- To wait no longer is to fail the attempt to connect or to subscribe, or just the end of a poll
round. -/
theorem giveUp_path (s : Session) (purpose : Purpose) :
    Path now (.givingUp purpose) s .waiting (s.giveUp now purpose) := by
  cases purpose with
  | connack => exact .step .giveUpConnack (lose_path s .connack)
  | suback id => exact .step .giveUpSuback (finish_path s _)
  | poll => exact .step .giveUpPoll (finish_path s _)

/-- A packet that fits goes to the transport, and one that does not goes the way of `otherwise`. -/
theorem write_path {s t : Session} {packet : Packet} {errand : Errand} {otherwise : Point}
    (h : Path now otherwise s .waiting t) :
    Path now (.sending packet errand otherwise) s .waiting (s.write now packet errand t) := by
  rw [Session.write]
  split
  · rename_i bytes hbytes
    exact .step (.send hbytes) .refl
  · rename_i hnone
    exact .step (.sendNot hnone) h

/-- The point at which looking for a packet comes to an end, and the session there. -/
def afterIntake (s : Session) (now : Micros) (purpose : Purpose) (timer : Timer) :
    Intake → Point × Session
  | .corrupt => (.losing purpose, s)
  | .overrun => (.waiting, { s with phase := .crashed })
  | .hungry => (.waiting, s.await now (.reading purpose timer))
  | .packet received =>
    (.judging purpose timer received,
      { s with inFlight := Session.inFlightAfter s.inFlight received })

/-- Packets are skipped one after the other until one is applied or there is none. The induction is
that of `receive`, which goes on behind a packet that is skipped. -/
theorem receive_path (s : Session) (purpose : Purpose) (timer : Timer) {intake : Intake}
    {reader reader' : PacketReader} {x x' : Exchange}
    (h : receive now reader x = (intake, reader', x')) :
    let next := afterIntake { s with inbound := reader', exchange := x' } now purpose timer intake
    Path now (.scanning purpose timer) { s with inbound := reader, exchange := x }
      next.1 next.2 := by
  fun_induction receive now reader x with
  | case1 reader x e front hframe =>
    obtain ⟨rfl, rfl, rfl⟩ : _ ∧ _ ∧ _ := by simpa using h
    exact .step (.corrupt hframe) .refl
  | case2 reader x front hframe =>
    obtain ⟨rfl, rfl, rfl⟩ : _ ∧ _ ∧ _ := by simpa using h
    exact .step (.hungry hframe) .refl
  | case3 reader x n front hframe framed received exchange hpacket =>
    obtain ⟨rfl, rfl, rfl⟩ : _ ∧ _ ∧ _ := by simpa using h
    exact .step (.apply hframe hpacket) .refl
  | case4 reader x n front hframe framed hpacket =>
    obtain ⟨rfl, rfl, rfl⟩ : _ ∧ _ ∧ _ := by simpa using h
    exact .step (.overrun hframe hpacket) .refl
  | case5 reader x n front hframe framed fault hfault hpacket ih =>
    exact .step (.skip hframe hpacket hfault) (ih h)

/-- The answer that was waited for ends its action. -/
theorem succeed_path {s : Session} {purpose : Purpose} {timer : Timer} {received : Received}
    (hreply : received.reply? = none) (h : Session.verdict purpose received = .granted) :
    Path now (.judging purpose timer received) s .waiting (s.succeed now purpose) := by
  cases purpose with
  | connack => exact .step (.grantConnack hreply h) (finish_path _ _)
  | suback id => exact .step (.grantSuback hreply h) (finish_path _ _)
  | poll => exact .step (.grantPoll hreply) (finish_path _ _)

/-- Reading: packets are applied until one settles what the session reads for, or until there
is none. -/
theorem read_path (s : Session) (purpose : Purpose) (timer : Timer) :
    Path now (.scanning purpose timer) s .waiting (s.read now purpose timer) := by
  fun_induction Session.read s now purpose timer with
  | case1 s timer inbound exchange h =>
    exact (receive_path s purpose timer h).trans (lose_path _ _)
  | case2 s timer inbound exchange h => exact receive_path s purpose timer h
  | case3 s timer inbound exchange h => exact receive_path s purpose timer h
  | case4 s timer received inbound exchange h s' id hreply =>
    exact (receive_path s purpose timer h).trans
      (.step (.acknowledge hreply) (write_path (lose_path s' purpose)))
  | case5 s timer received inbound exchange h s' hreply hverdict =>
    exact (receive_path s purpose timer h).trans (succeed_path hreply hverdict)
  | case6 s timer received inbound exchange h s' hreply hverdict =>
    exact (receive_path s purpose timer h).trans
      (.step (.refuse hreply hverdict) (giveUp_path _ _))
  | case7 s timer received inbound exchange h s' hreply hverdict ih =>
    exact (receive_path s purpose timer h).trans (.step (.pass hreply hverdict) ih)

/-! ### Actions -/

/-- A subscription begins in one of three ways, with no topics, with topics that do not fit, and
with a SUBSCRIBE. -/
theorem beginSubscribe_path (s : Session) :
    Path now (.running .subscribe) s .waiting (s.beginSubscribe now) := by
  rw [Session.beginSubscribe]
  split
  · rename_i h
    exact .step (.subscribeNothing (List.isEmpty_iff.mp h)) (finish_path _ _)
  · rename_i h
    have htopics : s.config.topics ≠ [] := fun hnil => h (List.isEmpty_iff.mpr hnil)
    split
    · rename_i hfit
      exact .step (.subscribeUnfit htopics (by simpa using hfit)) (finish_path _ _)
    · rename_i hfit
      exact .step (.subscribeSend htopics (by simpa using hfit)) (write_path (finish_path _ _))

/-- A poll round begins with a DISCONNECT if there is a report, with a PINGREQ if one is due, and
else by reading. -/
theorem beginPoll_path (s : Session) :
    Path now (.running .poll) s .waiting (s.beginPoll now) := by
  rw [Session.beginPoll]
  split
  · rename_i hpending
    exact .step (.pollFarewell hpending) (write_path (finish_path _ _))
  · rename_i hpending
    have hopen : s.exchange.disconnectPending = false := by simpa using hpending
    split
    · rename_i due hping
      split
      · rename_i hdue
        exact .step (.pollPing hopen hping hdue) (write_path (finish_path _ _))
      · rename_i hdue
        have hearly : ∀ due', s.nextPing = some due' → now < due' := by
          intro due' h
          obtain rfl : due = due' := Option.some.inj (hping.symm.trans h)
          exact Nat.lt_of_not_le hdue
        exact .step (.pollRead hopen hearly) (read_path _ _ _)
    · rename_i hping
      have hearly : ∀ due, s.nextPing = some due → now < due := by simp [hping]
      exact .step (.pollRead hopen hearly) (read_path _ _ _)

/-- Beginning an action is a path. -/
theorem begin_path {s : Session} {action : Action} (h : s.phase = .idle action) :
    Path now .waiting s .waiting (s.begin now action) := by
  refine .step (.begin h) ?_
  cases action with
  | resolve =>
    show Path now _ _ _ (Session.beginResolve _ now)
    rw [Session.beginResolve]
    split
    · rename_i address haddress
      exact .step (.resolveAtOnce haddress) (finish_path _ _)
    · rename_i hnone
      exact .step (.resolveAsk hnone) .refl
  | connect =>
    show Path now _ _ _ (Session.beginConnect _ now)
    rw [Session.beginConnect]
    dsimp only
    split
    · rename_i hnone
      exact .step (.connectNowhere hnone) (finish_path _ _)
    · rename_i remote hremote
      exact .step (.connectDial hremote) .refl
  | subscribe => exact beginSubscribe_path _
  | poll => exact beginPoll_path _
  | retry delay => exact .step .retry .refl
  | teardown => exact .step .teardown .refl
  | backoff delay => exact .step .backoff .refl

/-! ### Replies -/

/-- The end of a write is a path. -/
theorem onWritten_path {s : Session} {bytes : List UInt8} {errand : Errand} (ok : Bool)
    (h : s.phase = .writing bytes errand) :
    Path now .waiting s .waiting
      ((s.note now (.answered (.write bytes) (.written ok))).onWritten now errand ok) := by
  cases ok with
  | false =>
    cases errand with
    | connect => exact .step (.writeFailed h) (lose_path _ .connack)
    | subscribe id => exact .step (.writeFailed h) (lose_path _ (.suback id))
    | farewell => exact .step (.writeFailed h) (lose_path _ .poll)
    | ping => exact .step (.writeFailed h) (lose_path _ .poll)
    | publish id => exact .step (.writeFailed h) (lose_path _ .poll)
    | puback id purpose due => exact .step (.writeFailed h) (lose_path _ purpose)
  | true =>
    cases errand with
    | connect => exact .step (.writtenConnect h) (read_path _ _ _)
    | subscribe id => exact .step (.writtenSubscribe h) (read_path _ _ _)
    | farewell => exact .step (.writtenFarewell h) (lose_path _ .poll)
    | ping => exact .step (.writtenPing h) (read_path _ _ _)
    | publish id => exact .step (.writtenPublish h) (finish_path _ _)
    | puback id purpose due =>
      cases purpose with
      | connack => exact .step (.writtenPuback h Purpose.noConfusion) (read_path _ _ _)
      | suback _ => exact .step (.writtenPuback h Purpose.noConfusion) (read_path _ _ _)
      | poll => exact .step (.writtenLastPuback h) (finish_path _ _)

/-- Taking a request is a path. -/
theorem onRequested_path {s : Session} {timer : Timer} (h : s.phase = .reading .poll timer)
    (hrequest : s.exchange.request.isSome = true) :
    Path now .waiting s .waiting
      ((s.note now (.answered (.read s.inbound.spare) .requested)).onRequested now) := by
  obtain ⟨request, hrequest⟩ := Option.isSome_iff_exists.mp hrequest
  have htaken : (s.note now (.answered (.read s.inbound.spare) .requested)).exchange.request =
      some request := hrequest
  rw [Session.onRequested, htaken]
  exact .step (.requested h hrequest) (write_path (finish_path _ _))

/-- Noting the end of a wait, where it is known what the session waits for. -/
theorem noteAnswered_eq {s : Session} {call : Call} (h : s.call? = some call) (reply : Reply) :
    s.noteAnswered now reply = s.note now (.answered call reply) := by
  rw [Session.noteAnswered, h]

/-- Going on with a reply is a path. A reply that is not waited for leads nowhere. -/
theorem resume_path (s : Session) (reply : Reply) :
    Path now .waiting s .waiting (s.resume now reply) := by
  rw [Session.resume.eq_def]
  split
  · rename_i address h
    rw [noteAnswered_eq (show s.call? = some (.resolve s.config.host) by rw [Session.call?, h])]
    cases address with
    | none => exact .step (.unresolved h) (finish_path _ _)
    | some address => exact .step (.resolved h) (finish_path _ _)
  · rename_i remote ok h
    rw [noteAnswered_eq (show s.call? = some (.dial remote) by rw [Session.call?, h])]
    cases ok with
    | false => exact .step (.undialed h) (lose_path _ .connack)
    | true => exact .step (.dialed h) (write_path (lose_path _ .connack))
  · rename_i bytes errand ok h
    rw [noteAnswered_eq (show s.call? = some (.write bytes) by rw [Session.call?, h])]
    exact onWritten_path ok h
  · rename_i purpose timer bytes h
    rw [noteAnswered_eq (show s.call? = some (.read s.inbound.spare) by rw [Session.call?, h])]
    match bytes with
    | none => exact .step (.readFailed h) (lose_path _ _)
    | some [] => exact .step (.readEnded h) (lose_path _ _)
    | some (b :: bytes) => exact .step (.received h (List.cons_ne_nil _ _)) (read_path _ _ _)
  · rename_i purpose timer h
    rw [noteAnswered_eq (show s.call? = some (.read s.inbound.spare) by rw [Session.call?, h])]
    -- A timer that has not run out does not end the wait.
    split
    · rename_i hdue
      exact .step (.expired h hdue) (giveUp_path _ _)
    · exact .refl
  · rename_i timer h
    rw [noteAnswered_eq (show s.call? = some (.read s.inbound.spare) by rw [Session.call?, h])]
    split
    · rename_i hrequest
      exact onRequested_path h hrequest
    · exact .refl
  · rename_i why h
    rw [noteAnswered_eq (show s.call? = some .close by rw [Session.call?, h])]
    cases why with
    | connectFailed => exact .step (.closedEarly h) (finish_path _ _)
    | teardown => exact .step (.closedDown h) .refl
  · rename_i timer why h
    rw [noteAnswered_eq (show s.call? = some (.sleep timer.due) by rw [Session.call?, h])]
    split
    · rename_i hdue
      cases why with
      | retry => exact .step (.restedRetry h hdue) .refl
      | backoff => exact .step (.restedBackoff h hdue) (finish_path _ _)
    · exact .refl
  · exact .refl

end

end WeatherStation.Proofs.Mqtt
