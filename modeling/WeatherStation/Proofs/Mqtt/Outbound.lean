import WeatherStation.Proofs.Mqtt.PacketStream
import WeatherStation.Proofs.Mqtt.RoundTrip
import WeatherStation.Proofs.Mqtt.Transmission

/-!
# `WeatherStation.Proofs.Mqtt.Outbound`: a request from the client to the inbox of a station

A request is bounded when it is made, and the buffers are larger than the bounds: its PUBLISH has
at most 649 bytes (`length_encode_request_le`), which fits the outbound and the inbound buffer.
Together with `RoundTrip` this gives the way there and back: the packet can be written, a reader
finds it in the stream in whatever pieces it comes, and it is interpreted as the message it was
made from.

The encoder refuses the id zero. `Forwarded` says that no request with this id is ever taken, and
that the next entry behind a taken request hands its packet to the transport. It rests on
the ids of the client, which never become zero (`idAfter_ne_zero`), and on the slot, which only
the client fills.

`publish_round_trip` states both: the round trip for every request with an id, and for every run
that no request that was taken is given up for want of an encoding.
-/

set_option autoImplicit false

namespace WeatherStation.Proofs.Mqtt

open WeatherStation.Mqtt

/-! ### The packet of a request -/

section
variable {request : Request}

/-- A text takes the bytes of its characters, and two for their number. -/
theorem length_text (s : String) : (Encoding.text s).length = s.utf8ByteSize + 2 := by
  rw [Encoding.text, Encoding.field, List.length_append, length_utf8, Nat.add_comm]
  rfl

/-- The body of a request's PUBLISH: the topic behind its length, the id, and the payload, which has
no length of its own because it goes on to the end of the packet. -/
theorem length_body_request (request : Request) :
    (Encoding.body request.packet).length =
      request.topic.utf8ByteSize + 2 + 2 + request.payload.length := by
  show (Encoding.text request.topic ++ Encoding.word request.id ++ request.payload).length = _
  rw [List.length_append, List.length_append, length_text]
  rfl

/-- A request is made only of a topic of up to 128 bytes and a payload of up to 512, so its body has
a bound. It does not depend on the session that will send it. -/
theorem length_body_request_le (request : Request) :
    (Encoding.body request.packet).length ≤ 644 := by
  have htopic : request.topic.utf8ByteSize ≤ 128 := request.topic_le
  have hpayload : request.payload.length ≤ 512 := request.payload_le
  rw [length_body_request]
  omega

/-- The body of an admitted request can be announced by a length field. The field alone would allow
far more (`maximum`). -/
theorem body_request_le_maximum (request : Request) :
    (Encoding.body request.packet).length ≤ RemainingLength.maximum :=
  Nat.le_trans (length_body_request_le request) (by decide)

/-- With the header byte and a length field of up to four bytes that makes at most 649 bytes, and
both buffers have room for 1024. No request is ever lost for its length. -/
theorem length_encode_request_le (request : Request) : request.packet.encode.length ≤ 649 := by
  have hbody := length_body_request_le request
  have hfield := length_encode_le_four (body_request_le_maximum request)
  rw [Packet.encode, List.length_append, List.length_cons]
  omega

/-- A request is what it was made from, for the broker to keep. What was checked when it was made is
not changed afterwards. -/
theorem eq_of_new? {topic : String} {payload : List UInt8} {id : UInt16}
    (h : Request.new? topic payload id = .ok request) :
    request.topic = topic ∧ request.payload = payload ∧ request.id = id ∧
      request.packet = .publish ⟨false, .atLeastOnce id, true, topic, payload⟩ := by
  rw [Request.new?] at h
  split at h
  · cases h
    exact ⟨rfl, rfl, rfl, rfl⟩
  · cases h

/-- A request with an id can be written. The encoder would refuse the id zero, and that is the only
thing it could refuse here. -/
theorem encodeWithin_request (hid : request.id ≠ 0) :
    request.packet.encodeWithin outboundCapacity = some request.packet.encode := by
  refine encodeWithin_of_le (fun hzero => hid (Option.some.inj hzero)) ?_
  exact Nat.le_trans (length_encode_request_le request) (by decide)

/-- The bytes of a request are one packet, so a reader knows where it ends. -/
theorem isPacket_request (request : Request) : IsPacket request.packet.encode :=
  isPacket_encode (body_request_le_maximum request)

/-- The decoder gives the packet back that was encoded: the topic is short enough for its length of
two bytes, and the id is not zero. -/
theorem decode_request (hid : request.id ≠ 0) :
    Packet.decode request.packet.encode = .ok request.packet := by
  have htopic : request.topic.utf8ByteSize ≤ 128 := request.topic_le
  exact decode_encode_publish (Nat.lt_of_le_of_lt htopic (by decide))
    (fun hzero => hid (Option.some.inj hzero)) (body_request_le_maximum request)

/-- However its bytes are cut into pieces, a new reader hands out the packet and nothing else. This
is the law of the reader (`reads_foldl`) for a stream of one packet that fits. -/
theorem feed_request (request : Request) {pieces : List (List UInt8)}
    (hpieces : pieces.flatten = request.packet.encode) :
    (feed inboundCapacity pieces).outcome =
      { handed := [request.packet.encode], error := none, dropped := 0, waiting := [],
        missing := 0 } := by
  have hreads := reads_foldl (by decide : 5 ≤ inboundCapacity) pieces [] _ (reads_new _)
  rw [List.nil_append, hpieces] at hreads
  refine (outcome_of_reads hreads).trans ?_
  have hsplit : split request.packet.encode = ([request.packet.encode], []) := by
    have h := split_eq [request.packet.encode] [] (by simpa using isPacket_request request) nofun
    simpa using h
  have hfits : request.packet.encode.length ≤ inboundCapacity :=
    Nat.le_trans (length_encode_request_le request) (by decide)
  rw [expected, hsplit]
  simp [fits, exceeds, hfits, Nat.not_lt.mpr hfits, overdue, front]

/-- The packet is interpreted as the message of the request, to be acknowledged by its id. The
shared state may be any: whether the message finds a place in the inbox is up to `deliver`. -/
theorem interpret_request (x : Exchange) (now : Micros) (hid : request.id ≠ 0) :
    x.interpret now request.packet.encode =
      .ok (.publish (some request.id),
        (x.deliver request.topic request.payload).note now (.applied request.packet)) := by
  rw [Exchange.interpret, decode_request hid]
  rfl

end

/-! ### A request that was taken -/

/-- The request that was taken last of all. It is only until the next entry that it has to be
remembered, because that entry hands its packet to the transport. -/
def pressing : List Entry → Option Request
  | ⟨_, .taken request⟩ :: _ => some request
  | _ => none

/-- What one more entry says of a taken request: a request that is taken now has an id, and one that
was taken just before goes to the transport now. -/
def Forwarding : List Entry → Prop
  | [] => True
  | e :: past =>
    (∀ request, pressing past = some request →
      e.what = .asked (.write request.packet.encode)) ∧
    ∀ request, e.what = .taken request → request.id ≠ 0

/-- Every request that was taken has an id, and the next entry hands its packet to the transport. As
a law about all entries it holds at every moment of the past as well (`Always`). -/
def Forwarded (past : List Entry) : Prop := Always Forwarding past

/-- What was taken last, at a point of the session. Either it is the packet that the session is
about to write, as it was made, or nothing was taken, and then nothing is where the session goes on
without that write. -/
def PressesAt (taken : Option Request) : Point → Prop
  | .sending packet _ otherwise =>
    taken = none ∧ PressesAt taken otherwise ∨
      ∃ request, taken = some request ∧ request.id ≠ 0 ∧ packet = request.packet
  | _ => taken = none

/-- The request in the slot has an id. Only the client puts requests there, and it makes none
without one. -/
def Marked (x : Exchange) : Prop := ∀ request, x.request = some request → request.id ≠ 0

/-- What is true of the session at a point: the law so far, that a request which was just taken is
the one in hand, and that the next one to be taken has an id. -/
def Forwards (p : Point) (s : Session) : Prop :=
  Forwarded s.exchange.journal ∧ PressesAt (pressing s.exchange.journal) p ∧ Marked s.exchange

section
variable {now : Micros} {p q : Point} {s t : Session} {x y : Exchange}

/-- An entry that takes no request keeps the law, if none was waiting to be handed over. -/
theorem forwarded_cons {e : Entry} {past : List Entry} (h : Forwarded past)
    (hnone : pressing past = none) (hwhat : ∀ request, e.what ≠ .taken request) :
    Forwarded (e :: past) := by
  refine ⟨⟨?_, fun request htaken => absurd htaken (hwhat request)⟩, h⟩
  rw [hnone]
  exact nofun

/-- Every move keeps it. Only three moves have to do with requests: one takes the request out of the
slot, and of the two that follow it one writes the packet and the other, which would give it up, is
impossible because the packet can be encoded. -/
theorem Move.forwards (move : Move now p s q t) (h : Forwards p s) : Forwards q t := by
  obtain ⟨hforwarded, hpresses, hmarked⟩ := h
  cases move with
  | @requested _ timer request hphase hrequest =>
    have hid : request.id ≠ 0 := hmarked request hrequest
    refine ⟨⟨⟨nofun, ?_⟩, forwarded_cons hforwarded hpresses nofun⟩,
      .inr ⟨request, rfl, hid, rfl⟩, nofun⟩
    rintro _ ⟨⟩
    exact hid
  | @send _ packet _ _ bytes hfits =>
    rcases hpresses with ⟨hnone, -⟩ | ⟨request, htaken, hid, rfl⟩
    · exact ⟨forwarded_cons hforwarded hnone nofun, rfl, hmarked⟩
    · refine ⟨⟨⟨?_, nofun⟩, hforwarded⟩, rfl, hmarked⟩
      intro request' htaken'
      obtain rfl := Option.some.inj (htaken.symm.trans htaken')
      rw [encodeWithin_eq hfits]
  | sendNot hnone =>
    rcases hpresses with ⟨-, hotherwise⟩ | ⟨request, htaken, hid, rfl⟩
    · exact ⟨hforwarded, hotherwise, hmarked⟩
    · -- A request that was taken can be written.
      rw [encodeWithin_request hid] at hnone
      cases hnone
  | apply hframe hpacket =>
    obtain ⟨packet, hjournal, -⟩ := interpret_eq hpacket
    refine ⟨?_, ?_, ?_⟩
    · show Forwarded _
      rw [hjournal]
      exact forwarded_cons (forwarded_cons hforwarded hpresses nofun) rfl nofun
    · show pressing _ = none
      rw [hjournal]
      rfl
    · intro request hrequest
      exact hmarked request ((interpret_frame hpacket).2.symm.trans hrequest)
  | skip hframe hpacket hfault =>
    exact ⟨forwarded_cons (forwarded_cons hforwarded hpresses nofun) rfl nofun, rfl, hmarked⟩
  | closedDown hphase => exact ⟨forwarded_cons hforwarded hpresses nofun, rfl, nofun⟩
  -- All others note nothing or one thing that is not a request.
  | _ => first
    | exact ⟨hforwarded, hpresses, hmarked⟩
    | exact ⟨hforwarded, .inl ⟨hpresses, hpresses⟩, hmarked⟩
    | exact ⟨forwarded_cons hforwarded hpresses nofun, rfl, hmarked⟩
    | exact ⟨forwarded_cons hforwarded hpresses nofun, .inl ⟨rfl, rfl⟩, hmarked⟩

/-- The session starts with nothing taken and an empty slot. -/
theorem forwards_start (config : SessionConfig) (now : Micros) :
    Forwards .waiting ((Session.new config {}).start now) :=
  ⟨⟨⟨nofun, nofun⟩, trivial⟩, rfl, nofun⟩

/-- The other tasks take no request. What the client puts into the slot is its own affair
(`Marked`). -/
theorem Forwards.aside (haside : Aside s.exchange y) (hmarked : Marked y)
    (h : Forwards .waiting s) : Forwards .waiting { s with exchange := y } := by
  obtain ⟨hforwarded, hpresses, -⟩ := h
  have hjournal : Forwarded y.journal ∧ pressing y.journal = none := by
    refine haside.keeps (P := fun past => Forwarded past ∧ pressing past = none) ?_
      ⟨hforwarded, hpresses⟩
    rintro ⟨time, what⟩ past hother ⟨hlater, hnone⟩
    cases what <;> first
      | exact ⟨forwarded_cons hlater hnone nofun, rfl⟩
      | cases hother
  exact ⟨hjournal.1, hjournal.2, hmarked⟩

/-- Giving way to the other tasks changes nothing that is shared. -/
theorem Forwards.yield (h : Forwards .waiting s) : Forwards .waiting s.yield := by
  show Forwarded s.yield.exchange.journal ∧ pressing s.yield.exchange.journal = none ∧
    Marked s.yield.exchange
  rw [yield_exchange]
  exact h

/-! ### The ids of the client -/

/-- Ids start over before they reach zero, so that the client never makes a request which the
encoder refuses. The first id is 1. -/
theorem idAfter_ne_zero (id : UInt16) : Client.idAfter id ≠ 0 := by
  rw [Client.idAfter]
  split
  · decide
  · rename_i hsmall
    intro hzero
    have hlt : id.toNat < 0x7FFF := by
      rw [UInt16.le_iff_toNat_le] at hsmall
      exact Nat.lt_of_not_le hsmall
    have hsum : (id + 1).toNat = id.toNat + 1 := by
      rw [UInt16.toNat_add]
      exact Nat.mod_eq_of_lt (by simp; omega)
    rw [hzero] at hsum
    simp at hsum

/-- A request that the client still holds has an id. A call that has handed its request over holds
none, nor does one that is settled. -/
def Numbered (call : PublishCall) : Prop :=
  ∀ request due, call = .offering request due → request.id ≠ 0

/-- A call that is settled holds no request. -/
theorem numbered_settled (result : Except PublishError Unit) : Numbered (.settled result) := nofun

/-- A call that waits for its acknowledgement has handed its request over. -/
theorem numbered_awaiting (id : UInt16) (due : Micros) : Numbered (.awaiting id due) := nofun

/-- In an empty slot there is no request without an id. -/
theorem marked_empty (h : x.request = none) : Marked x := by
  intro request hrequest
  rw [h] at hrequest
  cases hrequest

/-- Looking for the acknowledgement leaves the slot alone. -/
theorem listen_marked (h : Marked x) (now : Micros) (id : UInt16) (due : Micros) :
    let y := PublishCall.listen x now id due
    Numbered y.1 ∧ Marked y.2 := by
  rw [listen_eq]
  split
  · exact ⟨numbered_settled _, h⟩
  · exact ⟨numbered_awaiting _ _, h⟩

/-- A call that has a request to hand over puts it into the slot if that is free, and else keeps it.
Its id goes with it. -/
theorem advance_marked {request : Request} (h : Marked x) (hid : request.id ≠ 0) (now : Micros)
    (due : Micros) :
    let y := PublishCall.advance x now (.offering request due)
    Numbered y.1 ∧ Marked y.2 := by
  rw [advance_offering]
  split
  · have hoffered : Marked ({ x with request := some request }.note now (.offered request)) := by
      rintro _ ⟨⟩
      exact hid
    exact listen_marked hoffered now request.id due
  · refine ⟨?_, h⟩
    rintro _ _ ⟨⟩
    exact hid

/-- A later turn of a call that has handed its request over may take it back, and then the slot is
empty. -/
theorem poll_awaiting_marked (h : Marked x) (now : Micros) (id : UInt16) (due : Micros) :
    let y := PublishCall.poll x now (.awaiting id due)
    Numbered y.1 ∧ Marked y.2 := by
  rw [poll_awaiting]
  split
  · exact ⟨numbered_settled _, h⟩
  · split
    · exact ⟨numbered_settled _, marked_empty rfl⟩
    · exact ⟨numbered_awaiting _ _, h⟩

/-- A later turn of any call. One that still holds its request hands it over as in its first turn,
takes it back when its time is over, or goes on waiting. -/
theorem poll_marked {call : PublishCall} (h : Marked x) (hcall : Numbered call) (now : Micros) :
    let y := call.poll x now
    Numbered y.1 ∧ Marked y.2 := by
  cases call with
  | offering request due =>
    have hid : request.id ≠ 0 := hcall request due rfl
    rw [poll_offering]
    split
    · have hoffered : Marked ({ x with request := some request }.note now (.offered request)) := by
        rintro _ ⟨⟩
        exact hid
      exact poll_awaiting_marked hoffered now request.id due
    · split
      · exact ⟨numbered_settled _, marked_empty rfl⟩
      · exact ⟨hcall, h⟩
  | awaiting id due => exact poll_awaiting_marked h now id due
  | settled result => exact ⟨hcall, h⟩

/-- The first turn of a call makes a request with the next id, if it makes one. The id that comes
after it is not zero either, so the next call finds one. -/
theorem publish_marked {c : Client} (h : Marked x) (hnext : c.nextId ≠ 0) (now : Micros)
    (topic : String) (payload : List UInt8) :
    let y := c.publish x now topic payload
    Numbered y.1 ∧ y.2.1.nextId ≠ 0 ∧ Marked y.2.2 := by
  rw [Client.publish]
  split
  · exact ⟨numbered_settled _, hnext, h⟩
  · dsimp only
    rcases new?_cases topic payload c.nextId with hlong | ⟨request, hrequest, hid, -⟩
    · rw [hlong]
      exact ⟨numbered_settled _, idAfter_ne_zero _, h⟩
    · rw [hrequest]
      have hadmitted : Marked ({ x with ack := none }.note now (.admitted request)) := h
      obtain ⟨hcall, hmarked⟩ := advance_marked hadmitted (hid ▸ hnext) now (now + c.ackTimeout)
      exact ⟨hcall, idAfter_ne_zero _, hmarked⟩

end

/-! ### Runs -/

/-- What is true of the system between two turns: the law of the session, an id for the next call,
and one for the request that the present call holds. -/
structure Outgoing (s : System) : Prop where
  session : Forwards .waiting s.session
  next : s.client.nextId ≠ 0
  call : ∀ call, s.call = some call → Numbered call

/-- Every turn keeps it. The turns of the session go by its moves; those of the client go by what
becomes of the slot; the others do not touch either. -/
theorem Outgoing.step {s : System} (h : Outgoing s) (turn : Turn) : Outgoing (s.step turn) := by
  have hmarked : Marked s.session.exchange := h.session.2.2
  -- Only the client touches its call and its next id, so in all other turns the session is what has
  -- to be looked at.
  have hothers (hturn : ofClient turn = false)
      (hsession : Forwards .waiting (s.step turn).session) : Outgoing (s.step turn) := by
    obtain ⟨-, hcall, hclient⟩ := step_hears s hturn
    exact ⟨hsession, by rw [hclient]; exact h.next, by rw [hcall]; exact h.call⟩
  cases turn with
  | pass time => exact hothers rfl h.session
  | begin =>
    refine hothers rfl ?_
    rw [System.step, System.beginNext]
    split
    · rename_i action hphase
      exact (begin_path hphase).invariant Move.forwards h.session
    · exact h.session
  | reply reply =>
    exact hothers rfl ((resume_path s.session reply).invariant Move.forwards h.session)
  | yield => exact hothers rfl h.session.yield
  | notify => exact hothers rfl (h.session.aside (Beside.notify .refl).aside hmarked)
  | dispatch =>
    refine hothers rfl ?_
    rw [System.step, System.dispatchNext]
    split
    · rename_i message exchange hnext
      have haside : Aside s.session.exchange exchange := (Beside.dispatch hnext .refl).aside
      obtain ⟨rest, -, rfl⟩ := nextMessage_eq_some.mp hnext
      exact h.session.aside haside hmarked
    · exact h.session
  | publish topic payload =>
    by_cases hbusy : s.isBusy = true
    · rw [System.step_publish_busy hbusy]
      exact h
    · rw [System.step_publish (by simpa using hbusy)]
      -- A new call has the next id, which is then behind.
      obtain ⟨hcall, hnext, hslot⟩ := publish_marked hmarked h.next s.now topic payload
      refine ⟨h.session.aside (publish_aside _ _ _ _) hslot, hnext, ?_⟩
      rintro _ ⟨⟩
      exact hcall
  | poll =>
    cases hcall : s.call with
    | none =>
      rw [System.step_poll_none hcall]
      exact h
    | some call =>
      rw [System.step_poll hcall]
      obtain ⟨hpolled, hslot⟩ := poll_marked hmarked (h.call call hcall) s.now
      refine ⟨h.session.aside (poll_aside _ call) hslot, h.next, ?_⟩
      rintro _ ⟨⟩
      exact hpolled

/-- Every run keeps it, as each of its turns does. -/
theorem Outgoing.run (turns : List Turn) : ∀ {s : System}, Outgoing s → Outgoing (s.run turns) := by
  induction turns with
  | nil => intro s h; exact h
  | cons turn turns ih => intro s h; exact ih (h.step turn)

/-- At every moment of a run from the start of the station. -/
theorem outgoing_run (config : SessionConfig) (ackTimeout now : Micros) (turns : List Turn) :
    Outgoing ((System.boot config ackTimeout now).run turns) :=
  Outgoing.run turns ⟨forwards_start config now, (by decide : (1 : UInt16) ≠ 0), nofun⟩

/-- A request that was taken has been followed by the write of its packet, unless it is the newest
entry of all. The law is read off at the place of the entry behind it. -/
theorem written_of_taken {later past : List Entry} {time : Micros} {request : Request}
    (h : Forwarded (later ++ ⟨time, .taken request⟩ :: past)) (hlater : later ≠ []) :
    ∃ rest time', later = rest ++ [⟨time', .asked (.write request.packet.encode)⟩] := by
  obtain ⟨rest, e, rfl⟩ := List.eq_nil_or_concat later |>.resolve_left hlater
  rw [List.concat_eq_append, List.append_assoc] at h
  have hnext : Forwarding (e :: ⟨time, .taken request⟩ :: past) := h.of_append
  have hwhat : e.what = .asked (.write request.packet.encode) := hnext.1 request rfl
  exact ⟨rest, e.time, by rw [← hwhat, List.concat_eq_append]⟩

/-- The PUBLISH that a request makes, and what becomes of it.

1. For every topic and payload that are accepted and every id but zero, the packet is encoded
   within the outbound buffer. It begins with 0x33: a PUBLISH of quality of service 1, for the
   broker to keep.
2. A new reader with the inbound buffer finds in its bytes one packet and nothing else, in
   whatever pieces they come.
3. That packet is interpreted as a message with the same id, topic and payload, on any shared
   state. An open session keeps it in its inbox if the payload is short enough for its place there
   and the inbox is not full.
4. In every run, each request that the session takes has an id, and the next thing noted is that
   its packet is handed to the transport. So none is given up for want of an encoding. -/
theorem publish_round_trip {topic : String} {payload : List UInt8} {id : UInt16}
    {request : Request} (hid : id ≠ 0) (hnew : Request.new? topic payload id = .ok request) :
    (∃ bytes, request.packet.encodeWithin outboundCapacity = some bytes ∧
      bytes.head? = some 0x33 ∧
      (∀ pieces, pieces.flatten = bytes →
        (feed inboundCapacity pieces).outcome =
          { handed := [bytes], error := none, dropped := 0, waiting := [], missing := 0 }) ∧
      ∀ (x : Exchange) (now : Micros), ∃ y,
        x.interpret now bytes = .ok (.publish (some id), y) ∧
        y.journal =
          ⟨now, .applied (.publish ⟨false, .atLeastOnce id, true, topic, payload⟩)⟩ :: x.journal ∧
        (x.connected = true → payload.length ≤ maxPayloadLength →
          x.inbox.length < inboxCapacity →
          ∃ message, message.topic = topic ∧ message.payload = payload ∧
            y.inbox = x.inbox ++ [message])) ∧
    ∀ (config : SessionConfig) (ackTimeout now : Micros) (turns : List Turn) later time taken past,
      ((System.boot config ackTimeout now).run turns).journal =
          later ++ ⟨time, .taken taken⟩ :: past →
        taken.id ≠ 0 ∧ ∃ bytes, taken.packet.encodeWithin outboundCapacity = some bytes ∧
          ∃ rest time', later = rest ++ [⟨time', .asked (.write bytes)⟩] := by
  constructor
  · obtain ⟨rfl, rfl, rfl, hpacket⟩ := eq_of_new? hnew
    refine ⟨_, encodeWithin_request hid, ?_, fun pieces => feed_request request, ?_⟩
    · have hheader : Encoding.header request.packet = 0x33 := by
        rw [hpacket]
        show (0x30 : UInt8) ||| 0 ||| (1 : UInt8) <<< (1 : UInt8) ||| 0x01 = 0x33
        decide
      rw [← hheader]
      rfl
    · intro x now
      refine ⟨_, interpret_request x now hid, ?_, ?_⟩
      · obtain ⟨inbox, dropped, hdeliver⟩ := deliver_eq x request.topic request.payload
        rw [hdeliver, hpacket]
        rfl
      · intro hopen hpayload hroom
        have hmessage : Message.new? request.topic request.payload =
            some ⟨request.topic, request.payload, request.topic_le, hpayload⟩ :=
          dif_pos ⟨request.topic_le, hpayload⟩
        refine ⟨⟨request.topic, request.payload, request.topic_le, hpayload⟩, rfl, rfl, ?_⟩
        simp [Exchange.deliver, Exchange.note, hopen, hmessage, hroom]
  · intro config ackTimeout now turns later time taken past hjournal
    obtain ⟨hforwarded, hpresses, -⟩ := (outgoing_run config ackTimeout now turns).session
    rw [← System.journal, hjournal] at hforwarded hpresses
    -- Between two turns the last entry is no request that was taken.
    have hlater : later ≠ [] := by
      rintro rfl
      cases hpresses
    have hmoment : Forwarding (⟨time, .taken taken⟩ :: past) := hforwarded.of_append
    have hid : taken.id ≠ 0 := hmoment.2 taken rfl
    exact ⟨hid, _, encodeWithin_request hid, written_of_taken hforwarded hlater⟩

/-- A body of 133 bytes, for which the length field has two bytes. It comes in two pieces that part
in the middle of that field. -/
theorem publish_round_trip_split :
    ∃ request, (513 : UInt16) ≠ 0 ∧
      Request.new? "sensors/a" (List.replicate 120 7) 513 = .ok request ∧
      ∃ bytes, request.packet.encodeWithin outboundCapacity = some bytes ∧
        bytes.take 3 = [0x33, 0x85, 0x01] ∧
        (feed inboundCapacity [bytes.take 2, bytes.drop 2]).outcome.handed = [bytes] ∧
        ∃ y message, Exchange.interpret { connected := true } 0 bytes =
            .ok (.publish (some 513), y) ∧
          message.topic = "sensors/a" ∧ message.payload = List.replicate 120 7 ∧
          y.inbox = [message] := by
  have hid : (513 : UInt16) ≠ 0 := by decide
  let request : Request :=
    ⟨"sensors/a", List.replicate 120 7, 513, true, by decide, by decide⟩
  have hnew : Request.new? "sensors/a" (List.replicate 120 7) 513 = .ok request := rfl
  obtain ⟨⟨bytes, hbytes, -, hfeed, hinterpret⟩, -⟩ := publish_round_trip hid hnew
  obtain ⟨y, hy, -, hinbox⟩ := hinterpret { connected := true } 0
  obtain ⟨message, htopic, hpayload, hkept⟩ := hinbox rfl (by decide) (by decide)
  refine ⟨request, hid, hnew, bytes, hbytes, ?_, ?_, y, message, hy, htopic, hpayload, hkept⟩
  · rw [← encodeWithin_eq hbytes]
    decide +kernel
  · rw [hfeed [bytes.take 2, bytes.drop 2] (by simp)]

end WeatherStation.Proofs.Mqtt
