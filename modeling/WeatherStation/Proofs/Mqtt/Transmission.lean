import WeatherStation.Proofs.Mqtt.Acknowledgement

/-!
# `WeatherStation.Proofs.Mqtt.Transmission`: what becomes of a publish

A request to publish passes through few hands. The call that makes it keeps it while the slot is
taken, the slot keeps it until the session takes it, and the session gives it to the transport in
the same turn. On the way it can be dropped: the client takes it back when its time is over, and
a teardown empties the slot.

`Flows` is the law of that queue. What is given to the transport, followed by what is still held,
is a sublist of what was held before: nothing is doubled, and nothing overtakes. Every move of
the session keeps the law (`Move.flows`), every turn of the client does (`publish_flow`,
`poll_flow`), and so does a run (`run_flows`).

`published_once` reads the law for whole runs: the PUBLISH packets on the wire are those of
calls of the client, in the order of the calls and at most one for each, none for a call that
was refused, and none after a call has run out of time without its request having been taken.
-/

set_option autoImplicit false

namespace WeatherStation.Proofs.Mqtt

open WeatherStation.Mqtt

/-! ### PUBLISH packets on the wire -/

/-- Whether the bytes are a PUBLISH. The type of a packet stands in the upper half of its first
byte, so nothing else has to be decoded to find the messages on the wire. -/
def isPublish : List UInt8 → Bool
  | header :: _ => header.toNat / 16 == 3
  | [] => false

/-- Of the packets that the session writes, those that begin like a PUBLISH are the PUBLISH packets.
Flags and quality of service stay in the lower half of the first byte. -/
theorem isPublish_encode (packet : Packet) :
    isPublish packet.encode = true ↔ ∃ message, packet = .publish message := by
  cases packet with
  | publish message =>
    obtain ⟨duplicate, delivery, retain, topic, payload⟩ := message
    -- The flags and the quality of service stay in the lower half.
    have htype : (Encoding.header (.publish ⟨duplicate, delivery, retain, topic, payload⟩)).toNat /
        16 = 3 := by
      cases duplicate <;> cases retain <;> cases delivery <;>
        simp [Encoding.header, Encoding.flag, Encoding.deliveryQoS]
    exact ⟨fun _ => ⟨_, rfl⟩, fun _ => beq_iff_eq.mpr htype⟩
  | _ => simp [isPublish, Packet.encode, Encoding.header]

/-- The PUBLISH packets given to the transport, first one first, while the journal has the newest
entry first. A write that fails later counts like one that does not. -/
def published : List Entry → List (List UInt8)
  | [] => []
  | e :: past =>
    match e.what with
    | .asked (.write bytes) => published past ++ if isPublish bytes then [bytes] else []
    | _ => published past

/-- The client gives nothing to the transport, and neither do the other tasks. -/
theorem published_aside {noted past : List Entry} (h : ∀ e ∈ noted, bySession e.what = false) :
    published (noted ++ past) = published past := by
  induction noted with
  | nil => rfl
  | cons e noted ih =>
    have hrest := ih fun x hx => h x (List.mem_cons_of_mem e hx)
    have hother := h e List.mem_cons_self
    obtain ⟨time, what⟩ := e
    cases what <;> first
      | exact hrest
      | cases hother

/-! ### The law of the queue -/

/-- Between `x` and `y` some PUBLISH packets were given to the transport. Followed by those in
`held'` they are a sublist of those in `held`: what was held is sent, is still held or is gone, and
the order stays. -/
def Flows (held : List (List UInt8)) (x : Exchange) (held' : List (List UInt8)) (y : Exchange) :
    Prop :=
  ∃ sent, published y.journal = published x.journal ++ sent ∧ (sent ++ held').Sublist held

namespace Flows

section
variable {held held' held'' : List (List UInt8)} {x y z : Exchange}

/-- Packets may be dropped while nothing is sent. -/
theorem of_sublist (hjournal : published y.journal = published x.journal)
    (h : held'.Sublist held) : Flows held x held' y :=
  ⟨[], by rw [hjournal, List.append_nil], h⟩

/-- Nothing is sent and nothing is dropped, as in most moves. -/
theorem of_eq (hjournal : published y.journal = published x.journal) : Flows held x held y :=
  of_sublist hjournal (.refl held)

/-- The law goes on from one stretch of a run to the next. What the first one leaves is what the
second one may send. -/
theorem trans (first : Flows held x held' y) (second : Flows held' y held'' z) :
    Flows held x held'' z := by
  obtain ⟨sent, hsent, hheld⟩ := first
  obtain ⟨sent', hsent', hheld'⟩ := second
  refine ⟨sent ++ sent', by rw [hsent', hsent, List.append_assoc], ?_⟩
  rw [List.append_assoc]
  exact (hheld'.append_left sent).trans hheld

/-- Packets that come later in the queue do not matter for those before them. So the law of the
session holds with the client's packet behind it. -/
theorem append (h : Flows held x held' y) (later : List (List UInt8)) :
    Flows (held ++ later) x (held' ++ later) y := by
  obtain ⟨sent, hsent, hheld⟩ := h
  refine ⟨sent, hsent, ?_⟩
  rw [← List.append_assoc]
  exact hheld.append_right later

end

end Flows

/-! ### The session -/

/-- The PUBLISH that the session is about to write at a point, with what it goes on to if it cannot
be encoded. The packets of a session that are no PUBLISH count for nothing. -/
def inHand : Point → List (List UInt8)
  | .sending packet _ otherwise =>
    (if isPublish packet.encode then [packet.encode] else []) ++ inHand otherwise
  | _ => []

/-- The packet of the request in the slot, as a list of one packet or none. -/
def inSlot (x : Exchange) : List (List UInt8) := x.request.toList.map (·.packet.encode)

/-- A slot with a request holds one packet. -/
theorem inSlot_some {x : Exchange} {request : Request} (h : x.request = some request) :
    inSlot x = [request.packet.encode] := by
  rw [inSlot, h]
  rfl

/-- An empty slot holds none. -/
theorem inSlot_none {x : Exchange} (h : x.request = none) : inSlot x = [] := by
  rw [inSlot, h]
  rfl

/-- What a session holds, next one first: what it has taken comes before what is in the slot. -/
def held (p : Point) (s : Session) : List (List UInt8) := inHand p ++ inSlot s.exchange

section
variable {now : Micros} {p q : Point} {s t : Session}

/-- The packets that the session makes itself are no PUBLISH, so it may set out to write one without
touching the queue. -/
theorem flows_sending {packet : Packet} {errand : Errand} {otherwise : Point}
    (hother : ∀ message, packet ≠ .publish message)
    (hjournal : published t.exchange.journal = published s.exchange.journal)
    (hheld : held otherwise t = held p s) :
    Flows (held p s) s.exchange (held (.sending packet errand otherwise) t) t.exchange := by
  have hnot : isPublish packet.encode = false := by
    rw [Bool.eq_false_iff]
    intro hpublish
    obtain ⟨message, hmessage⟩ := (isPublish_encode packet).mp hpublish
    exact hother message hmessage
  have hsame : held (.sending packet errand otherwise) t = held p s := by
    rw [← hheld, held, inHand, hnot]
    rfl
  rw [hsame]
  exact .of_eq hjournal

/-- Every move keeps the law. Taking the request moves it from the slot into the hand, a write sends
what is in the hand, and a teardown drops what is in the slot; all other moves leave the queue
alone. -/
theorem Move.flows (move : Move now p s q t) :
    Flows (held p s) s.exchange (held q t) t.exchange := by
  cases move with
  | @requested _ timer request hphase hrequest =>
    -- The request goes from the slot into the hand of the session.
    have hslot : inSlot s.exchange = [request.packet.encode] := inSlot_some hrequest
    refine .of_sublist rfl ?_
    show ((if isPublish request.packet.encode then [request.packet.encode] else []) ++ [] ++
      []).Sublist (inSlot s.exchange)
    rw [hslot]
    split <;> simp
  | closedDown hphase => exact .of_sublist rfl (List.nil_sublist _)
  | @send _ packet errand otherwise bytes hbytes =>
    obtain rfl := encodeWithin_eq hbytes
    refine ⟨if isPublish packet.encode then [packet.encode] else [], rfl, ?_⟩
    rw [held, held, inHand, List.append_assoc]
    exact (List.sublist_append_right _ _).append_left _
  | sendNot hnone =>
    refine .of_sublist rfl ?_
    rw [held, held, inHand, List.append_assoc]
    exact List.sublist_append_right _ _
  | apply hframe hpacket =>
    obtain ⟨packet, hjournal, -⟩ := interpret_eq hpacket
    have hrequest := (interpret_frame hpacket).2
    refine .of_sublist (by rw [hjournal]; rfl) ?_
    rw [held, inSlot, hrequest]
    exact .refl _
  | subscribeSend htopics hfit => exact flows_sending (by simp) rfl rfl
  | pollFarewell hpending => exact flows_sending (by simp) rfl rfl
  | pollPing hpending hping hdue => exact flows_sending (by simp) rfl rfl
  | dialed hphase => exact flows_sending (by simp) rfl rfl
  | acknowledge hreply => exact flows_sending (by simp) rfl rfl
  | _ => exact .of_eq rfl

/-- So does every path of moves between two answers of the outside world. -/
theorem Path.flows (path : Path now p s q t) :
    Flows (held p s) s.exchange (held q t) t.exchange := by
  induction path with
  | refl => exact .of_eq rfl
  | step head _ ih => exact head.flows.trans ih

end

/-! ### The client -/

/-- The packet of a call that has still to hand its request over. It waits behind the one in the
slot. -/
def blocked : Option PublishCall → List (List UInt8)
  | some (.offering request _) => [request.packet.encode]
  | _ => []

/-- The packets that may still be written: that of the request in the slot, then that of the
client's call if the slot keeps it from handing its own over. Between two turns nothing is in the
hand of the session. -/
def waiting (s : System) : List (List UInt8) := inSlot s.session.exchange ++ blocked s.call

section
variable {x y : Exchange} {now : Micros} {id : UInt16} {due : Micros}

/-- Whatever the other tasks do, the packets on the wire stay the same. -/
theorem published_of_aside (h : Aside x y) : published y.journal = published x.journal := by
  obtain ⟨noted, hjournal, hother, -⟩ := h
  rw [hjournal, published_aside hother]

/-- A call that looks for its acknowledgement leaves the slot as it is and holds nothing itself. -/
theorem listen_slot (x : Exchange) (now : Micros) (id : UInt16) (due : Micros) :
    let y := PublishCall.listen x now id due
    inSlot y.2 = inSlot x ∧ blocked (some y.1) = [] := by
  rw [listen_eq]
  split <;> exact ⟨rfl, rfl⟩

/-- A request that is offered goes into the slot or waits behind it. In both cases its packet is the
last one that waits. -/
theorem advance_slot (x : Exchange) (now : Micros) (request : Request) (due : Micros) :
    let y := PublishCall.advance x now (.offering request due)
    inSlot y.2 ++ blocked (some y.1) = inSlot x ++ [request.packet.encode] := by
  rw [advance_offering]
  split
  · rename_i hfree
    obtain ⟨hslot, hblocked⟩ :=
      listen_slot ({ x with request := some request }.note now (.offered request)) now
        request.id due
    dsimp only
    rw [hslot, hblocked, inSlot_none hfree]
    rfl
  · rfl

/-- A later turn of a call that has handed its request over: the slot stays as it is, or the time is
over and the slot is empty. The call takes back whatever is there, which can only be its own
request. -/
theorem poll_awaiting_slot (x : Exchange) (now : Micros) (id : UInt16) (due : Micros) :
    let y := PublishCall.poll x now (.awaiting id due)
    blocked (some y.1) = [] ∧
      (y.2.request = none ∨
        inSlot y.2 = inSlot x ∧ y.1 ≠ .settled (.error .ackTimeout)) := by
  rw [poll_awaiting]
  split
  · exact ⟨rfl, .inr ⟨rfl, by simp⟩⟩
  · split
    · exact ⟨rfl, .inl rfl⟩
    · exact ⟨rfl, .inr ⟨rfl, by simp⟩⟩

/-- A later turn of any call drops requests at most, and a call that runs out of time leaves the
slot empty. So no request of such a call is written later. -/
theorem poll_slot (x : Exchange) (now : Micros) {call : PublishCall}
    (hid : awaitedId call = some id) :
    let y := call.poll x now
    (inSlot y.2 ++ blocked (some y.1)).Sublist (inSlot x ++ blocked (some call)) ∧
      (y.1 = .settled (.error .ackTimeout) → y.2.request = none) := by
  intro y
  cases call with
  | awaiting id' due =>
    obtain ⟨hblocked, hempty | ⟨hslot, hwaits⟩⟩ := poll_awaiting_slot x now id' due
    · rw [hblocked, inSlot_none hempty]
      exact ⟨List.nil_sublist _, fun _ => hempty⟩
    · rw [hblocked, hslot]
      exact ⟨.refl _, fun htimeout => absurd htimeout hwaits⟩
  | offering request due =>
    have hy : y = PublishCall.poll x now (.offering request due) := rfl
    rw [poll_offering] at hy
    rw [hy]
    split
    · -- The request goes into the slot, and the call goes on from there.
      rename_i hfree
      have hbefore : inSlot x ++ blocked (some (.offering request due)) =
          inSlot ({ x with request := some request }.note now (.offered request)) := by
        rw [inSlot_none hfree]
        rfl
      rw [hbefore]
      obtain ⟨hblocked, hempty | ⟨hslot, hwaits⟩⟩ :=
        poll_awaiting_slot ({ x with request := some request }.note now (.offered request)) now
          request.id due
      · rw [hblocked, inSlot_none hempty]
        exact ⟨List.nil_sublist _, fun _ => hempty⟩
      · rw [hblocked, hslot, List.append_nil]
        exact ⟨.refl _, fun htimeout => absurd htimeout hwaits⟩
    · split
      · exact ⟨List.nil_sublist _, fun _ => rfl⟩
      · exact ⟨.refl _, by simp⟩
  | settled result => cases hid

/-- The PUBLISH of a message: quality of service 1, and for the broker to keep. The packets of calls
are compared with the wire in this form. -/
def messageBytes (topic : String) (payload : List UInt8) (id : UInt16) : List UInt8 :=
  (Packet.publish ⟨false, .atLeastOnce id, true, topic, payload⟩).encode

/-- A request is refused for its length, or it is made and has the id and the packet of the
message. -/
theorem new?_cases (topic : String) (payload : List UInt8) (id : UInt16) :
    Request.new? topic payload id = .error .encodeOverflow ∨
      ∃ request, Request.new? topic payload id = .ok request ∧ request.id = id ∧
        request.packet.encode = messageBytes topic payload id := by
  rw [Request.new?]
  split
  · exact .inr ⟨_, rfl, rfl, rfl⟩
  · exact .inl rfl

/-- Whether a publish was refused: no session was open, or topic or payload was too long. Such a
call ends in its first turn. -/
def refuses : Option (Except PublishError Unit) → Bool
  | some (.error .notConnected) => true
  | some (.error .encodeOverflow) => true
  | _ => false

/-- The first turn of a publish: it is refused and holds nothing, or it goes on and its packet comes
last. The slot may still have the request of an earlier call, which then comes first. -/
theorem publish_slot (c : Client) (x : Exchange) (now : Micros) (topic : String)
    (payload : List UInt8) :
    let y := c.publish x now topic payload
    (∃ result, refuses (some result) = true ∧ y.1 = .settled result ∧ inSlot y.2.2 = inSlot x) ∨
    (awaitedId y.1 = some c.nextId ∧
      inSlot y.2.2 ++ blocked (some y.1) =
        inSlot x ++ [messageBytes topic payload c.nextId]) := by
  rw [Client.publish]
  split
  · exact .inl ⟨_, rfl, rfl, rfl⟩
  · dsimp only
    rcases new?_cases topic payload c.nextId with hlong | ⟨request, hrequest, hid, hbytes⟩
    · rw [hlong]
      exact .inl ⟨_, rfl, rfl, rfl⟩
    · rw [hrequest]
      right
      have hslot := advance_slot ({ x with ack := none }.note now (.admitted request)) now request
        (now + c.ackTimeout)
      rw [hbytes] at hslot
      -- The slot for acknowledgements is emptied first, so the call cannot end before it waits.
      have hawaits : awaitedId (PublishCall.advance ({ x with ack := none }.note now
          (.admitted request)) now (.offering request (now + c.ackTimeout))).1 =
          some request.id := (advance_offering_empty rfl).1
      rw [hid] at hawaits
      exact ⟨hawaits, hslot⟩

end

/-! ### The calls of a run -/

/-- A publish that the client made: what it was to publish, its id, and what it has returned. A call
that is still under way has returned nothing. -/
structure Publication where
  topic : String
  payload : List UInt8
  id : UInt16
  result : Option (Except PublishError Unit)

/-- The packet that a call is there to send. -/
def Publication.bytes (p : Publication) : List UInt8 := messageBytes p.topic p.payload p.id

/-- The packets of the calls that were not refused, in the order of the calls. -/
def packets (calls : List Publication) : List (List UInt8) :=
  (calls.filter fun p => !refuses p.result).map Publication.bytes

/-- What the client's last call returns in the course of these turns, if it returns. Looking ahead
like this lets a call be listed with its result at the turn in which it is made. -/
def returned (s : System) : List Turn → Option (Except PublishError Unit)
  | [] => s.call.bind PublishCall.result?
  | turn :: turns =>
    if s.isBusy then returned (s.step turn) turns else s.call.bind PublishCall.result?

/-- The calls that the client makes in the course of these turns, first one first. The client makes
one call at a time, so a turn that asks for another one in between is none. -/
def calls (s : System) : List Turn → List Publication
  | [] => []
  | turn :: turns =>
    match turn with
    | .publish topic payload =>
      if s.isBusy then calls (s.step turn) turns
      else ⟨topic, payload, s.client.nextId, returned (s.step turn) turns⟩ ::
        calls (s.step turn) turns
    | _ => calls (s.step turn) turns

/-- A client with a call under way waits for an acknowledgement, whether or not its request is
handed over. -/
theorem awaited_of_busy {s : System} (h : s.isBusy = true) :
    ∃ call id, s.call = some call ∧ awaitedId call = some id := by
  rw [System.isBusy] at h
  cases hcall : s.call with
  | none => simp [hcall] at h
  | some call =>
    cases call with
    | offering request due => exact ⟨_, request.id, rfl, rfl⟩
    | awaiting id due => exact ⟨_, id, rfl, rfl⟩
    | settled result => simp [hcall, PublishCall.result?] at h

/-- Conversely a call with an id to wait for is under way. -/
theorem busy_of_awaited {s : System} {call : PublishCall} {id : UInt16} (h : s.call = some call)
    (hid : awaitedId call = some id) : s.isBusy = true := by
  rw [System.isBusy, h]
  cases call with
  | settled result => cases hid
  | _ => rfl

/-- A client without a call under way holds no packet back. -/
theorem blocked_of_free {s : System} (h : s.isBusy = false) : blocked s.call = [] := by
  rw [System.isBusy] at h
  cases hcall : s.call with
  | none => rfl
  | some call =>
    cases call with
    | offering request due => simp [hcall, PublishCall.result?] at h
    | _ => rfl

/-- A call that is settled has returned, whatever the turns to come. -/
theorem returned_of_settled {s : System} {result : Except PublishError Unit}
    (h : s.call = some (.settled result)) (turns : List Turn) :
    returned s turns = some result := by
  cases turns with
  | nil => rw [returned, h]; rfl
  | cons turn turns =>
    rw [returned, isBusy_of_settled h, h]
    rfl

/-- A call under way goes on, or it ends with `ok` or out of time. It is too late for it to be
refused. -/
theorem busy_step {s : System} (h : s.isBusy = true) (turn : Turn) :
    (s.step turn).isBusy = true ∨ (s.step turn).call = some (.settled (.ok ())) ∨
      (s.step turn).call = some (.settled (.error .ackTimeout)) := by
  by_cases hclient : ofClient turn = false
  · obtain ⟨-, hcall, -⟩ := step_hears s hclient
    exact .inl (by rw [System.isBusy, hcall]; exact h)
  · cases turn with
    | publish topic payload =>
      rw [System.step_publish_busy h]
      exact .inl h
    | poll =>
      obtain ⟨call, id, hcall, hid⟩ := awaited_of_busy h
      rw [System.step_poll hcall]
      rcases poll_cases s.session.exchange s.now hid with
        ⟨hok, -⟩ | htimeout | ⟨⟨due, hwaits⟩, -⟩ | ⟨request, due, -, hsame⟩
      · exact .inr (.inl (congrArg some hok))
      · exact .inr (.inr (congrArg some htimeout))
      · exact .inl (busy_of_awaited (congrArg some hwaits) rfl)
      · exact .inl (busy_of_awaited (congrArg (some ·.1) hsame) hid)
    | _ => exact absurd rfl hclient

/-- So a call that is under way is never listed as refused. -/
theorem returned_of_busy (turns : List Turn) :
    ∀ s : System, s.isBusy = true → refuses (returned s turns) = false := by
  induction turns with
  | nil =>
    intro s h
    obtain ⟨call, id, hcall, hid⟩ := awaited_of_busy h
    rw [returned, hcall]
    cases call with
    | settled result => cases hid
    | _ => rfl
  | cons turn turns ih =>
    intro s h
    rw [returned, if_pos h]
    rcases busy_step h turn with hbusy | hok | htimeout
    · exact ih _ hbusy
    · rw [returned_of_settled hok]
      rfl
    · rw [returned_of_settled htimeout]
      rfl

/-! ### Runs -/

/-- The law for the turns that are not the client's. The session goes by its moves, and the other
tasks touch neither the slot nor the call. -/
theorem others_flow (s : System) {turn : Turn} (h : ofClient turn = false) :
    Flows (waiting s) s.session.exchange (waiting (s.step turn))
      (s.step turn).session.exchange := by
  cases turn with
  | pass time => exact .of_eq rfl
  | begin =>
    rw [System.step, System.beginNext]
    split
    · rename_i action hphase
      exact (begin_path hphase).flows.append (blocked s.call)
    · exact .of_eq rfl
  | reply reply => exact (resume_path s.session reply).flows.append (blocked s.call)
  | yield =>
    have hsame : (s.step .yield).session.exchange = s.session.exchange := yield_exchange s.session
    have hwaits : waiting (s.step .yield) = waiting s := congrArg (inSlot · ++ blocked s.call) hsame
    rw [hsame, hwaits]
    exact .of_eq rfl
  | notify => exact .of_eq rfl
  | dispatch =>
    rw [System.step, System.dispatchNext]
    split
    · rename_i message exchange hnext
      obtain ⟨rest, -, rfl⟩ := nextMessage_eq_some.mp hnext
      exact .of_eq rfl
    · exact .of_eq rfl
  | publish topic payload => cases h
  | poll => cases h

/-- The law for a later turn of the call. It sends nothing, and may drop its request. -/
theorem poll_flow (s : System) :
    Flows (waiting s) s.session.exchange (waiting (s.step .poll))
      (s.step .poll).session.exchange := by
  cases hcall : s.call with
  | none =>
    rw [System.step_poll_none hcall]
    exact .of_eq rfl
  | some call =>
    have haside : Aside s.session.exchange (call.poll s.session.exchange s.now).2 :=
      poll_aside _ call
    rw [System.step_poll hcall]
    refine .of_sublist (published_of_aside haside) ?_
    rw [waiting, waiting, hcall]
    cases hid : awaitedId call with
    | some id => exact (poll_slot s.session.exchange s.now hid).1
    | none =>
      cases call with
      | settled result => exact .refl _
      | _ => cases hid

/-- A call more in the list: its packet comes first, unless it was refused. -/
theorem packets_cons (p : Publication) (rest : List Publication) :
    packets (p :: rest) = (if refuses p.result then [] else [p.bytes]) ++ packets rest := by
  by_cases h : refuses p.result = true <;> simp [packets, h]

/-- A call sends nothing in its first turn. Its packet comes behind those that wait, unless it is
refused. What it will return is known from the turns to come. -/
theorem publish_flow {s : System} (hfree : s.isBusy = false) (topic : String)
    (payload : List UInt8) (turns : List Turn) :
    let t := s.step (.publish topic payload)
    Flows
      (waiting s ++
        if refuses (returned t turns) then [] else [messageBytes topic payload s.client.nextId])
      s.session.exchange (waiting t) t.session.exchange := by
  intro t
  have haside : Aside s.session.exchange
      (s.client.publish s.session.exchange s.now topic payload).2.2 := publish_aside _ _ _ _
  have ht : t = _ := System.step_publish hfree topic payload
  have hbefore : waiting s = inSlot s.session.exchange := by
    rw [waiting, blocked_of_free hfree, List.append_nil]
  rcases publish_slot s.client s.session.exchange s.now topic payload with
    ⟨result, hrefusal, hsettled, hslot⟩ | ⟨hid, hslot⟩
  · -- Refused: nothing waits that did not wait before.
    have hcall : t.call = some (.settled result) := by
      rw [ht]
      exact congrArg some hsettled
    have hafter : waiting t = waiting s := by
      rw [hbefore, waiting, hcall, ht]
      exact (List.append_nil _).trans hslot
    rw [returned_of_settled hcall, if_pos hrefusal, List.append_nil, hafter]
    refine .of_eq ?_
    rw [ht]
    exact published_of_aside haside
  · -- Admitted: the message waits behind the others, in the slot or for it.
    have hbusy : t.isBusy = true := by
      rw [ht]
      exact busy_of_awaited rfl hid
    have hafter : waiting t = waiting s ++ [messageBytes topic payload s.client.nextId] := by
      rw [hbefore, ht]
      exact hslot
    rw [returned_of_busy turns t hbusy, hafter]
    refine .of_eq ?_
    rw [ht]
    exact published_of_aside haside

/-- One turn: what is sent and what waits afterwards comes from what waited before and, if a call is
made, from that call. This is the step of the induction over a run. -/
theorem step_flows (s : System) (turn : Turn) (turns : List Turn) :
    ∃ fresh, packets (calls s (turn :: turns)) = fresh ++ packets (calls (s.step turn) turns) ∧
      Flows (waiting s ++ fresh) s.session.exchange (waiting (s.step turn))
        (s.step turn).session.exchange := by
  by_cases hclient : ofClient turn = false
  · refine ⟨[], ?_, ?_⟩
    · cases turn <;> first
        | rfl
        | cases hclient
    · rw [List.append_nil]
      exact others_flow s hclient
  · cases turn with
    | publish topic payload =>
      by_cases hbusy : s.isBusy = true
      · -- A call that comes while another one is under way is no turn at all.
        refine ⟨[], by rw [calls, if_pos hbusy]; rfl, ?_⟩
        rw [System.step_publish_busy hbusy, List.append_nil]
        exact .of_eq rfl
      · have hfree : s.isBusy = false := by simpa using hbusy
        exact ⟨_, by rw [calls, if_neg hbusy, packets_cons]; rfl,
          publish_flow hfree topic payload turns⟩
    | poll =>
      refine ⟨[], rfl, ?_⟩
      rw [List.append_nil]
      exact poll_flow s
    | _ => exact absurd rfl hclient

/-- A whole run from any state: what is sent and what still waits at the end comes from what waited
at the start, followed by the packets of the calls that were made. -/
theorem run_flows (turns : List Turn) :
    ∀ s : System, Flows (waiting s ++ packets (calls s turns)) s.session.exchange
      (waiting (s.run turns)) (s.run turns).session.exchange := by
  induction turns with
  | nil =>
    intro s
    exact .of_sublist rfl (by simp [calls, packets])
  | cons turn turns ih =>
    intro s
    obtain ⟨fresh, hcalls, hstep⟩ := step_flows s turn turns
    rw [hcalls, ← List.append_assoc]
    exact (hstep.append _).trans (ih (s.step turn))

/-- A call that has run out of time leaves the slot empty, and nobody but the client fills it. So it
stays empty until the next call is made. -/
def Withdrawn (s : System) : Prop :=
  s.call = some (.settled (.error .ackTimeout)) → s.session.exchange.request = none

/-- If no packet is in the slot, there is no request in it. -/
theorem request_of_inSlot {x : Exchange} (h : inSlot x = []) : x.request = none := by
  cases hrequest : x.request with
  | none => rfl
  | some request =>
    rw [inSlot_some hrequest] at h
    cases h

/-- After a call has run out of time nothing waits, neither in the slot nor with the client. -/
theorem waiting_of_timeout {s : System} (h : Withdrawn s)
    (hcall : s.call = some (.settled (.error .ackTimeout))) : waiting s = [] := by
  rw [waiting, inSlot_none (h hcall), hcall]
  rfl

/-- Every turn keeps it. The turns of others send or drop at most, so that nothing waits after them
if nothing did before; a new call is not out of time in its first turn. -/
theorem withdrawn_step {s : System} (h : Withdrawn s) (turn : Turn) : Withdrawn (s.step turn) := by
  intro hcall
  by_cases hclient : ofClient turn = false
  · obtain ⟨-, hsame, -⟩ := step_hears s hclient
    -- Nothing waited, so nothing waits.
    obtain ⟨sent, -, hheld⟩ := others_flow s hclient
    rw [waiting_of_timeout h (hsame.symm.trans hcall)] at hheld
    have hnone : waiting (s.step turn) = [] :=
      (List.append_eq_nil_iff.mp (List.sublist_nil.mp hheld)).2
    exact request_of_inSlot (List.append_eq_nil_iff.mp hnone).1
  · cases turn with
    | publish topic payload =>
      by_cases hbusy : s.isBusy = true
      · rw [System.step_publish_busy hbusy] at hcall ⊢
        exact h hcall
      · rw [System.step_publish (by simpa using hbusy)] at hcall ⊢
        rcases publish_slot s.client s.session.exchange s.now topic payload with
          ⟨result, hrefusal, hsettled, -⟩ | ⟨hid, -⟩
        · rw [Option.some.injEq, hsettled] at hcall
          cases hcall
          cases hrefusal
        · rw [Option.some.inj hcall] at hid
          cases hid
    | poll =>
      cases hbefore : s.call with
      | none =>
        rw [System.step_poll_none hbefore] at hcall ⊢
        exact h hcall
      | some call =>
        rw [System.step_poll hbefore] at hcall ⊢
        cases hid : awaitedId call with
        | some id => exact (poll_slot s.session.exchange s.now hid).2 (Option.some.inj hcall)
        | none =>
          cases call with
          | settled result => exact h (hbefore.trans hcall)
          | _ => cases hid
    | _ => exact absurd rfl hclient

/-- Every run keeps it, as each of its turns does. -/
theorem withdrawn_run (turns : List Turn) :
    ∀ s : System, Withdrawn s → Withdrawn (s.run turns) := by
  induction turns with
  | nil => intro s h; exact h
  | cons turn turns ih => intro s h; exact ih _ (withdrawn_step h turn)

/-- In every run, up to any moment `s` and from there on:

* the PUBLISH packets given to the transport are a sublist of the packets of the calls made so
  far and not refused: they come in the order of the calls, at most one for each, with its
  topic, its payload and its id, quality of service 1 and the flag to keep it;
* those that follow come from what waits at that moment, or from calls made later;
* if the last call has run out of time, nothing waits: neither the slot nor anybody else holds a
  request that could be written later, in this session or another. -/
theorem published_once (config : SessionConfig) (ackTimeout now : Micros)
    (before after : List Turn) :
    let start := System.boot config ackTimeout now
    let s := start.run before
    (published s.journal).Sublist (packets (calls start before)) ∧
    (∃ sent, published (s.run after).journal = published s.journal ++ sent ∧
      sent.Sublist (waiting s ++ packets (calls s after))) ∧
    (s.call = some (.settled (.error .ackTimeout)) →
      s.session.exchange.request = none ∧ waiting s = []) := by
  intro start s
  have hwithdrawn : Withdrawn s := withdrawn_run before start fun hcall => by cases hcall
  refine ⟨?_, ?_, ?_⟩
  · obtain ⟨sent, hsent, hheld⟩ := run_flows before start
    have hnone : published start.session.exchange.journal = [] := rfl
    rw [hnone, List.nil_append] at hsent
    rw [show published s.journal = sent from hsent]
    exact (List.sublist_append_left _ _).trans hheld
  · obtain ⟨sent, hsent, hheld⟩ := run_flows after s
    exact ⟨sent, hsent, (List.sublist_append_left _ _).trans hheld⟩
  · intro hcall
    exact ⟨hwithdrawn hcall, waiting_of_timeout hwithdrawn hcall⟩

/-- The first message runs out of time before the session takes it. Only the second one is ever
written, although the session asks for requests afterwards. -/
theorem published_once_withdrawn :
    let start := System.boot plainConfig (seconds 4) 0
    let s := start.run (opening ++ [.publish "t" [1], .pass (seconds 4), .poll])
    let later := [.reply .requested, .publish "t" [2], .reply .requested]
    s.call = some (.settled (.error .ackTimeout)) ∧ waiting s = [] ∧
      published (s.run later).journal = [messageBytes "t" [2] 2] ∧
      (∃ sent, published (s.run later).journal = published s.journal ++ sent ∧
        sent.Sublist (packets (calls s later))) := by
  intro start s later
  have hcall : s.call = some (.settled (.error .ackTimeout)) := by decide +kernel
  obtain ⟨-, ⟨sent, hsent, hheld⟩, htimeout⟩ := published_once plainConfig (seconds 4) 0
    (opening ++ [.publish "t" [1], .pass (seconds 4), .poll]) later
  have hnothing : waiting s = [] := (htimeout hcall).2
  refine ⟨hcall, hnothing, by decide +kernel, sent, hsent, ?_⟩
  have hsublist : sent.Sublist (waiting s ++ packets (calls s later)) := hheld
  rwa [hnothing] at hsublist

end WeatherStation.Proofs.Mqtt
