import WeatherStation.Proofs.Mqtt.Malformed
import WeatherStation.Proofs.Mqtt.Opening
import WeatherStation.Proofs.Mqtt.Outbound

/-!
# `WeatherStation.Proofs.Mqtt.Subscription`: the subscription for any list of topics

The session asks for all of its topics in one SUBSCRIBE. The codec keeps their filters in
containers of bounded size, which do not fail but crash when something does not fit
(`collect`), so the session looks at the list before it makes the packet.

* `collect_eq_some_iff`: what the containers hold. The session's own bounds are within it.
* `decode_encode_subscribe`, `length_encode_subscribe_le`: a SUBSCRIBE within these bounds is
  decoded as it was encoded, and it fits the outbound buffer.
* `Awaits.run`: once SUBSCRIBE is written, the session waits for the SUBACK with its id and for
  no other, until it gives the attempt up.

`subscription_law` has the three cases: no topics, topics that do not fit, and all others.
-/

set_option autoImplicit false

namespace WeatherStation.Proofs.Mqtt

open WeatherStation.Mqtt

/-! ### Filters -/

/-- The filters of a SUBSCRIBE for these topics, in a list with room for so many. `none` stands for
the crash of a container that is too small, be it the list or that of one topic. -/
def collect : Nat → List String → Option (List (String × QoS))
  | _, [] => some []
  | 0, _ :: _ => none
  | room + 1, topic :: topics =>
    if topic.utf8ByteSize ≤ Decoding.maxFilterLength then
      (collect room topics).map ((topic, .atMostOnce) :: ·)
    else none

/-- The filters for some topics. -/
def filtersOf (topics : List String) : List (String × QoS) := topics.map (·, QoS.atMostOnce)

/-- The containers hold a list that is not too long, of topics that are not too long, and nothing
else. -/
theorem collect_eq_some_iff {room : Nat} {topics : List String} {filters : List (String × QoS)} :
    collect room topics = some filters ↔
      (topics.length ≤ room ∧ ∀ topic ∈ topics, topic.utf8ByteSize ≤ Decoding.maxFilterLength) ∧
        filters = filtersOf topics := by
  induction room, topics using collect.induct generalizing filters with
  | case1 room => simp [collect, filtersOf, eq_comm]
  | case2 topic topics => simp [collect]
  | case3 room topic topics hfits ih =>
    rw [collect, if_pos hfits, Option.map_eq_some_iff, List.length_cons, List.forall_mem_cons]
    constructor
    · rintro ⟨rest, hrest, rfl⟩
      obtain ⟨⟨hlength, hall⟩, rfl⟩ := ih.mp hrest
      exact ⟨⟨Nat.succ_le_succ hlength, hfits, hall⟩, rfl⟩
    · rintro ⟨⟨hlength, -, hall⟩, rfl⟩
      exact ⟨_, ih.mpr ⟨⟨Nat.le_of_succ_le_succ hlength, hall⟩, rfl⟩, rfl⟩
  | case4 room topic topics hlong =>
    rw [collect, if_neg hlong, List.forall_mem_cons]
    exact iff_of_false nofun fun h => hlong h.1.2.1

/-- The session's check in words: not too many topics, and none of them too long. -/
theorem topicsFit_iff {topics : List String} :
    Session.topicsFit topics = true ↔
      topics.length ≤ maxSubscribeTopics ∧
        ∀ topic ∈ topics, topic.utf8ByteSize ≤ maxTopicLength := by
  simp [Session.topicsFit]

/-- What it means to fail the check. One topic that is too long is enough, wherever it stands in the
list. -/
theorem topicsFit_eq_false_iff {topics : List String} :
    Session.topicsFit topics = false ↔
      maxSubscribeTopics < topics.length ∨
        ∃ topic ∈ topics, maxTopicLength < topic.utf8ByteSize := by
  rw [← Bool.not_eq_true, topicsFit_iff, Decidable.not_and_iff_or_not]
  simp

/-- Topics that fit one SUBSCRIBE fit the containers of the codec. So the crash of a container is
never seen behind the session's check. -/
theorem collect_of_topicsFit {topics : List String} (h : Session.topicsFit topics = true) :
    collect maxSubscribeTopics topics = some (filtersOf topics) := by
  obtain ⟨hlength, hall⟩ := topicsFit_iff.mp h
  refine collect_eq_some_iff.mpr ⟨⟨hlength, fun topic htopic => ?_⟩, rfl⟩
  exact Nat.le_trans (hall topic htopic) (by decide)

/-! ### The packet -/

/-- Items are read as they were written, as long as there is room for them. What is asked of an item
is that it takes at least one byte and is read back with anything behind it. -/
theorem listOf_flatMap {α : Type} {item : List UInt8 → Except Fault (α × List UInt8)}
    {write : α → List UInt8} {room : Nat} {xs : List α} (hroom : xs.length ≤ room)
    (hsome : ∀ x, write x ≠ [])
    (hitem : ∀ x ∈ xs, ∀ rest, item (write x ++ rest) = .ok (x, rest)) :
    Decoding.listOf item room (xs.flatMap write) = .ok xs := by
  induction xs generalizing room with
  | nil => cases room <;> rfl
  | cons x xs ih =>
    obtain ⟨room, rfl⟩ : ∃ n, room = n + 1 := Nat.exists_eq_add_one.mpr (Nat.zero_lt_of_lt hroom)
    obtain ⟨hfirst, hrest⟩ := List.forall_mem_cons.mp hitem
    have hxs := ih (Nat.le_of_succ_le_succ hroom) hrest
    have hne : write x ++ xs.flatMap write ≠ [] := List.append_ne_nil_of_left_ne_nil (hsome x) _
    rw [List.flatMap_cons, Decoding.listOf.eq_3 _ _ _ hne, hfirst]
    show Decoding.listOf item room (xs.flatMap write) >>= _ = _
    rw [hxs]
    rfl

/-- The bytes of one filter. -/
def filterBytes (filter : String × QoS) : List UInt8 :=
  Encoding.text filter.1 ++ [Encoding.qos filter.2]

/-- Two bytes for the length of the topic, and one for the quality. -/
theorem length_filterBytes (filter : String × QoS) :
    (filterBytes filter).length = filter.1.utf8ByteSize + 3 := by
  rw [filterBytes, List.length_append, length_text]
  rfl

/-- A filter is read as it was written if its topic fits the container. -/
theorem subscription_filterBytes {filter : String × QoS}
    (h : filter.1.utf8ByteSize ≤ Decoding.maxFilterLength) (rest : List UInt8) :
    Decoding.subscription (filterBytes filter ++ rest) = .ok (filter, rest) := by
  have hlength : filter.1.utf8ByteSize < 65536 := Nat.lt_of_le_of_lt h (by decide)
  have htopic : Decoding.filter (Encoding.text filter.1 ++ (Encoding.qos filter.2 :: rest)) =
      .ok (filter.1, Encoding.qos filter.2 :: rest) := by
    rw [Decoding.filter, text_text hlength]
    exact if_neg (Nat.not_lt.mpr h)
  have hquality : Decoding.qos? (Encoding.qos filter.2) = some filter.2 := qos?_eq_some.mpr rfl
  rw [filterBytes, List.append_assoc, Decoding.subscription]
  refine bind_eq_ok.mpr ⟨_, htopic, bind_eq_ok.mpr ⟨_, byte_ok.mpr rfl, ?_⟩⟩
  dsimp only
  rw [hquality]

section
variable {id : UInt16} {filters : List (String × QoS)}

/-- Each filter takes its topic and three bytes more. -/
theorem length_flatMap_filterBytes_le {bound : Nat}
    (hall : ∀ filter ∈ filters, filter.1.utf8ByteSize ≤ bound) :
    (filters.flatMap filterBytes).length ≤ (bound + 3) * filters.length := by
  induction filters with
  | nil => exact Nat.zero_le _
  | cons filter filters ih =>
    obtain ⟨hfirst, hrest⟩ := List.forall_mem_cons.mp hall
    have hlater := ih hrest
    rw [List.flatMap_cons, List.length_append, length_filterBytes, List.length_cons,
      Nat.mul_succ]
    omega

/-- The id comes in front of the filters. -/
theorem length_body_subscribe (id : UInt16) (filters : List (String × QoS)) :
    (Encoding.body (.subscribe id filters)).length =
      2 + (filters.flatMap filterBytes).length := by
  show (Encoding.word id ++ filters.flatMap filterBytes).length = _
  rw [List.length_append]
  rfl

/-- Within the bounds of the session, a SUBSCRIBE has a body of no more than 657 bytes. -/
theorem length_body_subscribe_le (hfew : filters.length ≤ maxSubscribeTopics)
    (hshort : ∀ filter ∈ filters, filter.1.utf8ByteSize ≤ maxTopicLength) :
    (Encoding.body (.subscribe id filters)).length ≤ 657 := by
  have hlist := length_flatMap_filterBytes_le hshort
  have htimes : (maxTopicLength + 3) * filters.length ≤ (maxTopicLength + 3) * maxSubscribeTopics :=
    Nat.mul_le_mul_left _ hfew
  have hmost : (maxTopicLength + 3) * maxSubscribeTopics = 655 := rfl
  rw [length_body_subscribe]
  omega

/-- In front of the body stand the header byte and a length field of at most four bytes. -/
theorem length_encode_subscribe_le (hfew : filters.length ≤ maxSubscribeTopics)
    (hshort : ∀ filter ∈ filters, filter.1.utf8ByteSize ≤ maxTopicLength) :
    (Packet.subscribe id filters).encode.length ≤ 662 := by
  have hbody : (Encoding.body (.subscribe id filters)).length ≤ 657 :=
    length_body_subscribe_le hfew hshort
  have hfield := length_encode_le_four (Nat.le_trans hbody (by decide))
  rw [Packet.encode, List.length_append, List.length_cons]
  omega

/-- A SUBSCRIBE is decoded as it was encoded. A broker is taken to read the bytes as the codec's own
reader does. -/
theorem decode_encode_subscribe (hid : id ≠ 0) (hfew : filters.length ≤ maxSubscribeTopics)
    (hshort : ∀ filter ∈ filters, filter.1.utf8ByteSize ≤ Decoding.maxFilterLength)
    (hbody : (Encoding.body (.subscribe id filters)).length ≤ RemainingLength.maximum) :
    Packet.decode (Packet.subscribe id filters).encode = .ok (.subscribe id filters) := by
  have hlist : Decoding.listOf Decoding.subscription maxSubscribeTopics
      (filters.flatMap filterBytes) = .ok filters := by
    refine listOf_flatMap hfew (fun filter hnil => ?_) fun filter hfilter =>
      subscription_filterBytes (hshort filter hfilter)
    have hlength := length_filterBytes filter
    rw [hnil] at hlength
    cases hlength
  have hallowed : Decoding.flagsAllowed 0x82 = true := by decide
  have htype : ((0x82 : UInt8) >>> 4).toNat = 8 := by decide
  rw [decode_of_parts (parts_encode hbody), Encoding.header, Decoding.ofBody, hallowed, htype]
  show Decoding.subscribe (Encoding.word id ++ filters.flatMap filterBytes) = _
  refine bind_eq_ok.mpr ⟨_, id_word hid _, ?_⟩
  dsimp only
  rw [hlist]
  rfl

end

/-- The ids of attempts have their highest bit set, so none of them is zero. -/
theorem nextSubscribeId_ne_zero (id : UInt16) : Session.nextSubscribeId id ≠ 0 := by
  intro h
  exact absurd (UInt16.or_eq_zero_iff.mp h).1 (by decide)

/-- The session's own bounds see to it that SUBSCRIBE fits the outbound buffer, and that what is in
it is the topics with this id. -/
theorem encodeWithin_subscribe {topics : List String} (id : UInt16)
    (hfit : Session.topicsFit topics = true) :
    let packet := Packet.subscribe (Session.nextSubscribeId id) (filtersOf topics)
    packet.encodeWithin outboundCapacity = some packet.encode ∧
      packet.encode.length ≤ outboundCapacity ∧ Packet.decode packet.encode = .ok packet := by
  obtain ⟨hfew, hshort⟩ := topicsFit_iff.mp hfit
  have hlength : (filtersOf topics).length ≤ maxSubscribeTopics := by
    rw [filtersOf, List.length_map]
    exact hfew
  have hall : ∀ filter ∈ filtersOf topics, filter.1.utf8ByteSize ≤ maxTopicLength :=
    List.forall_mem_map.mpr hshort
  have hid := nextSubscribeId_ne_zero id
  have hbytes :
      (Packet.subscribe (Session.nextSubscribeId id) (filtersOf topics)).encode.length ≤
        outboundCapacity :=
    Nat.le_trans (length_encode_subscribe_le hlength hall) (by decide)
  refine ⟨encodeWithin_of_le (fun hzero => hid (Option.some.inj hzero)) hbytes, hbytes, ?_⟩
  refine decode_encode_subscribe hid hlength (fun filter hfilter => ?_) ?_
  · exact Nat.le_trans (hall filter hfilter) (by decide)
  · exact Nat.le_trans (length_body_subscribe_le hlength hall) (by decide)

/-! ### The wait for SUBACK -/

/-- The session is on its way to the SUBACK with this id: it reads for it, or it writes the
SUBSCRIBE or the acknowledgement of a message in between. What else comes, be it the SUBACK of
another id, does not take it off this way. -/
def Awaits (id : UInt16) (s : Session) : Prop :=
  (∃ timer, s.phase = .reading (.suback id) timer) ∨
    ∃ bytes errand, s.phase = .writing bytes errand ∧ purposeOf errand = .suback id

/-- The way there is over. Either the action has just ended, as subscribed only behind the SUBACK
with this id that grants all topics, or the session has crashed. -/
def Concluded (id : UInt16) (now : Micros) (s : Session) : Prop :=
  s.phase = .crashed ∨
    ∃ event past, s.exchange.journal = ⟨now, .ended event⟩ :: past ∧
      (event = .subscribed → ∃ codes before,
        past = ⟨now, .applied (.suback id codes)⟩ :: before ∧ none ∉ codes)

section
variable {id : UInt16} {now : Micros} {s t : Session}

/-- Whatever is not the end of a subscription ends the action without one. -/
theorem concluded_finish {event : Event} (h : event ≠ .subscribed) (s : Session) :
    Concluded id now (s.finish now event) :=
  .inr ⟨event, s.exchange.journal, rfl, fun hevent => absurd hevent h⟩

/-- However the looking at packets ends, the session goes on to the same SUBACK, or no further. -/
theorem Ends.awaits {due : Micros} (h : Ends now (.suback id) due s t) :
    Awaits id t ∨ Concluded id now t := by
  cases h with
  | waits hframe hdue => exact .inl (.inl ⟨_, rfl⟩)
  | loses hbroken => exact .inr (concluded_finish Event.noConfusion _)
  | crashes framed hcut => exact .inr (.inl rfl)
  | acknowledges applied hreply => exact .inl (.inr ⟨_, _, rfl, rfl⟩)
  | succeeds applied hreply hverdict =>
    obtain rfl := suback_of_granted hverdict
    obtain ⟨framed, decoded, happlied⟩ := applied
    obtain ⟨codes, rfl, hcodes⟩ := suback_of_apply happlied
    refine .inr (.inr ⟨.subscribed, _, rfl, fun _ => ⟨codes, _, rfl, fun hnone => ?_⟩⟩)
    exact List.any_eq_false.mp hcodes none hnone rfl
  | givesUp applied hreply hverdict => exact .inr (concluded_finish Event.noConfusion _)

/-- To read on is to look at the packets that are there first. -/
theorem awaits_read (s : Session) (timer : Timer) :
    Awaits id (s.read now (.suback id) timer) ∨
      Concluded id now (s.read now (.suback id) timer) := by
  obtain ⟨t, -, hends⟩ : ∃ t, _ ∧ Ends now _ _ t (s.read now (.suback id) timer) :=
    read_handles s (.suback id) timer
  exact hends.awaits

/-- The end of a write on the way: the session reads on, or the connection is lost. -/
theorem awaits_written {bytes : List UInt8} {errand : Errand}
    (hphase : s.phase = .writing bytes errand) (hpurpose : purposeOf errand = .suback id)
    (ok : Bool) :
    Awaits id (s.resume now (.written ok)) ∨ Concluded id now (s.resume now (.written ok)) := by
  rw [Session.resume.eq_def, hphase]
  cases errand with
  | subscribe other =>
    obtain rfl : other = id := Purpose.suback.inj hpurpose
    cases ok with
    | false => exact .inr (concluded_finish Event.noConfusion _)
    | true => exact awaits_read _ _
  | puback receipt purpose due =>
    obtain rfl : purpose = .suback id := hpurpose
    cases ok with
    | false => exact .inr (concluded_finish Event.noConfusion _)
    | true => exact awaits_read _ _
  | _ => cases hpurpose

/-- After any reply it is still that SUBACK which the session goes for. The replies that do not
belong to what it waits for change nothing. -/
theorem Awaits.resume (h : Awaits id s) (reply : Reply) :
    Awaits id (s.resume now reply) ∨ Concluded id now (s.resume now reply) := by
  have hsame := h
  rcases h with ⟨timer, hphase⟩ | ⟨bytes, errand, hphase, hpurpose⟩
  · rw [Session.resume.eq_def, hphase]
    cases reply with
    | received bytes =>
      cases bytes with
      | none => exact .inr (concluded_finish Event.noConfusion _)
      | some bytes =>
        cases bytes with
        | nil => exact .inr (concluded_finish Event.noConfusion _)
        | cons b bytes => exact awaits_read _ timer
    | elapsed =>
      dsimp only
      split
      · exact .inr (concluded_finish Event.noConfusion _)
      · exact .inl hsame
    | _ => exact .inl hsame
  · cases reply with
    | written ok => exact awaits_written hphase hpurpose ok
    | _ =>
      rw [Session.resume.eq_def, hphase]
      exact .inl hsame

end

section
variable {id : UInt16} {s : System}

/-- Nothing that the other tasks do leads the session off its way. -/
theorem Awaits.step (h : Awaits id s.session) (turn : Turn) :
    Awaits id (s.step turn).session ∨ Concluded id s.now (s.step turn).session := by
  have hothers (hturn : ofSession turn = false) : Awaits id (s.step turn).session := by
    obtain ⟨exchange, -, hsession⟩ := s.step_aside hturn
    rw [hsession]
    exact h
  cases turn with
  | begin =>
    refine .inl ?_
    rw [System.step, System.beginNext]
    rcases h with ⟨timer, hphase⟩ | ⟨bytes, errand, hphase, hpurpose⟩
    · rw [hphase]
      exact .inl ⟨timer, hphase⟩
    · rw [hphase]
      exact .inr ⟨bytes, errand, hphase, hpurpose⟩
  | reply reply => exact h.resume reply
  | yield =>
    refine .inl ?_
    show Awaits id s.session.yield
    rcases h with ⟨timer, hphase⟩ | ⟨bytes, errand, hphase, hpurpose⟩
    · rw [Session.yield, hphase]
      exact .inl ⟨_, rfl⟩
    · rw [Session.yield, hphase]
      exact .inr ⟨bytes, errand, hphase, hpurpose⟩
  | _ => exact .inl (hothers rfl)

/-- Any number of turns later the session is still on its way, or it has come to the end of it in
one of them. -/
theorem Awaits.run (turns : List Turn) : ∀ {s : System}, Awaits id s.session →
    Awaits id (s.run turns).session ∨ ∃ earlier turn later, turns = earlier ++ turn :: later ∧
      Concluded id (s.run earlier).now (s.run (earlier ++ [turn])).session := by
  induction turns with
  | nil => exact fun h => .inl h
  | cons turn turns ih =>
    intro s h
    rcases h.step turn with hstill | hover
    · refine (ih hstill).imp_right ?_
      rintro ⟨earlier, last, later, rfl, hlast⟩
      exact ⟨turn :: earlier, last, later, rfl, hlast⟩
    · exact .inr ⟨[], turn, turns, rfl, hover⟩

end

/-! ### The action -/

section
variable {now : Micros} {s : Session}

/-- Without topics there is nothing to ask for, and the session is open. -/
theorem begin_subscribe_nothing (h : s.config.topics = []) :
    s.begin now .subscribe =
      ((s.note now (.began .subscribe)).setConnected true).finish now .subscribed := by
  show (s.note now (.began .subscribe)).beginSubscribe now = _
  exact if_pos (List.isEmpty_iff.mpr h)

/-- Topics that do not fit are a failed attempt, without an id and without a write. -/
theorem begin_subscribe_unfit (h : Session.topicsFit s.config.topics = false) :
    s.begin now .subscribe = (s.note now (.began .subscribe)).finish now .subscribeFailed := by
  have hsome : s.config.topics.isEmpty = false := by
    refine List.isEmpty_eq_false_iff.mpr fun hnone => ?_
    rw [hnone] at h
    cases h
  show (if s.config.topics.isEmpty = true then _
    else if (!Session.topicsFit s.config.topics) = true then _ else _) = _
  rw [hsome, h]
  rfl

/-- Topics that fit go to the broker in one packet, with the next id. -/
theorem begin_subscribe_sends (hsome : s.config.topics ≠ [])
    (hfit : Session.topicsFit s.config.topics = true) :
    let id := Session.nextSubscribeId s.subscribeId
    s.begin now .subscribe =
      { s.note now (.began .subscribe) with subscribeId := id }.await now
        (.writing (subscribeBytes s.config id) (.subscribe id)) := by
  obtain ⟨hwithin, -⟩ := encodeWithin_subscribe s.subscribeId hfit
  show (if s.config.topics.isEmpty = true then _
    else if (!Session.topicsFit s.config.topics) = true then _
    else Session.write _ _ (.subscribe (Session.nextSubscribeId s.subscribeId)
      (filtersOf s.config.topics)) _ _) = _
  rw [List.isEmpty_eq_false_iff.mpr hsome, hfit, Bool.not_true, if_neg Bool.false_ne_true,
    if_neg Bool.false_ne_true, Session.write, hwithin]
  rfl

end

/-- What subscribing does, for any list of topics and in any state in which it comes next.

1. Without topics the session is open at once, and nothing is written.
2. With more than five topics, or with one of more than 128 bytes, the attempt fails. Nothing is
   written, and the shared state stays as it was.
3. Any other list fits the containers of the codec. The session writes one packet, which fits the
   outbound buffer and is decoded as a SUBSCRIBE for exactly these topics in their order, each of
   quality of service 0. From then on, whatever the other tasks and the transport do, the session
   goes for the SUBACK with the id of this packet, and the attempt succeeds by no other. -/
theorem subscription_law (s : System) (hnext : s.session.phase = .idle .subscribe) :
    let topics := s.session.config.topics
    let x := s.session.exchange
    let began : Entry := ⟨s.now, .began .subscribe⟩
    let t := s.step .begin
    (topics = [] →
      t.session.exchange =
        { x with connected := true, journal := ⟨s.now, .ended .subscribed⟩ :: began :: x.journal } ∧
      (s.session.state = .subscribe → t.session.state = .connected)) ∧
    ((maxSubscribeTopics < topics.length ∨
        ∃ topic ∈ topics, maxTopicLength < topic.utf8ByteSize) →
      t.session.exchange =
        { x with journal := ⟨s.now, .ended .subscribeFailed⟩ :: began :: x.journal }) ∧
    (topics ≠ [] → topics.length ≤ maxSubscribeTopics →
      (∀ topic ∈ topics, topic.utf8ByteSize ≤ maxTopicLength) →
      ∃ id filters bytes,
        collect maxSubscribeTopics topics = some filters ∧
        (Packet.subscribe id filters).encodeWithin outboundCapacity = some bytes ∧
        bytes.length ≤ outboundCapacity ∧
        Packet.decode bytes = .ok (.subscribe id (topics.map (·, QoS.atMostOnce))) ∧
        t.session.exchange =
          { x with journal := ⟨s.now, .asked (.write bytes)⟩ :: began :: x.journal } ∧
        t.session.phase = .writing bytes (.subscribe id) ∧
        ∀ turns, Awaits id (t.run turns).session ∨
          ∃ earlier turn later, turns = earlier ++ turn :: later ∧
            Concluded id (t.run earlier).now (t.run (earlier ++ [turn])).session) := by
  intro topics x began t
  have hbegin : t.session = s.session.begin s.now .subscribe := by
    show (s.step .begin).session = _
    rw [System.step, System.beginNext, hnext]
  refine ⟨fun hnone => ?_, fun hunfit => ?_, fun hsome hfew hshort => ?_⟩
  · -- The flag goes up before the action ends, and the machine follows with the end.
    rw [hbegin, begin_subscribe_nothing hnone]
    refine ⟨rfl, fun hstate => ?_⟩
    show (transition _ s.session.state _ .subscribed).state = .connected
    rw [hstate]
    rfl
  · rw [hbegin, begin_subscribe_unfit (topicsFit_eq_false_iff.mpr hunfit)]
    rfl
  · -- The packet is known once the topics fit, and from its write on `Awaits` carries the run.
    have hfit : Session.topicsFit topics = true := topicsFit_iff.mpr ⟨hfew, hshort⟩
    obtain ⟨hwithin, hbytes, hdecode⟩ := encodeWithin_subscribe s.session.subscribeId hfit
    have hsends := hbegin.trans (begin_subscribe_sends hsome hfit)
    have hphase : t.session.phase =
        .writing (subscribeBytes s.session.config (Session.nextSubscribeId s.session.subscribeId))
          (.subscribe (Session.nextSubscribeId s.session.subscribeId)) := by
      rw [hsends]
      rfl
    refine ⟨_, _, _, collect_of_topicsFit hfit, hwithin, hbytes, hdecode, ?_, hphase, ?_⟩
    · rw [hsends]
      rfl
    · exact fun turns => Awaits.run turns (.inr ⟨_, _, hphase, rfl⟩)

/-- Five topics of 128 bytes, which is as much as the session takes. -/
theorem subscription_law_full :
    let topic := String.ofList (List.replicate 128 'a')
    let config := { plainConfig with topics := List.replicate 5 topic }
    let s := (System.boot config (seconds 4) 0).run (opening.take 5)
    s.session.phase = .idle .subscribe ∧
      ∃ id bytes, Packet.decode bytes =
          .ok (.subscribe id (List.replicate 5 (topic, QoS.atMostOnce))) ∧
        (s.step .begin).session.phase = .writing bytes (.subscribe id) ∧
        bytes.length ≤ outboundCapacity ∧ Awaits id (s.step .begin).session := by
  intro topic config s
  have hnext : s.session.phase = .idle .subscribe := by decide +kernel
  have htopics : s.session.config.topics = List.replicate 5 topic := by decide +kernel
  obtain ⟨-, -, hlaw⟩ := subscription_law s hnext
  rw [htopics] at hlaw
  have hshort : ∀ t ∈ List.replicate 5 topic, t.utf8ByteSize ≤ maxTopicLength := by
    intro t ht
    rw [List.eq_of_mem_replicate ht]
    decide +kernel
  obtain ⟨id, filters, bytes, -, -, hbytes, hdecode, -, hphase, -⟩ :=
    hlaw (by simp) (by decide) hshort
  exact ⟨hnext, id, bytes, hdecode, hphase, hbytes, .inr ⟨_, _, hphase, rfl⟩⟩

end WeatherStation.Proofs.Mqtt
