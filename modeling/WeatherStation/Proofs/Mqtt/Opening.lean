import Mathlib.Logic.Function.Iterate
import WeatherStation.Proofs.Mqtt.Acknowledgement
import WeatherStation.Proofs.Mqtt.Escalation
import WeatherStation.Proofs.Mqtt.Link

/-!
# `WeatherStation.Proofs.Mqtt.Opening`: what stands behind an open session

A session opens in two actions. The first one dials, writes CONNECT and waits for a CONNACK. The
second one writes a SUBSCRIBE for all topics and waits for the SUBACK with its id; it is tried
again on the same link, each time with the next id, until too many attempts have failed. In both
waits other packets may come and are acknowledged.

`Opened` says what the present link has to show for a session to be open. `Progress` says what
it shows at each point on the way, and `Move.progress` is the step: what a move leads to builds
on what the link has shown before. The ids take care of the answers to earlier attempts. They
come back after 32768 attempts (`le_of_iterate_nextSubscribeId`), and the failures that the
connection machine allows are far fewer, so that no two attempts on a link have the same id.

`opened_before_connected` is the gate: wherever a turn leads the machine into its last state, the
session was opened in full on the link at that moment.
-/

set_option autoImplicit false

namespace WeatherStation.Proofs.Mqtt

open WeatherStation.Mqtt

/-! ### Packets on the way to a session -/

/-- The CONNECT that opens a session. -/
def connectBytes (c : SessionConfig) : List UInt8 :=
  (Packet.connect ⟨c.keepAliveSeconds, c.clientId, true⟩).encode

/-- The SUBSCRIBE with this id, for all topics in their order. -/
def subscribeBytes (c : SessionConfig) (id : UInt16) : List UInt8 :=
  (Packet.subscribe id (c.topics.map (·, QoS.atMostOnce))).encode

/-- Two numbers with the same two bytes are the same, as both are read back from them. -/
theorem word_injective {m n : UInt16} (h : Encoding.word m = Encoding.word n) : m = n := by
  obtain ⟨hhigh, hlow⟩ : (m >>> 8).toUInt8 = (n >>> 8).toUInt8 ∧ m.toUInt8 = n.toUInt8 := by
    simpa [Encoding.word] using h
  have hm := toNat_bytes m
  have hn := toNat_bytes n
  rw [hhigh, hlow] at hm
  exact UInt16.toNat_inj.mp (by omega)

/-- The bytes of a SUBSCRIBE tell its id. -/
theorem subscribeBytes_injective {c : SessionConfig} {id id' : UInt16}
    (h : subscribeBytes c id = subscribeBytes c id') : id = id' := by
  have hlength : (Encoding.body (.subscribe id (c.topics.map (·, QoS.atMostOnce)))).length =
      (Encoding.body (.subscribe id' (c.topics.map (·, QoS.atMostOnce)))).length := rfl
  rw [subscribeBytes, subscribeBytes, Packet.encode, Packet.encode, hlength] at h
  have hbody := List.append_cancel_left (List.cons.inj h).2
  exact word_injective (List.append_cancel_right hbody)

/-- A packet of another kind begins with another byte, so nothing else that the session writes is
taken for an attempt to subscribe. -/
theorem ne_subscribeBytes {packet : Packet} (c : SessionConfig)
    (hheader : Encoding.header packet ≠ 0x82) (id : UInt16) :
    packet.encode ≠ subscribeBytes c id := by
  intro h
  exact hheader (List.cons.inj h).1

/-! ### Ids of attempts -/

/-- The ids of attempts count up through the upper half of their range and go round there. Modulo
32768 that is counting on. -/
theorem nextSubscribeId_mod (id : UInt16) :
    (Session.nextSubscribeId id).toNat % 32768 = (id.toNat + 1) % 32768 := by
  have hmask : ((id + 1) &&& 0x7FFF).toNat = (id.toNat + 1) % 32768 := by
    rw [UInt16.toNat_and, UInt16.toNat_add]
    show (id.toNat + 1) % 65536 &&& (2 ^ 15 - 1) = (id.toNat + 1) % 32768
    rw [Nat.and_two_pow_sub_one_eq_mod]
    omega
  -- The highest bit, which is always set, does not count.
  have hor : (0x8000 ||| (id.toNat + 1) % 32768) % 2 ^ 15 = (id.toNat + 1) % 32768 := by
    rw [Nat.or_mod_two_pow, show 0x8000 % 2 ^ 15 = 0 from rfl, Nat.zero_or]
    exact Nat.mod_mod _ 32768
  rw [Session.nextSubscribeId, UInt16.toNat_or, hmask]
  exact hor

/-- After any number of steps the id has been counted up so often, modulo 32768. -/
theorem iterate_nextSubscribeId_mod (n : Nat) (id : UInt16) :
    (Session.nextSubscribeId^[n] id).toNat % 32768 = (id.toNat + n) % 32768 := by
  induction n with
  | zero => rfl
  | succ n ih =>
    rw [Function.iterate_succ_apply', nextSubscribeId_mod]
    omega

/-- An id comes back after 32768 attempts, not earlier. -/
theorem le_of_iterate_nextSubscribeId {n : Nat} {id : UInt16} (hpos : 0 < n)
    (h : Session.nextSubscribeId^[n] id = id) : 32768 ≤ n := by
  have hmod := iterate_nextSubscribeId_mod n id
  rw [h] at hmod
  omega

/-! ### What a link shows -/

/-- On this link CONNECT was written, and after that a CONNACK with code 0 was applied. Other
happenings may lie between the two and around them, for a broker may send other packets first. -/
def Accepted (c : SessionConfig) (link : List Happening) : Prop :=
  ∃ present, List.Sublist
    [.applied (.connack present 0), .answered (.write (connectBytes c)) (.written true)] link

/-- On this link the session was accepted, and after that the SUBSCRIBE with this id was given to
the transport. No SUBSCRIBE before it had the id, and `later`, which came after it, holds none
at all. -/
def LastAsked (c : SessionConfig) (id : UInt16) (later link : List Happening) : Prop :=
  ∃ earlier, link = later ++ .asked (.write (subscribeBytes c id)) :: earlier ∧
    Accepted c earlier ∧ .asked (.write (subscribeBytes c id)) ∉ earlier ∧
    ∀ other, .asked (.write (subscribeBytes c other)) ∉ later

/-- The link ends with a SUBACK for all topics. It answers the last SUBSCRIBE, which was
written. -/
def Granted (c : SessionConfig) (link : List Happening) : Prop :=
  ∃ id codes later asked, link = .applied (.suback id codes) :: asked ∧ none ∉ codes ∧
    LastAsked c id later asked ∧
    .answered (.write (subscribeBytes c id)) (.written true) ∈ later

/-- What an open session has behind it: a link on which it was accepted, and on which the broker
has granted the topics if there are any. -/
def Opened (c : SessionConfig) (past : List Entry) : Prop :=
  ∃ link, Linked link past ∧ Accepted c link ∧ (c.topics ≠ [] → Granted c link)

/-- How far a session has come on its link. Each stage asks of the link what the one before it does
and something more, but for `ready`, which speaks of the id that comes next. -/
inductive Stage where
  | dialed
  /-- CONNECT is written. -/
  | greeted
  | accepted
  /-- Accepted, and with an id that no SUBSCRIBE on the link has. -/
  | ready
  /-- The SUBSCRIBE with the session's id is given to the transport. -/
  | asked
  /-- It is written. -/
  | subscribed

/-- What the link shows at a stage. -/
def Shows (c : SessionConfig) (id : UInt16) (link : List Happening) : Stage → Prop
  | .dialed => True
  | .greeted => .answered (.write (connectBytes c)) (.written true) ∈ link
  | .accepted => Accepted c link
  | .ready => Accepted c link ∧ .asked (.write (subscribeBytes c id)) ∉ link
  | .asked => ∃ later, LastAsked c id later link
  | .subscribed => ∃ later, LastAsked c id later link ∧
      .answered (.write (subscribeBytes c id)) (.written true) ∈ later

/-- Every SUBSCRIBE on the link has one of the last ids up to the present one. That is what tells a
new id from all of them, as long as there are fewer attempts than ids. -/
def Behind (c : SessionConfig) (id : UInt16) (tries : Nat) (link : List Happening) : Prop :=
  ∀ other, .asked (.write (subscribeBytes c other)) ∈ link →
    ∃ n < tries, Session.nextSubscribeId^[n] other = id

/-- The session has a link, it has come to this stage on it, and it has made so many attempts to
subscribe. -/
def At (s : Session) (stage : Stage) (tries : Nat) : Prop :=
  ∃ link, Linked link s.exchange.journal ∧ Shows s.config s.subscribeId link stage ∧
    Behind s.config s.subscribeId tries link

/-- What ends no link and is no SUBSCRIBE. Anything of this kind may come at any stage and changes
none. -/
def Quiet (c : SessionConfig) (what : Happening) : Prop :=
  cuts what = false ∧ ∀ id, what ≠ .asked (.write (subscribeBytes c id))

/-- Whether bytes are given to the transport. -/
def writes : Happening → Bool
  | .asked (.write _) => true
  | _ => false

/-- What is given to the transport is all that has to be looked at for a SUBSCRIBE. -/
theorem Quiet.of_kept {what : Happening} {c : SessionConfig} (hcuts : cuts what = false)
    (hwrites : writes what = false) : Quiet c what := by
  refine ⟨hcuts, fun id hwhat => ?_⟩
  rw [hwhat] at hwrites
  cases hwrites

/-- The other tasks have nothing to do with the link. -/
theorem quiet_of_aside {what : Happening} (c : SessionConfig) (h : bySession what = false) :
    Quiet c what := by
  cases what <;> first
    | exact .of_kept rfl rfl
    | cases h

section
variable {c : SessionConfig} {id : UInt16} {link : List Happening} {what : Happening}

/-- A link that shows the CONNACK shows it whatever comes later. -/
theorem Accepted.cons (h : Accepted c link) (what : Happening) : Accepted c (what :: link) := by
  obtain ⟨present, horder⟩ := h
  exact ⟨present, horder.cons what⟩

/-- Nothing is asked for on a link that was not accepted first. -/
theorem LastAsked.accepted {later : List Happening} (h : LastAsked c id later link) :
    Accepted c link := by
  obtain ⟨earlier, rfl, ⟨present, horder⟩, -⟩ := h
  exact ⟨present, (horder.cons _).trans (List.sublist_append_right _ _)⟩

/-- The last SUBSCRIBE stays the last one until there is another. -/
theorem LastAsked.cons {later : List Happening} (h : LastAsked c id later link)
    (hquiet : Quiet c what) : LastAsked c id (what :: later) (what :: link) := by
  obtain ⟨earlier, rfl, haccepted, hfirst, hlast⟩ := h
  refine ⟨earlier, rfl, haccepted, hfirst, ?_⟩
  intro other hmem
  rcases List.mem_cons.mp hmem with hwhat | hlater
  · exact hquiet.2 other hwhat.symm
  · exact hlast other hlater

/-- What a link shows it still shows after something quiet. -/
theorem Shows.cons {stage : Stage} (h : Shows c id link stage) (hquiet : Quiet c what) :
    Shows c id (what :: link) stage := by
  cases stage with
  | dialed => trivial
  | greeted => exact List.mem_cons_of_mem what h
  | accepted => exact Accepted.cons h what
  | ready =>
    refine ⟨h.1.cons what, ?_⟩
    intro hmem
    rcases List.mem_cons.mp hmem with hwhat | hold
    · exact hquiet.2 id hwhat.symm
    · exact h.2 hold
  | asked =>
    obtain ⟨later, hasked⟩ := h
    exact ⟨_, hasked.cons hquiet⟩
  | subscribed =>
    obtain ⟨later, hasked, hwritten⟩ := h
    exact ⟨_, hasked.cons hquiet, List.mem_cons_of_mem what hwritten⟩

/-- Something quiet is no attempt. -/
theorem Behind.cons {tries : Nat} (h : Behind c id tries link) (hquiet : Quiet c what) :
    Behind c id tries (what :: link) := by
  intro other hmem
  rcases List.mem_cons.mp hmem with hwhat | hold
  · exact absurd hwhat.symm (hquiet.2 other)
  · exact h other hold

end

/-! ### Stages of a session

Each lemma leads from one stage to the next, by the happening that makes the difference. -/

namespace At

section
variable {now : Micros} {s : Session} {stage : Stage} {tries : Nat} {what : Happening}

/-- Whatever is quiet leaves the stage as it is. -/
theorem note (h : At s stage tries) (hquiet : Quiet s.config what) :
    At (s.note now what) stage tries := by
  obtain ⟨link, hlink, hshows, hbehind⟩ := h
  exact ⟨what :: link, hlink.cons hquiet.1, hshows.cons hquiet, hbehind.cons hquiet⟩

/-- The client and the dispatching task do not touch the link, and so not the stage. -/
theorem aside {exchange : Exchange} (haside : Aside s.exchange exchange) (h : At s stage tries) :
    At { s with exchange } stage tries := by
  refine haside.keeps (P := fun past => ∃ link, Linked link past ∧
    Shows s.config s.subscribeId link stage ∧ Behind s.config s.subscribeId tries link) ?_ h
  rintro e past hother ⟨link, hlink, hshows, hbehind⟩
  have hquiet : Quiet s.config e.what := quiet_of_aside _ hother
  exact ⟨e.what :: link, hlink.cons hquiet.1, hshows.cons hquiet, hbehind.cons hquiet⟩

/-- A new link shows nothing yet, and no attempt was made on it. -/
theorem dialed {remote : Endpoint} :
    At (s.note now (.answered (.dial remote) (.dialed true))) .dialed 0 :=
  ⟨[], linked_dialed now remote s.exchange.journal, trivial, by simp [Behind]⟩

/-- The CONNECT has been written. -/
theorem greet (h : At s .dialed tries) :
    At (s.note now (.answered (.write (connectBytes s.config)) (.written true))) .greeted
      tries := by
  obtain ⟨link, hlink, -, hbehind⟩ := h
  exact ⟨_, hlink.cons rfl, List.mem_cons_self, hbehind.cons (.of_kept rfl rfl)⟩

/-- The CONNACK has come, behind the CONNECT. -/
theorem accept {present : Bool} (h : At s .greeted tries) :
    At (s.note now (.applied (.connack present 0))) .accepted tries := by
  obtain ⟨link, hlink, hwritten, hbehind⟩ := h
  refine ⟨_, hlink.cons rfl, ⟨present, ?_⟩, hbehind.cons (.of_kept rfl rfl)⟩
  exact (List.singleton_sublist.mpr hwritten).cons_cons _

/-- The next id. It is a new one as long as the ids have not come round: a SUBSCRIBE on the link
that had it already would be a whole round of ids behind. -/
theorem renew (h : At s .accepted tries) (htries : tries < 32768) :
    At { s with subscribeId := Session.nextSubscribeId s.subscribeId } .ready (tries + 1) := by
  obtain ⟨link, hlink, haccepted, hbehind⟩ := h
  refine ⟨link, hlink, ⟨haccepted, ?_⟩, ?_⟩
  · -- A SUBSCRIBE on the link that had the next id already would be a whole round behind.
    intro hmem
    obtain ⟨n, hn, hround⟩ := hbehind _ hmem
    rw [← Function.iterate_succ_apply] at hround
    have hlong := le_of_iterate_nextSubscribeId n.succ_pos hround
    omega
  · intro other hmem
    obtain ⟨n, hn, hnext⟩ := hbehind other hmem
    refine ⟨n + 1, by omega, ?_⟩
    rw [Function.iterate_succ_apply', hnext]

/-- The SUBSCRIBE with the new id is given to the transport. It is the first on the link to have
that id. -/
theorem ask (h : At s .ready (tries + 1)) :
    At (s.note now (.asked (.write (subscribeBytes s.config s.subscribeId)))) .asked
      (tries + 1) := by
  obtain ⟨link, hlink, ⟨haccepted, hfresh⟩, hbehind⟩ := h
  refine ⟨_, hlink.cons rfl, ⟨[], link, rfl, haccepted, hfresh, by simp⟩, ?_⟩
  intro other hmem
  rcases List.mem_cons.mp hmem with hwhat | hold
  · have hsame : subscribeBytes s.config other = subscribeBytes s.config s.subscribeId :=
      Call.write.inj (Happening.asked.inj hwhat)
    exact ⟨0, tries.succ_pos, subscribeBytes_injective hsame⟩
  · exact hbehind other hold

/-- The SUBSCRIBE has been written. -/
theorem subscribe (h : At s .asked tries) :
    At (s.note now (.answered (.write (subscribeBytes s.config s.subscribeId)) (.written true)))
      .subscribed tries := by
  obtain ⟨link, hlink, ⟨later, hasked⟩, hbehind⟩ := h
  have hquiet : Quiet s.config (.answered (.write (subscribeBytes s.config s.subscribeId))
      (.written true)) := .of_kept rfl rfl
  exact ⟨_, hlink.cons rfl, ⟨_, hasked.cons hquiet, List.mem_cons_self⟩, hbehind.cons hquiet⟩

/-- A SUBACK with the id of the present attempt opens the session. -/
theorem grant {codes : List (Option QoS)} (h : At s .subscribed tries) (hcodes : none ∉ codes) :
    Opened s.config (s.note now (.applied (.suback s.subscribeId codes))).exchange.journal := by
  obtain ⟨link, hlink, ⟨later, hasked, hwritten⟩, -⟩ := h
  refine ⟨_, hlink.cons rfl, hasked.accepted.cons _, ?_⟩
  exact fun _ => ⟨s.subscribeId, codes, later, link, rfl, hcodes, hasked, hwritten⟩

/-- The new id is given up without an attempt. -/
theorem of_ready (h : At s .ready tries) : At s .accepted tries := by
  obtain ⟨link, hlink, ⟨haccepted, -⟩, hbehind⟩ := h
  exact ⟨link, hlink, haccepted, hbehind⟩

/-- An attempt that fails leaves the session accepted. -/
theorem of_subscribed (h : At s .subscribed tries) : At s .accepted tries := by
  obtain ⟨link, hlink, ⟨later, hasked, -⟩, hbehind⟩ := h
  exact ⟨link, hlink, hasked.accepted, hbehind⟩

/-- An attempt counts even where no SUBSCRIBE can be made. -/
theorem count (h : At s .accepted tries) : At s .accepted (tries + 1) := by
  obtain ⟨link, hlink, haccepted, hbehind⟩ := h
  refine ⟨link, hlink, haccepted, ?_⟩
  intro other hmem
  obtain ⟨n, hn, hnext⟩ := hbehind other hmem
  exact ⟨n, by omega, hnext⟩

end

end At

/-! ### The session -/

/-- Failures in a row. -/
def failed (s : Session) : Nat := s.connection.failures.toNat

/-- What a session that reads for this purpose has reached. -/
def Reached (s : Session) : Purpose → Prop
  | .connack => At s .greeted 0
  | .suback id => s.subscribeId = id ∧ At s .subscribed (failed s + 1)
  | .poll => True

/-- What a packet that was applied shows, on top of what was reached. -/
def Answered (s : Session) : Purpose → Received → Prop
  | .connack, .connack code => code = 0 → At s .accepted 0
  | .suback id, .suback confirmed refused =>
    confirmed = id → refused = false → Opened s.config s.exchange.journal
  | _, _ => True

/-- What a session that is about to write these bytes has reached. With `asked` the bytes have
been given to the transport already. -/
def Sends (s : Session) (bytes : List UInt8) (asked : Bool) : Errand → Prop
  | .connect => bytes = connectBytes s.config ∧ At s .dialed 0
  | .subscribe id => s.subscribeId = id ∧ bytes = subscribeBytes s.config id ∧
      At s (if asked then .asked else .ready) (failed s + 1)
  | .puback _ purpose _ => (∀ id, bytes ≠ subscribeBytes s.config id) ∧ Reached s purpose
  | _ => True

/-- What a session that waits, or is between two actions, has reached. -/
def ProgressWaiting (s : Session) : Prop :=
  match s.phase with
  | .idle .subscribe => At s .accepted (failed s)
  | .writing bytes errand => Sends s bytes true errand
  | .reading purpose _ => Reached s purpose
  | _ => True

/-- What a session has reached at a point. -/
def Progress (s : Session) : Point → Prop
  | .waiting => ProgressWaiting s
  | .running .subscribe => At s .accepted (failed s)
  | .sending packet errand otherwise => Sends s packet.encode false errand ∧ Progress s otherwise
  | .scanning purpose _ => Reached s purpose
  | .judging purpose _ received => Reached s purpose ∧ Answered s purpose received
  | .givingUp (.suback _) => At s .accepted (failed s + 1)
  | .ending .brokerConnected => At s .accepted 0
  | .ending .subscribed => Opened s.config s.exchange.journal
  | .ending .subscribeFailed => At s .accepted (failed s + 1)
  | _ => True

section
variable {now : Micros} {p q : Point} {s t : Session}

/-- What was reached stays reached where every stage does. -/
theorem Reached.imp {purpose : Purpose} (h : Reached s purpose)
    (hid : t.subscribeId = s.subscribeId) (hfailed : failed t = failed s)
    (hat : ∀ {stage tries}, At s stage tries → At t stage tries) : Reached t purpose := by
  cases purpose with
  | connack => exact hat h
  | suback id => exact ⟨hid.trans h.1, by rw [hfailed]; exact hat h.2⟩
  | poll => trivial

/-- Something quiet happens while the session reads. -/
theorem Reached.note {purpose : Purpose} {what : Happening} (h : Reached s purpose)
    (hquiet : Quiet s.config what) : Reached (s.note now what) purpose :=
  h.imp rfl rfl fun hat => hat.note hquiet

/-- What is known while bytes are written. -/
theorem ProgressWaiting.writing {bytes : List UInt8} {errand : Errand} (h : ProgressWaiting s)
    (hphase : s.phase = .writing bytes errand) : Sends s bytes true errand := by
  rw [ProgressWaiting, hphase] at h
  exact h

/-- What is known while the session reads. -/
theorem ProgressWaiting.reading {purpose : Purpose} {timer : Timer} (h : ProgressWaiting s)
    (hphase : s.phase = .reading purpose timer) : Reached s purpose := by
  rw [ProgressWaiting, hphase] at h
  exact h

/-- Before an action starts, something has to be known only if it is the subscription. -/
theorem progress_idle {action : Action} (hphase : s.phase = .idle action)
    (h : action = .subscribe → At s .accepted (failed s)) : ProgressWaiting s := by
  rw [ProgressWaiting, hphase]
  cases action with
  | subscribe => exact h rfl
  | _ => trivial

/-- Whoever waits for a SUBACK in vain is still accepted. -/
theorem Reached.givingUp {purpose : Purpose} (h : Reached s purpose) :
    Progress s (.givingUp purpose) := by
  cases purpose with
  | suback id => exact h.2.of_subscribed
  | _ => trivial

/-- The bytes go to the transport. For a SUBSCRIBE this is the step from `ready` to `asked`. A
CONNECT and an acknowledgement are quiet, since they are no SUBSCRIBE. -/
theorem Sends.asked {bytes : List UInt8} {errand : Errand} (h : Sends s bytes false errand) :
    Sends (s.await now (.writing bytes errand)) bytes true errand := by
  cases errand with
  | connect =>
    obtain ⟨rfl, hat⟩ := h
    refine ⟨rfl, hat.note ⟨rfl, fun id hwhat => ?_⟩⟩
    exact ne_subscribeBytes s.config (by simp [Encoding.header]) id
      (Call.write.inj (Happening.asked.inj hwhat))
  | subscribe id =>
    obtain ⟨rfl, rfl, hat⟩ := h
    exact ⟨rfl, rfl, hat.ask⟩
  | puback id purpose due =>
    -- An acknowledgement comes in between and is no attempt.
    obtain ⟨hother, hreached⟩ := h
    refine ⟨hother, hreached.note ⟨rfl, fun id hwhat => ?_⟩⟩
    exact hother id (Call.write.inj (Happening.asked.inj hwhat))
  | _ => trivial

/-- The first wait ends well with a CONNACK of code 0 only. -/
theorem connack_of_granted {received : Received}
    (h : Session.verdict .connack received = .granted) : received = .connack 0 := by
  cases received with
  | connack code =>
    rw [Session.verdict] at h
    split at h
    · rename_i hcode
      rw [hcode]
    · cases h
  | _ => cases h

/-- The second one ends well only with a SUBACK that has the id and refuses no topic. -/
theorem suback_of_granted {id : UInt16} {received : Received}
    (h : Session.verdict (.suback id) received = .granted) : received = .suback id false := by
  cases received with
  | suback confirmed refused =>
    rw [Session.verdict] at h
    split at h
    · cases h
    · rename_i hid
      cases refused with
      | true => cases h
      | false => rw [Decidable.not_not.mp hid]
  | _ => cases h

/-- The action on entry tells the state if it is the subscription. -/
theorem state_of_entryAction {policy : Policy} {state : ConnectionState}
    (h : state.entryAction policy = .subscribe) : state = .subscribe := by
  cases state with
  | subscribe => rfl
  | _ => cases h

/-- A packet that is applied leaves alone what was reached. If it is the answer that is waited
for, it shows more: after a CONNACK with code 0 the session is accepted, and after the SUBACK it
is open. -/
theorem progress_judging {bytes : List UInt8} {received : Received} {exchange : Exchange}
    {purpose : Purpose} {timer : Timer}
    (hpacket : (noteFramed s now bytes).interpret now bytes = .ok (received, exchange))
    (h : Reached s purpose) (inbound : PacketReader) (inFlight : Option UInt16) :
    Progress { s with inbound, exchange, inFlight } (.judging purpose timer received) := by
  obtain ⟨packet, applied, -, happly, rfl⟩ := interpret_ok hpacket
  obtain ⟨lastAlive, inbox, dropped, rfl⟩ := apply_eq happly
  have hframed : Reached (s.note now (.framed bytes)) purpose := h.note (.of_kept rfl rfl)
  have happlied : Reached ((s.note now (.framed bytes)).note now (.applied packet)) purpose :=
    hframed.note (.of_kept rfl rfl)
  -- Both entries are quiet, so what was reached stays. Only the answer that is waited for shows
  -- more.
  refine ⟨happlied.imp rfl rfl id, ?_⟩
  cases purpose with
  | connack =>
    cases received with
    | connack code =>
      obtain ⟨present, rfl⟩ := connack_of_apply happly
      rintro rfl
      exact At.accept hframed
    | _ => trivial
  | suback id =>
    cases received with
    | suback confirmed refused =>
      obtain ⟨codes, rfl, hcodes⟩ := suback_of_apply happly
      rintro rfl rfl
      obtain ⟨rfl, hat⟩ := hframed
      exact hat.grant fun hnone => List.any_eq_false.mp hcodes none hnone rfl
    | _ => trivial
  | poll => trivial

/-- As long as the machine stays with the subscription, a failure is one more. -/
theorem countUp_toNat {limit failures : UInt8} (h : ¬ limit ≤ countUp failures) :
    (countUp failures).toNat = failures.toNat + 1 := by
  refine toNat_countUp_of_ne ?_
  rintro rfl
  exact h (UInt8.le_iff_toNat_le.mpr (Nat.le_of_lt_succ limit.toNat_lt))

/-- The end of an action. A subscription comes next after a CONNACK, or after an attempt that was
not the last one. -/
theorem progress_finish {w : Wire} {event : Event} (hexpected : Expected w s.state event)
    (h : Progress s (.ending event)) : ProgressWaiting (s.finish now event) := by
  obtain ⟨config, ⟨policy, state, previous, failures⟩, inbound, broker, nextPing, subscribeId,
    inFlight, phase, exchange⟩ := s
  have hquiet : Quiet config (.ended event) := .of_kept rfl rfl
  cases state <;> cases event <;> first
    | exact hexpected.elim
    | trivial
    | skip
  -- The CONNACK.
  · exact At.note h hquiet
  -- A failure to connect, which counts and is followed by a rest.
  · have hrest : (transition policy .connectBroker failures .connectFailed).action =
        .retry policy.connectRetry := by
      rw [transition]
      split <;> rfl
    refine progress_idle (congrArg Phase.idle hrest) ?_
    rintro ⟨⟩
  -- A failure to subscribe, which counts too.
  · by_cases hlimit : policy.maxFailures ≤ countUp failures
    · have hlast : (transition policy .subscribe failures .subscribeFailed).action = .teardown := by
        rw [transition, if_pos hlimit]
      refine progress_idle (congrArg Phase.idle hlast) ?_
      rintro ⟨⟩
    · have hagain : transition policy .subscribe failures .subscribeFailed =
          ⟨.subscribe, countUp failures, .subscribe⟩ := by
        rw [transition, if_neg hlimit]
      refine progress_idle rfl fun _ => ?_
      have hcount : failed (Session.finish ⟨config, ⟨policy, .subscribe, previous, failures⟩,
          inbound, broker, nextPing, subscribeId, inFlight, phase, exchange⟩ now
            .subscribeFailed) = failures.toNat + 1 := by
        show (transition policy .subscribe failures .subscribeFailed).failures.toNat = _
        rw [hagain, countUp_toNat hlimit]
      rw [hcount]
      exact At.note h hquiet

/-- Every move builds on what the link has shown. The cases are the constructors of `Move`, in the
order in which a session is opened; where the machine is known from the outcome of an action,
`Controlled` says which state it is in. -/
theorem Move.progress (move : Move now p s q t) (hcontrolled : Controlled p s)
    (h : Progress s p) : Progress t q := by
  obtain ⟨-, hstands⟩ := hcontrolled
  cases move with
  | @begin _ action hphase =>
    cases action with
    | subscribe =>
      have hat : At s .accepted (failed s) := by
        rw [Progress, ProgressWaiting, hphase] at h
        exact h
      exact hat.note (.of_kept rfl rfl)
    | _ => trivial
  -- The second action.
  | subscribeNothing htopics =>
    obtain ⟨link, hlink, haccepted, -⟩ := h
    exact ⟨link, hlink, haccepted, fun hsome => absurd htopics hsome⟩
  | subscribeUnfit htopics hfit => exact At.count h
  | subscribeSend htopics hfit =>
    have hfew : failed s < 32768 :=
      Nat.lt_trans (UInt8.toNat_lt s.connection.failures) (by decide)
    have hready := At.renew h hfew
    exact ⟨⟨rfl, rfl, hready⟩, hready.of_ready⟩
  | writtenSubscribe hphase =>
    obtain ⟨rfl, rfl, hat⟩ := ProgressWaiting.writing h hphase
    exact ⟨rfl, hat.subscribe⟩
  | grantSuback hreply hverdict =>
    obtain rfl := suback_of_granted hverdict
    exact h.2 rfl rfl
  | giveUpSuback => exact h
  -- The first action.
  | dialed hphase => exact ⟨⟨rfl, At.dialed⟩, trivial⟩
  | writtenConnect hphase =>
    obtain ⟨rfl, hat⟩ := ProgressWaiting.writing h hphase
    exact hat.greet
  | grantConnack hreply hverdict =>
    obtain rfl := connack_of_granted hverdict
    exact h.2 rfl
  -- Packets in between.
  | writtenPuback hphase hpurpose =>
    obtain ⟨-, hreached⟩ := ProgressWaiting.writing h hphase
    exact hreached.note (.of_kept rfl rfl)
  | @received _ purpose timer bytes hphase hbytes =>
    have hfine : cuts (.answered (.read s.inbound.spare) (.received (some bytes))) = false := by
      cases bytes with
      | nil => exact absurd rfl hbytes
      | cons byte bytes => rfl
    exact Reached.note (ProgressWaiting.reading h hphase) (.of_kept hfine rfl)
  | hungry hframe => exact Reached.note h (.of_kept rfl rfl)
  | skip hframe hpacket hfault => exact (Reached.note h (.of_kept rfl rfl)).note (.of_kept rfl rfl)
  | apply hframe hpacket => exact progress_judging hpacket h _ _
  | acknowledge hreply => exact ⟨⟨ne_subscribeBytes _ (by simp [Encoding.header]), h.1⟩, trivial⟩
  | pass hreply hverdict => exact h.1
  | refuse hreply hverdict => exact h.1.givingUp
  | expired hphase hdue =>
    have hreached := ProgressWaiting.reading h hphase
    exact (hreached.note (.of_kept rfl rfl)).givingUp
  -- Ends.
  | send hencodes =>
    obtain rfl := encodeWithin_eq hencodes
    exact h.1.asked
  | sendNot hnone => exact h.2
  | closedDown hphase =>
    rw [Stands, StandsWaiting, hphase] at hstands
    refine progress_idle rfl fun hnext => ?_
    have hsubscribe : s.state = .subscribe := state_of_entryAction hnext
    cases hsubscribe.symm.trans hstands.2
  | restedRetry hphase hdue =>
    rw [Stands, StandsWaiting, hphase] at hstands
    refine progress_idle rfl fun hnext => ?_
    have hsubscribe : s.state = .subscribe := state_of_entryAction hnext
    rcases hstands.2 with hstate | hstate
    · cases hsubscribe.symm.trans hstate
    · cases hsubscribe.symm.trans hstate
  | finish => exact progress_finish hstands h
  -- Nothing has to be shown at the other points.
  | _ => trivial

/-- No move changes what the session was configured with. -/
theorem Move.config (move : Move now p s q t) : t.config = s.config := by
  cases move <;> rfl

/-- A session that starts has reached nothing, and nothing is asked of it. -/
theorem progress_start (config : SessionConfig) (now : Micros) :
    Progress ((Session.new config {}).start now) .waiting := trivial

/-- What the others do leaves what is about to be written as it is. -/
theorem Sends.aside {exchange : Exchange} {bytes : List UInt8} {errand : Errand} {asked : Bool}
    (haside : Aside s.exchange exchange) (h : Sends s bytes asked errand) :
    Sends { s with exchange } bytes asked errand := by
  cases errand with
  | connect => exact ⟨h.1, h.2.aside haside⟩
  | subscribe id => exact ⟨h.1, h.2.1, h.2.2.aside haside⟩
  | puback id purpose due => exact ⟨h.1, h.2.imp rfl rfl (At.aside haside)⟩
  | _ => trivial

/-- What the others do leaves what the session has reached while it waits. -/
theorem Progress.aside {exchange : Exchange} (haside : Aside s.exchange exchange)
    (h : Progress s .waiting) : Progress { s with exchange } .waiting := by
  rw [Progress, ProgressWaiting] at h ⊢
  cases hphase : s.phase with
  | idle action =>
    rw [hphase] at h
    cases action with
    | subscribe => exact At.aside haside h
    | _ => trivial
  | writing bytes errand =>
    rw [hphase] at h
    exact Sends.aside haside h
  | reading purpose timer =>
    rw [hphase] at h
    exact Reached.imp h rfl rfl (At.aside haside)
  | _ => trivial

/-- A session that gives way once more has not moved. -/
theorem Progress.yield (h : Progress s .waiting) : Progress s.yield .waiting := by
  rw [Session.yield]
  split
  · rename_i purpose timer hphase
    exact (ProgressWaiting.reading h hphase).imp rfl rfl id
  · trivial
  · exact h

/-! ### Entering the last state -/

/-- Of all events that the wire can be at, only the end of a subscription leads the machine to its
last state. -/
theorem subscribed_of_handle {w : Wire} {c : Connection} {event : Event}
    (hexpected : Expected w c.state event) (hbefore : c.state ≠ .connected)
    (hafter : (c.handle event).2.state = .connected) : event = .subscribed := by
  obtain ⟨policy, state, previous, failures⟩ := c
  cases state <;> cases event <;> first
    | rfl
    | exact hexpected.elim
    | exact absurd rfl hbefore
    | cases hafter
    | skip
  -- A failure that counts leads on or back.
  · change (transition policy .connectBroker failures .connectFailed).state = .connected at hafter
    rw [transition] at hafter
    split at hafter <;> cases hafter
  · change (transition policy .subscribe failures .subscribeFailed).state = .connected at hafter
    rw [transition] at hafter
    split at hafter <;> cases hafter

/-- The machine comes to its last state with the end of a subscription, and in no other way. -/
theorem Move.enters (move : Move now p s q t) (hcontrolled : Controlled p s)
    (hbefore : s.state ≠ .connected) (hafter : t.state = .connected) :
    p = .ending .subscribed ∧
      t.exchange.journal = ⟨now, .ended .subscribed⟩ :: s.exchange.journal := by
  obtain ⟨-, hstands⟩ := hcontrolled
  cases move with
  | finish =>
    obtain rfl := subscribed_of_handle hstands hbefore hafter
    exact ⟨rfl, rfl⟩
  | _ => exact absurd hafter hbefore

/-- On the way there the subscription ended at a moment with a fully opened session behind it. -/
theorem Path.enters (path : Path now p s q t) (hcontrolled : Controlled p s)
    (hprogress : Progress s p) (hbefore : s.state ≠ .connected) (hafter : t.state = .connected) :
    ∃ later past, t.exchange.journal = later ++ ⟨now, .ended .subscribed⟩ :: past ∧
      s.exchange.journal <:+ past ∧ Opened s.config past := by
  induction path with
  | refl => exact absurd hafter hbefore
  | @step p q r s t u head tail ih =>
    by_cases hhalfway : t.state = .connected
    · obtain ⟨rfl, hjournal⟩ := head.enters hcontrolled hbefore hhalfway
      obtain ⟨later, hlater, -⟩ := tail.hears
      refine ⟨later, s.exchange.journal, ?_, List.suffix_refl _, hprogress⟩
      rw [hlater, hjournal]
    · obtain ⟨noted, hnoted, -⟩ := head.hears
      obtain ⟨later, past, hjournal, hpast, hopened⟩ :=
        ih (head.controlled hcontrolled) (head.progress hcontrolled hprogress) hhalfway hafter
      rw [head.config] at hopened
      refine ⟨later, past, hjournal, List.IsSuffix.trans ⟨noted, hnoted.symm⟩ hpast, hopened⟩

end

/-! ### Every run -/

/-- In every run the session has reached what it needs for the place at which it waits. -/
theorem progress_run (config : SessionConfig) (ackTimeout now : Micros) (turns : List Turn) :
    let s := ((System.boot config ackTimeout now).run turns).session
    (Controlled .waiting s ∧ Progress s .waiting) ∧ s.config = config :=
  System.invariant (P := fun p s => (Controlled p s ∧ Progress s p) ∧ s.config = config)
    ⟨⟨controlled_start config now, progress_start config now⟩, rfl⟩
    (fun move h => ⟨⟨move.controlled h.1.1, move.progress h.1.1 h.1.2⟩, move.config.trans h.2⟩)
    (fun haside h => ⟨⟨h.1.1.aside haside, h.1.2.aside haside⟩, h.2⟩)
    (fun h => ⟨⟨h.1.1.yield, h.1.2.yield⟩, (yield_frame _).1.trans h.2⟩) turns

/-- In every run, wherever a turn leads the machine into its last state, the subscription ended
in that turn with this behind it: on the present link, which has neither been closed nor failed
since it was dialed, CONNECT was written and after that a CONNACK with code 0 was applied; and if
there are topics, after that a SUBSCRIBE with all of them was written and after that a SUBACK with
its id and without a refusal was applied, as the last thing that happened. No other SUBSCRIBE on
the link has that id, and none came later, so an answer to an earlier attempt opens nothing. -/
theorem opened_before_connected (config : SessionConfig) (ackTimeout now : Micros)
    (turns : List Turn) (turn : Turn)
    (hbefore : ((System.boot config ackTimeout now).run turns).session.state ≠ .connected)
    (hafter : (((System.boot config ackTimeout now).run turns).step turn).session.state =
      .connected) :
    let s := (System.boot config ackTimeout now).run turns
    ∃ later time past, (s.step turn).journal = later ++ ⟨time, .ended .subscribed⟩ :: past ∧
      s.journal <:+ past ∧ Opened config past := by
  intro s
  obtain ⟨⟨hcontrolled, hprogress⟩, hconfig⟩ := progress_run config ackTimeout now turns
  rcases s.step_cases turn with path | ⟨exchange, -, hsame⟩ | hyield
  · obtain ⟨later, past, hjournal, hpast, hopened⟩ :=
      path.enters hcontrolled hprogress hbefore hafter
    rw [hconfig] at hopened
    exact ⟨later, s.now, past, hjournal, hpast, hopened⟩
  -- The other tasks do not move the machine, and neither does a timer that may run out.
  · rw [hsame] at hafter
    exact absurd hafter hbefore
  · rw [hyield, (yield_frame s.session).2] at hafter
    exact absurd hafter hbefore

/-- A broker with a dotted address, and one topic. -/
def topicConfig : SessionConfig := { plainConfig with topics := ["a"] }

/-- The SUBACK of another id opens nothing, the one that answers the SUBSCRIBE does. -/
theorem opened_before_connected_topic :
    let before := [.begin, .begin, .reply (.dialed true), .reply (.written true),
      .reply (.received (some [0x20, 2, 0, 0])), .begin, .reply (.written true),
      .reply (.received (some [0x90, 3, 0x80, 2, 0]))]
    let s := (System.boot topicConfig (seconds 4) 0).run before
    let turn := .reply (.received (some [0x90, 3, 0x80, 1, 0]))
    s.session.state ≠ .connected ∧ (s.step turn).session.state = .connected ∧
      ∃ later time past, (s.step turn).journal = later ++ ⟨time, .ended .subscribed⟩ :: past ∧
        s.journal <:+ past ∧ Opened topicConfig past := by
  intro before s turn
  have hbefore : s.session.state ≠ .connected := by decide +kernel
  have hafter : (s.step turn).session.state = .connected := by decide +kernel
  exact ⟨hbefore, hafter,
    opened_before_connected topicConfig (seconds 4) 0 before turn hbefore hafter⟩

end WeatherStation.Proofs.Mqtt
