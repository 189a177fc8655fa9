import WeatherStation.Proofs.Mqtt.Interpret
import WeatherStation.Proofs.Mqtt.System

/-!
# `WeatherStation.Proofs.Mqtt.Mailbox`: every message that came in is accounted for

The session puts the messages of an open session into an inbox of bounded length, and the
dispatching task takes them out at any time. `Ledger` keeps the books of this from the journal
alone: whether a session is open, which messages had a place in the inbox, which of them were
handed on, and how many had none. A message has a place if its topic and its payload are short
enough and the inbox is not full, that is, if fewer than `inboxCapacity` of the messages kept were
not handed on yet.

`Gated` and `Stocked` say that the shared state is what the ledger says, at each point inside an
action. The flag of the open session parts from the ledger in the same places where it parts from
the connection machine, and no packet is applied there. `inbox_accounted` is the account of a
whole run: `kept = handed ++ inbox`, which leaves no message out, takes none twice and changes
no order.
-/

set_option autoImplicit false

namespace WeatherStation.Proofs.Mqtt

open WeatherStation.Mqtt

/-- A message without its bounds. -/
def content (m : Message) : String × List UInt8 := (m.topic, m.payload)

/-- What the journal says about the messages that came in, oldest first. -/
structure Ledger where
  /-- Whether a session is open. -/
  isOpen : Bool := false
  /-- Messages that had a place in the inbox. -/
  kept : List (String × List UInt8) := []
  /-- Messages that the dispatching task has taken. -/
  handed : List (String × List UInt8) := []
  /-- How many messages of an open session had no place. -/
  dropped : Nat := 0

namespace Ledger

/-- Whether a message has a place in the inbox. -/
def HasPlace (l : Ledger) (m : Publish) : Prop :=
  m.topic.utf8ByteSize ≤ 128 ∧ m.payload.length ≤ 256 ∧
    l.kept.length < l.handed.length + inboxCapacity

instance (l : Ledger) (m : Publish) : Decidable (l.HasPlace m) := by
  unfold HasPlace
  infer_instance

/-- A message came in. -/
def publish (l : Ledger) (m : Publish) : Ledger :=
  if l.isOpen then
    if l.HasPlace m then { l with kept := l.kept ++ [(m.topic, m.payload)] }
    else { l with dropped := l.dropped + 1 }
  else l

/-- Without an open session a message is not looked at. -/
theorem publish_closed {l : Ledger} (h : l.isOpen = false) (m : Publish) : l.publish m = l := by
  simp [publish, h]

/-- A message with a place is kept behind the others. -/
theorem publish_kept {l : Ledger} {m : Publish} (h : l.isOpen = true) (hplace : l.HasPlace m) :
    l.publish m = { l with kept := l.kept ++ [(m.topic, m.payload)] } := by
  rw [publish, if_pos h, if_pos hplace]

/-- One without a place is counted and nothing else. -/
theorem publish_dropped {l : Ledger} {m : Publish} (h : l.isOpen = true)
    (hplace : ¬l.HasPlace m) : l.publish m = { l with dropped := l.dropped + 1 } := by
  rw [publish, if_pos h, if_neg hplace]

/-- The ledger after one more happening. -/
def after (l : Ledger) : Happening → Ledger
  | .ended .subscribed => { l with isOpen := true }
  | .began .connect => { l with isOpen := false }
  | .began .teardown => { l with isOpen := false }
  | .began (.backoff _) => { l with isOpen := false }
  | .applied (.publish m) => l.publish m
  | .dispatched m => { l with handed := l.handed ++ [content m] }
  | _ => l

/-- Whether a happening concerns the messages. -/
def isBooked : Happening → Bool
  | .applied (.publish _) => true
  | .dispatched _ => true
  | _ => false

/-- What is not booked says at most whether a session is open. -/
theorem after_unbooked (l : Ledger) {what : Happening} (h : isBooked what = false) :
    ∃ isOpen, l.after what = { l with isOpen } := by
  cases what with
  | began action => cases action <;> exact ⟨_, rfl⟩
  | ended event => cases event <;> exact ⟨_, rfl⟩
  | applied packet => cases packet <;> first | exact ⟨_, rfl⟩ | cases h
  | dispatched message => cases h
  | _ => exact ⟨_, rfl⟩

/-- Only messages that were kept are handed on, in their order, and no more than the inbox holds
are left. -/
def Balances (l : Ledger) : Prop :=
  l.handed <+: l.kept ∧ l.kept.length ≤ l.handed.length + inboxCapacity

/-- What a message changes in the books `l`. Without an open session it changes nothing. Otherwise
it is kept as it came or it is counted, and it is counted exactly when it is too long or the
inbox is full. -/
def Enters (m : Publish) (l l' : Ledger) : Prop :=
  (l.isOpen = false → l' = l) ∧
    (l.isOpen = true →
      (l' = { l with kept := l.kept ++ [(m.topic, m.payload)] } ∨
        l' = { l with dropped := l.dropped + 1 }) ∧
      (l' = { l with dropped := l.dropped + 1 } ↔
        128 < m.topic.utf8ByteSize ∨ 256 < m.payload.length ∨
          l.kept.length = l.handed.length + inboxCapacity))

/-- In each of the three cases the ledger says what the inbox does. -/
theorem enters_publish {l : Ledger} (h : l.Balances) (m : Publish) : Enters m l (l.publish m) := by
  obtain ⟨-, hroom⟩ := h
  refine ⟨fun hclosed => publish_closed hclosed m, fun hopen => ?_⟩
  by_cases hplace : l.HasPlace m
  · obtain ⟨htopic, hpayload, hleft⟩ := id hplace
    rw [publish_kept hopen hplace]
    refine ⟨.inl rfl, fun hcounted => ?_, fun hreason => by omega⟩
    -- A message that is kept is not counted.
    exact absurd (congrArg Ledger.dropped hcounted) (Nat.succ_ne_self l.dropped).symm
  · rw [publish_dropped hopen hplace]
    rw [HasPlace] at hplace
    exact ⟨.inr rfl, fun _ => by omega, fun _ => rfl⟩

end Ledger

/-- The ledger at the end of a journal. -/
def ledger : List Entry → Ledger
  | [] => {}
  | e :: past => (ledger past).after e.what

/-- The ledger balances at every moment of a journal. -/
def Audited (past : List Entry) : Prop := Always (fun moment => (ledger moment).Balances) past

/-! ### The flag -/

/-- What the flag of the open session holds at a point. -/
def Gated (s : Session) : Point → Prop
  | .running .connect => (ledger s.exchange.journal).isOpen = false
  | .running .teardown => (ledger s.exchange.journal).isOpen = false
  | .running (.backoff _) => (ledger s.exchange.journal).isOpen = false
  | .ending .subscribed => s.exchange.connected = true
  | .sending _ _ otherwise =>
    s.exchange.connected = (ledger s.exchange.journal).isOpen ∧ Gated s otherwise
  | _ => s.exchange.connected = (ledger s.exchange.journal).isOpen

section
variable {now : Micros} {p q : Point} {s t : Session} {x y : Exchange}

/-- A message opens and closes no session. -/
theorem isOpen_publish (l : Ledger) (m : Publish) : (l.publish m).isOpen = l.isOpen := by
  rw [Ledger.publish]
  split
  · split <;> rfl
  · rfl

/-- No packet opens a session or closes one. -/
theorem isOpen_applied (l : Ledger) (packet : Packet) :
    (l.after (.applied packet)).isOpen = l.isOpen := by
  cases packet with
  | publish m => exact isOpen_publish l m
  | _ => rfl

/-- Every move keeps it. -/
theorem Move.gated (move : Move now p s q t) (h : Gated s p) : Gated t q := by
  cases move with
  | @begin _ action hphase =>
    cases action with
    | connect => rfl
    | teardown => rfl
    | backoff delay => rfl
    | _ => exact h
  | connectNowhere hnone => exact h.symm
  | connectDial hremote => exact h.symm
  | teardown => exact h.symm
  | backoff => exact h.symm
  -- The flag goes up before the end of the action is noted.
  | subscribeNothing htopics => rfl
  | grantSuback hreply hverdict => rfl
  | apply hframe hpacket =>
    obtain ⟨packet, hjournal, -⟩ := interpret_eq hpacket
    have hflag := (interpret_frame hpacket).1
    show _ = (ledger _).isOpen
    rw [hjournal, hflag]
    exact h.trans (isOpen_applied _ packet).symm
  | send hfits => exact h.1
  | sendNot hnone => exact h.2
  | @finish _ event => cases event <;> exact h
  | _ => first
    | exact h
    | exact ⟨h, h⟩

/-- The other tasks leave the flag alone, and note nothing that opens a session or closes it. -/
theorem Beside.gated (hbeside : Beside now x y) (h : x.connected = (ledger x.journal).isOpen) :
    y.connected = (ledger y.journal).isOpen := by
  induction hbeside with
  | refl => exact h
  | forget _ ih => exact ih
  | request slot _ ih => exact ih
  | @note y what hwhat _ ih => cases what <;> first | exact ih | cases hwhat
  | notify _ ih => exact ih
  | dispatch hnext _ ih =>
    obtain ⟨rest, -, rfl⟩ := nextMessage_eq_some.mp hnext
    exact ih

/-! ### The inbox and the count -/

/-- The inbox and the count are what the ledger says. -/
structure Stocked (x : Exchange) : Prop where
  kept : (ledger x.journal).kept = (ledger x.journal).handed ++ x.inbox.map content
  room : x.inbox.length ≤ inboxCapacity
  counted : x.dropped = UInt32.ofNat (ledger x.journal).dropped
  audited : Audited x.journal

/-- With one more entry the ledger balances, since the inbox holds what is left. -/
theorem Stocked.of_cons {e : Entry} {past : List Entry} (haudited : Audited past)
    (hjournal : x.journal = e :: past)
    (hkept : (ledger (e :: past)).kept = (ledger (e :: past)).handed ++ x.inbox.map content)
    (hroom : x.inbox.length ≤ inboxCapacity)
    (hcounted : x.dropped = UInt32.ofNat (ledger (e :: past)).dropped) : Stocked x := by
  have hbalances : (ledger (e :: past)).Balances := by
    refine ⟨⟨x.inbox.map content, hkept.symm⟩, ?_⟩
    rw [hkept, List.length_append, List.length_map]
    exact Nat.add_le_add_left hroom _
  rw [← hjournal] at hkept hcounted
  exact ⟨hkept, hroom, hcounted, by rw [hjournal]; exact ⟨hbalances, haudited⟩⟩

/-- Nothing but the journal, the inbox and the count concerns the books. -/
theorem Stocked.of_eq (h : Stocked x) (hjournal : y.journal = x.journal)
    (hinbox : y.inbox = x.inbox) (hdropped : y.dropped = x.dropped) : Stocked y := by
  constructor
  · rw [hjournal, hinbox]
    exact h.kept
  · rw [hinbox]
    exact h.room
  · rw [hjournal, hdropped]
    exact h.counted
  · rw [hjournal]
    exact h.audited

/-- Most happenings do not either. -/
theorem Stocked.noted {e : Entry} (h : Stocked x) (hjournal : y.journal = e :: x.journal)
    (hinbox : y.inbox = x.inbox) (hdropped : y.dropped = x.dropped)
    (hquiet : Ledger.isBooked e.what = false) : Stocked y := by
  obtain ⟨isOpen, hafter⟩ := (ledger x.journal).after_unbooked hquiet
  have hledger : ledger (e :: x.journal) = { ledger x.journal with isOpen } := hafter
  refine .of_cons h.audited hjournal ?_ (by rw [hinbox]; exact h.room) ?_
  · rw [hledger, hinbox]
    exact h.kept
  · rw [hledger, hdropped]
    exact h.counted

/-- What is left after the messages that were handed on is in the inbox. -/
theorem Stocked.length_kept (h : Stocked x) :
    (ledger x.journal).kept.length = (ledger x.journal).handed.length + x.inbox.length := by
  rw [h.kept, List.length_append, List.length_map]

/-- The code looks at the flag first, too. -/
theorem deliver_closed (h : x.connected = false) (topic : String) (payload : List UInt8) :
    x.deliver topic payload = x := by simp [Exchange.deliver, h]

/-- The inbox takes a message that the ledger has a place for. -/
theorem Stocked.deliver_kept {m : Publish} (h : Stocked x) (hopen : x.connected = true)
    (hplace : (ledger x.journal).HasPlace m) :
    ∃ message, content message = (m.topic, m.payload) ∧ x.inbox.length < inboxCapacity ∧
      x.deliver m.topic m.payload = { x with inbox := x.inbox ++ [message] } := by
  obtain ⟨htopic, hpayload, hleft⟩ := hplace
  rw [h.length_kept] at hleft
  have hroom : x.inbox.length < inboxCapacity := by omega
  have hnew : Message.new? m.topic m.payload = some ⟨m.topic, m.payload, htopic, hpayload⟩ :=
    dif_pos ⟨htopic, hpayload⟩
  exact ⟨⟨m.topic, m.payload, htopic, hpayload⟩, rfl, hroom, by
    simp [Exchange.deliver, hopen, hnew, hroom]⟩

/-- The inbox takes no message without a place, and counts it. -/
theorem Stocked.deliver_dropped {m : Publish} (h : Stocked x) (hopen : x.connected = true)
    (hplace : ¬(ledger x.journal).HasPlace m) :
    x.deliver m.topic m.payload = x.countDropped := by
  rw [Ledger.HasPlace, h.length_kept] at hplace
  by_cases hfits : m.topic.utf8ByteSize ≤ 128 ∧ m.payload.length ≤ 256
  · have hnew : Message.new? m.topic m.payload = some ⟨m.topic, m.payload, hfits.1, hfits.2⟩ :=
      dif_pos hfits
    have hfull : ¬x.inbox.length < inboxCapacity := by omega
    simp [Exchange.deliver, hopen, hnew, hfull]
  · have hnew : Message.new? m.topic m.payload = none := dif_neg hfits
    simp [Exchange.deliver, hopen, hnew]

/-- A message that comes in is entered in the books. -/
theorem Stocked.publish (h : Stocked x) (hgate : x.connected = (ledger x.journal).isOpen)
    (m : Publish) :
    Stocked ((x.deliver m.topic m.payload).note now (.applied (.publish m))) := by
  cases hopen : x.connected with
  | false =>
    rw [deliver_closed hopen]
    have hledger : ledger (⟨now, .applied (.publish m)⟩ :: x.journal) = ledger x.journal :=
      Ledger.publish_closed (hgate.symm.trans hopen) m
    refine .of_cons h.audited rfl ?_ h.room ?_
    · rw [hledger]
      exact h.kept
    · rw [hledger]
      exact h.counted
  | true =>
    have hledger : ledger (⟨now, .applied (.publish m)⟩ :: x.journal) =
        (ledger x.journal).publish m := rfl
    -- Ledger and inbox ask for the same place, so they go the same way.
    by_cases hplace : (ledger x.journal).HasPlace m
    · obtain ⟨message, hcontent, hroom, hdeliver⟩ := h.deliver_kept hopen hplace
      rw [Ledger.publish_kept (hgate.symm.trans hopen) hplace] at hledger
      rw [hdeliver]
      refine .of_cons h.audited rfl ?_ ?_ ?_
      · rw [hledger]
        simp [Exchange.note, hcontent, h.kept]
      · simpa [Exchange.note] using Nat.succ_le_of_lt hroom
      · rw [hledger]
        exact h.counted
    · rw [Ledger.publish_dropped (hgate.symm.trans hopen) hplace] at hledger
      rw [h.deliver_dropped hopen hplace]
      refine .of_cons h.audited rfl ?_ h.room ?_
      · rw [hledger]
        exact h.kept
      · rw [hledger, UInt32.ofNat_add, ← h.counted]
        rfl

/-- Any other packet leaves the inbox and the count alone. -/
theorem Stocked.apply {packet : Packet} {received : Received} (h : Stocked x)
    (hgate : x.connected = (ledger x.journal).isOpen)
    (happly : x.apply now packet = some (received, y)) :
    Stocked (y.note now (.applied packet)) := by
  cases absorbs_of_apply happly with
  | publish m => exact h.publish hgate m
  | _ => exact h.noted rfl rfl rfl rfl

/-- Every move keeps it. The flag matters only where a packet is applied. -/
theorem Move.stocked (move : Move now p s q t) (hgated : Gated s p) (h : Stocked s.exchange) :
    Stocked t.exchange := by
  cases move with
  | @apply _ _ _ n reader _ _ hframe hpacket =>
    obtain ⟨packet, applied, -, happly, rfl⟩ := interpret_ok hpacket
    have hframed : Stocked (noteFramed s now (reader.packet n)) := h.noted rfl rfl rfl rfl
    exact hframed.apply hgated happly
  | @skip _ _ _ n reader _ hframe hpacket hfault =>
    have hframed : Stocked (noteFramed s now (reader.packet n)) := h.noted rfl rfl rfl rfl
    exact hframed.noted rfl rfl rfl rfl
  | requested hphase hrequest =>
    have hanswered : Stocked (s.exchange.note now (.answered (.read s.inbound.spare) .requested)) :=
      h.noted rfl rfl rfl rfl
    exact hanswered.noted rfl rfl rfl rfl
  | begin hphase => exact h.noted rfl rfl rfl rfl
  | finish => exact h.noted rfl rfl rfl rfl
  -- All others note at most a call or its reply.
  | _ => first
    | exact h.of_eq rfl rfl rfl
    | exact h.noted rfl rfl rfl rfl

/-- The dispatching task takes the oldest message that is left. -/
theorem Stocked.dispatch {message : Message} (h : Stocked x)
    (hnext : x.nextMessage now = some (message, y)) : Stocked y := by
  obtain ⟨rest, hinbox, rfl⟩ := nextMessage_eq_some.mp hnext
  have hledger : ledger (⟨now, .dispatched message⟩ :: x.journal) =
      { ledger x.journal with handed := (ledger x.journal).handed ++ [content message] } := rfl
  have hroom := h.room
  rw [hinbox] at hroom
  refine .of_cons h.audited rfl ?_ (Nat.le_of_succ_le hroom) ?_
  · rw [hledger]
    simp [Exchange.note, h.kept, hinbox]
  · rw [hledger]
    exact h.counted

/-- The dispatching task takes the oldest message, in the inbox and in the ledger. The others touch
neither. -/
theorem Beside.stocked (hbeside : Beside now x y) (h : Stocked x) : Stocked y := by
  induction hbeside with
  | refl => exact h
  | forget _ ih => exact ih.of_eq rfl rfl rfl
  | request slot _ ih => exact ih.of_eq rfl rfl rfl
  | @note y what hwhat _ ih =>
    cases what <;> first | exact ih.noted rfl rfl rfl rfl | cases hwhat
  | notify _ ih => exact ih.noted rfl rfl rfl rfl
  | dispatch hnext _ ih => exact ih.dispatch hnext

end

/-! ### Runs -/

/-- At the start the session is closed and the inbox is empty. -/
theorem stocked_start (config : SessionConfig) (now : Micros) :
    Gated ((Session.new config {}).start now) .waiting ∧
      Stocked ((Session.new config {}).start now).exchange := by
  have hbalances : Ledger.Balances {} := ⟨List.nil_prefix, Nat.zero_le _⟩
  exact ⟨rfl, rfl, Nat.zero_le _, rfl, hbalances, hbalances⟩

/-- In every run the shared state is what the ledger says. -/
theorem stocked_run (config : SessionConfig) (ackTimeout now : Micros) (turns : List Turn) :
    let s := ((System.boot config ackTimeout now).run turns).session
    Gated s .waiting ∧ Stocked s.exchange :=
  System.invariant_beside (P := fun p s => Gated s p ∧ Stocked s.exchange)
    (stocked_start config now)
    (fun move h => ⟨move.gated h.1, move.stocked h.1 h.2⟩)
    (fun hbeside h => ⟨hbeside.gated h.1, hbeside.stocked h.2⟩)
    (fun {s} h => by
      show s.yield.exchange.connected = (ledger s.yield.exchange.journal).isOpen ∧ _
      rwa [yield_exchange]) turns

/-- The dispatching task takes all that is left if it is given time. -/
theorem run_dispatch (n : Nat) : ∀ s : System, s.session.exchange.inbox.length = n →
    (s.run (List.replicate n .dispatch)).session.exchange.inbox = [] ∧
      (ledger (s.run (List.replicate n .dispatch)).journal).kept = (ledger s.journal).kept := by
  induction n with
  | zero => exact fun s h => ⟨List.eq_nil_of_length_eq_zero h, rfl⟩
  | succ n ih =>
    intro s h
    obtain ⟨message, rest, hinbox⟩ := List.exists_cons_of_length_eq_add_one h
    have hstep : (s.step .dispatch).session.exchange =
        { s.session.exchange with inbox := rest }.note s.now (.dispatched message) := by
      rw [System.step, System.dispatchNext, Exchange.nextMessage, hinbox]
    have hrest : (s.step .dispatch).session.exchange.inbox.length = n := by
      rw [hinbox] at h
      rw [hstep]
      exact Nat.succ.inj h
    obtain ⟨hempty, hkept⟩ := ih (s.step .dispatch) hrest
    refine ⟨hempty, hkept.trans ?_⟩
    show (ledger (s.step .dispatch).session.exchange.journal).kept = _
    rw [hstep]
    rfl

/-- The account of the messages that came in, in every run, whenever the dispatching task takes
them:

1. The flag of the open session, the number of messages in the inbox and the count of those
   dropped are what the ledger says, the count up to what 32 bits hold.
2. The messages kept are those handed on and then those in the inbox, in the order in which they
   came. With as many turns as the inbox holds messages, all that were kept are handed on.
3. At every moment, what was handed on is the beginning of what was kept, and no more is left than
   the inbox holds. Each message is kept as it came, or counted, or ignored without a session, for
   the reasons that `Ledger.Enters` lists. -/
theorem inbox_accounted (config : SessionConfig) (ackTimeout now : Micros) (turns : List Turn) :
    let s := (System.boot config ackTimeout now).run turns
    let x := s.session.exchange
    let books := ledger s.journal
    (x.connected = books.isOpen ∧ x.inbox.length ≤ inboxCapacity ∧
      x.dropped = UInt32.ofNat books.dropped) ∧
    (books.kept = books.handed ++ x.inbox.map content ∧
      (ledger (s.run (List.replicate x.inbox.length .dispatch)).journal).handed = books.kept) ∧
    ∀ later e past, s.journal = later ++ e :: past →
      (ledger (e :: past)).Balances ∧
        ∀ m, e.what = .applied (.publish m) →
          Ledger.Enters m (ledger past) (ledger (e :: past)) := by
  intro s x books
  obtain ⟨hgate, hstocked⟩ := stocked_run config ackTimeout now turns
  refine ⟨⟨hgate, hstocked.room, hstocked.counted⟩, ⟨hstocked.kept, ?_⟩, ?_⟩
  · obtain ⟨hempty, hkept⟩ := run_dispatch x.inbox.length s rfl
    -- At the end of the longer run nothing is left between the messages kept and those handed on.
    obtain ⟨-, hlater⟩ :=
      stocked_run config ackTimeout now (turns ++ List.replicate x.inbox.length .dispatch)
    rw [System.run_append] at hlater
    have hhanded := hlater.kept
    rw [hempty, List.map_nil, List.append_nil] at hhanded
    exact hhanded.symm.trans hkept
  · intro later e past hjournal
    have haudited : Audited s.journal := hstocked.audited
    rw [hjournal] at haudited
    have hbalances : (ledger (e :: past)).Balances := haudited.of_append
    have hbefore : (ledger past).Balances := by
      rw [List.append_cons] at haudited
      exact haudited.of_append
    refine ⟨hbalances, fun m hwhat => ?_⟩
    rw [show ledger (e :: past) = (ledger past).publish m by rw [ledger, hwhat]; rfl]
    exact Ledger.enters_publish hbefore m

/-- Five messages for an inbox of four, with nobody to take them. -/
example :
    let burst := (List.replicate 5 [0x30, 4, 0, 1, 97, 98]).flatten
    let s := (System.boot plainConfig (seconds 4) 0).run
      (opening ++ .reply (.received (some burst)) :: List.replicate 4 .begin)
    s.session.exchange.inbox.length = 4 ∧ s.session.exchange.dropped = 1 ∧
      (ledger s.journal).kept = List.replicate 4 ("a", [98]) := by decide +kernel

end WeatherStation.Proofs.Mqtt
