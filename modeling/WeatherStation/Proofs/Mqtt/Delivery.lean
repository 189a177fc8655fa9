import WeatherStation.Proofs.Mqtt.Control
import WeatherStation.Proofs.Mqtt.ReaderTracking

/-!
# `WeatherStation.Proofs.Mqtt.Delivery`: no packet is lost by a wait that is given up

The session stops to wait for bytes at any point: when a time limit has passed, when a request
comes first, when the connection fails. Whatever it was doing with the stream then goes on at
the next read of the same connection, and begins anew at the next connection.

`bytesRead` and `framedPackets` look at a journal back to the last dial. They give the bytes
that were read from this connection and the packets that were found in them and went to the
decoder. `framed_isPrefix` says for every moment of every run that these packets are the first
ones of the split of these bytes, each once and in order, without those that the buffer cannot
hold. Whenever the session waits for more bytes they are all of them.

`Delivered` carries the proof. It needs `Controlled` at one place: between the end of a
connection and the next dial nothing is read.
-/

set_option autoImplicit false

namespace WeatherStation.Proofs.Mqtt

open WeatherStation.Mqtt

/-! ### Bytes and packets of a connection -/

/-- The bytes read since the last dial. A read gives no more than there was room for. -/
def bytesRead : List Entry → List UInt8
  | [] => []
  | e :: past =>
    match e.what with
    | .asked (.dial _) => []
    | .answered (.read room) (.received (some bytes)) => bytesRead past ++ bytes.take room
    | _ => bytesRead past

/-- The packets that went to the decoder since the last dial, first one first. -/
def framedPackets : List Entry → List (List UInt8)
  | [] => []
  | e :: past =>
    match e.what with
    | .asked (.dial _) => []
    | .framed bytes => framedPackets past ++ [bytes]
    | _ => framedPackets past

/-- At the end of this journal, the packets that went to the decoder are the first ones of the
stream. -/
def InOrder (past : List Entry) : Prop :=
  framedPackets past <+: (split (bytesRead past)).1.filter (fits inboundCapacity)

/-- Whether this is about the bytes or the packets of a connection. -/
def aboutStream : Happening → Bool
  | .asked (.dial _) => true
  | .answered (.read _) (.received (some (_ :: _))) => true
  | .framed _ => true
  | _ => false

/-- What is about neither changes neither. -/
theorem views_cons {e : Entry} {past : List Entry} (h : aboutStream e.what = false) :
    bytesRead (e :: past) = bytesRead past ∧ framedPackets (e :: past) = framedPackets past := by
  obtain ⟨time, what⟩ := e
  cases what with
  | asked call =>
    cases call with
    | dial remote => cases h
    | _ => exact ⟨rfl, rfl⟩
  | answered call reply =>
    refine ⟨?_, rfl⟩
    cases call with
    | read room =>
      match reply with
      | .received (some (_ :: _)) => cases h
      -- An empty chunk adds nothing to the bytes that were read.
      | .received (some []) =>
        show bytesRead past ++ List.take room [] = _
        rw [List.take_nil, List.append_nil]
      | .received none => rfl
      | .resolved _ | .dialed _ | .written _ | .closed | .elapsed | .requested => rfl
    | _ => rfl
  | framed bytes => cases h
  | _ => exact ⟨rfl, rfl⟩

/-- What has nothing to do with the stream changes neither view. -/
theorem views_append {noted past : List Entry} (h : ∀ e ∈ noted, aboutStream e.what = false) :
    bytesRead (noted ++ past) = bytesRead past ∧
      framedPackets (noted ++ past) = framedPackets past ∧
      (Always InOrder past → Always InOrder (noted ++ past)) := by
  induction noted with
  | nil => exact ⟨rfl, rfl, id⟩
  | cons e noted ih =>
    obtain ⟨hbytes, hframed, halways⟩ := ih fun x hx => h x (List.mem_cons_of_mem e hx)
    have hviews : bytesRead (e :: (noted ++ past)) = bytesRead (noted ++ past) ∧
        framedPackets (e :: (noted ++ past)) = framedPackets (noted ++ past) :=
      views_cons (h e List.mem_cons_self)
    refine ⟨hviews.1.trans hbytes, hviews.2.trans hframed, fun hpast => ⟨?_, halways hpast⟩⟩
    show InOrder (e :: (noted ++ past))
    rw [InOrder, hviews.1, hviews.2]
    exact (halways hpast).at_end

/-- What another task notes is not about the stream. -/
theorem aboutStream_of_aside {what : Happening} (h : bySession what = false) :
    aboutStream what = false := by
  cases what <;> first | rfl | cases h

/-- A dial has to do with the stream: it begins another one. -/
theorem dials_of_aboutStream {what : Happening} (h : aboutStream what = false) :
    dials what = false := by
  cases what with
  | asked call => cases call <;> first | rfl | cases h
  | _ => rfl

/-! ### The session -/

/-- The session is in step with the stream of its connection: the reader follows the bytes
read since the last dial and has handed out the packets that went to the decoder. There are two
exceptions. When a connection has come to its end the reader may be empty instead; nothing is
read before the next dial. And when the decoder has run over the end of a packet, the packet is
still in the reader; nothing follows. -/
structure Delivered (p : Point) (s : Session) : Prop where
  capacity_eq : s.inbound.capacity = inboundCapacity
  inOrder : Always InOrder s.exchange.journal
  inStep :
    (∃ base, Follows base (bytesRead s.exchange.journal) (framedPackets s.exchange.journal)
      s.inbound) ∨
    (wire s.exchange.journal).Ashore ∨ p = .waiting ∧ s.phase = .crashed

/-- A reader that is in step has handed out the first packets of the stream. -/
theorem inOrder_of_follows {base : UInt32} {past : List Entry} {r : PacketReader}
    (hcapacity : r.capacity = inboundCapacity)
    (h : Follows base (bytesRead past) (framedPackets past) r) : InOrder past := by
  rw [InOrder, ← hcapacity]
  exact h.isPrefix

section
variable {now : Micros} {p q : Point} {s t : Session}

/-- There is no move after a crash. -/
theorem Move.not_crashed (move : Move now p s q t) : ¬ (p = .waiting ∧ s.phase = .crashed) := by
  rintro ⟨hpoint, hphase⟩
  cases move <;> simp_all

/-- While bytes are awaited or looked at, the reader is in step. -/
theorem Delivered.follows (h : Delivered p s) (hgoes : ¬ (p = .waiting ∧ s.phase = .crashed))
    (hwire : ¬ (wire s.exchange.journal).Ashore) :
    ∃ base, Follows base (bytesRead s.exchange.journal) (framedPackets s.exchange.journal)
      s.inbound := by
  rcases h.inStep with hfollows | hashore | hcrashed
  · exact hfollows
  · exact absurd hashore hwire
  · exact absurd hcrashed hgoes

/-- What leaves the reader alone and notes nothing about the stream keeps the session in
step. -/
theorem Delivered.keep (h : Delivered p s) (noted : List Entry)
    (hgoes : p = .waiting ∧ s.phase = .crashed → q = .waiting ∧ t.phase = .crashed)
    (hinbound : t.inbound = s.inbound)
    (hjournal : t.exchange.journal = noted ++ s.exchange.journal)
    (hother : ∀ e ∈ noted, aboutStream e.what = false)
    (horderly : Orderly t.exchange.journal) : Delivered q t := by
  obtain ⟨hbytes, hframed, halways⟩ : bytesRead (noted ++ s.exchange.journal) = _ ∧ _ ∧ _ :=
    views_append hother
  refine ⟨hinbound ▸ h.capacity_eq, hjournal ▸ halways h.inOrder, ?_⟩
  rw [hjournal] at horderly
  rw [hjournal, hbytes, hframed, hinbound]
  rcases h.inStep with hfollows | hashore | hcrashed
  · exact .inl hfollows
  · -- Without a dial among them nothing can be read after these entries either.
    have hdials : ∀ e ∈ noted, dials e.what = false :=
      fun e he => dials_of_aboutStream (hother e he)
    exact .inr (.inl (ashore_append horderly hdials hashore))
  · exact .inr (.inr (hgoes hcrashed))

/-- A packet that is taken off the reader is the next one of the stream. -/
theorem Delivered.next {purpose : Purpose} {timer : Timer} {n : Nat} {reader : PacketReader}
    (h : Delivered (.scanning purpose timer) s)
    (hcontrolled : Controlled (.scanning purpose timer) s)
    (hframe : s.inbound.frame? = (.ok (some n), reader)) :
    let journal := ⟨now, .framed (reader.packet n)⟩ :: s.exchange.journal
    reader = s.inbound ∧ (reader.consume n).capacity = inboundCapacity ∧ InOrder journal ∧
      ∃ base, Follows base (bytesRead journal) (framedPackets journal) (reader.consume n) := by
  obtain ⟨base, hfollows⟩ :=
    h.follows (fun hcrashed => Point.noConfusion hcrashed.1) (by rw [hcontrolled.2.1]; exact id)
  obtain ⟨hreader, -⟩ := front_of_frame hframe
  have hcapacity : (reader.consume n).capacity = inboundCapacity := by
    rw [capacity_consume, hreader, h.capacity_eq]
  have hconsumed := follows_consume hfollows hframe
  exact ⟨hreader, hcapacity, inOrder_of_follows hcapacity hconsumed, base, hconsumed⟩

/-- Every move keeps the session in step. -/
theorem Move.delivered (move : Move now p s q t) (hcontrolled : Controlled p s)
    (h : Delivered p s) : Delivered q t := by
  have horderly := (move.controlled hcontrolled).1
  have hgoes := move.not_crashed
  have hafter : p = .waiting ∧ s.phase = .crashed → q = .waiting ∧ t.phase = .crashed :=
    fun hcrashed => absurd hcrashed hgoes
  cases move with
  | connectDial hremote =>
    -- Both views begin anew at a dial, and so does the reader.
    have hcapacity : s.inbound.clear.capacity = inboundCapacity := by
      rw [capacity_clear, h.capacity_eq]
    exact ⟨hcapacity, ⟨inOrder_of_follows hcapacity (follows_clear s.inbound), h.inOrder⟩,
      .inl ⟨_, follows_clear s.inbound⟩⟩
  | @received _ purpose timer bytes hphase hbytes =>
    -- Bytes come in only while the wire is busy with a read.
    have hwire : ¬ (wire s.exchange.journal).Ashore := by
      rw [(stands_reading hcontrolled.2 hphase).1]
      exact id
    obtain ⟨base, hfollows⟩ := h.follows hgoes hwire
    have hcapacity : (s.inbound.fill bytes).capacity = inboundCapacity := by
      rw [capacity_fill, h.capacity_eq]
    have hfilled := follows_fill hfollows bytes
    exact ⟨hcapacity, ⟨inOrder_of_follows hcapacity hfilled, h.inOrder⟩, .inl ⟨base, hfilled⟩⟩
  | closedDown hphase =>
    -- The reader is emptied, and the bytes of the connection are still those of the journal.
    have hcapacity : s.inbound.clear.capacity = inboundCapacity := by
      rw [capacity_clear, h.capacity_eq]
    exact ⟨hcapacity, ⟨h.inOrder.at_end, h.inOrder⟩, .inr (.inl trivial)⟩
  | corrupt hframe =>
    obtain ⟨hreader, -⟩ := front_of_error hframe
    exact h.keep [] hafter hreader rfl (by simp) horderly
  | hungry hframe =>
    -- A packet that is too large may leave the reader here, which no view sees.
    obtain ⟨base, hfollows⟩ := h.follows hgoes (by rw [hcontrolled.2.1]; exact id)
    have hcapacity := (idle_of_frame hframe).1.trans h.capacity_eq
    exact ⟨hcapacity, ⟨h.inOrder.at_end, h.inOrder⟩, .inl ⟨base, follows_frame hfollows hframe⟩⟩
  | overrun hframe hpacket =>
    -- The packet went to the decoder and stays in the reader.
    obtain ⟨hreader, -, hin, -⟩ := h.next hcontrolled hframe
    exact ⟨hreader ▸ h.capacity_eq, ⟨hin, h.inOrder⟩, .inr (.inr ⟨rfl, rfl⟩)⟩
  | skip hframe hpacket hfault =>
    -- What the decoder refuses has been handed out as well.
    obtain ⟨-, hcapacity, hin, hnext⟩ := h.next hcontrolled hframe
    exact ⟨hcapacity, ⟨hin, hin, h.inOrder⟩, .inl hnext⟩
  | @apply _ purpose timer n reader received exchange hframe hpacket =>
    obtain ⟨-, hcapacity, hin, hnext⟩ := h.next hcontrolled hframe
    obtain ⟨packet, hjournal, -⟩ := interpret_eq hpacket
    refine ⟨hcapacity, ?_, .inl ?_⟩
    · show Always InOrder exchange.journal
      rw [hjournal]
      exact ⟨hin, hin, h.inOrder⟩
    · show ∃ base, Follows base (bytesRead exchange.journal) (framedPackets exchange.journal) _
      rw [hjournal]
      exact hnext
  | requested hphase hrequest =>
    exact h.keep [_, _] hafter rfl rfl (by simp [aboutStream]) horderly
  | _ => first
    | exact h.keep [] hafter rfl rfl (by simp) horderly
    | exact h.keep [_] hafter rfl rfl (by simp [aboutStream]) horderly

/-- A session that waits for bytes holds no complete packet. -/
def Rested (s : Session) : Point → Prop
  | .waiting => ∀ purpose timer, s.phase = .reading purpose timer → Idle s.inbound
  | .sending _ _ otherwise => Rested s otherwise
  | _ => True

/-- The session waits for bytes only after it has looked for packets and found none. -/
theorem Move.rested (move : Move now p s q t) (h : Rested s p) : Rested t q := by
  cases move with
  | hungry hframe => exact fun _ _ _ => (idle_of_frame hframe).2
  | sendNot hnone => exact h
  | _ => first
    | trivial
    | exact fun _ _ hphase => Phase.noConfusion hphase

end

/-! ### Every run -/

/-- The session is under control, in step, and at rest when it waits for bytes. -/
structure Synced (p : Point) (s : Session) : Prop where
  controlled : Controlled p s
  delivered : Delivered p s
  rested : Rested s p

/-- At the start the reader is empty and nothing was read. -/
theorem synced_start (config : SessionConfig) (now : Micros) :
    Synced .waiting ((Session.new config {}).start now) := by
  have hcapacity : (PacketReader.new inboundCapacity).capacity = inboundCapacity := by
    simp [PacketReader.new, PacketReader.capacity]
  have hnew : InOrder [] := inOrder_of_follows hcapacity (follows_new inboundCapacity)
  exact ⟨controlled_start config now,
    ⟨hcapacity, ⟨hnew, hnew⟩, .inl ⟨0, follows_new inboundCapacity⟩⟩,
    fun _ _ hphase => Phase.noConfusion hphase⟩

/-- The other tasks do not touch the stream. -/
theorem Synced.aside {s : Session} {exchange : Exchange} (haside : Aside s.exchange exchange)
    (h : Synced .waiting s) : Synced .waiting { s with exchange } := by
  have hcontrolled := h.controlled.aside haside
  obtain ⟨noted, hjournal, hother, -⟩ := haside
  have hkept := h.delivered.keep noted (t := { s with exchange }) id rfl hjournal
    (fun e he => aboutStream_of_aside (hother e he)) hcontrolled.1
  exact ⟨hcontrolled, hkept, h.rested⟩

/-- Giving way touches the phase and not the stream. -/
theorem Synced.yield {s : Session} (h : Synced .waiting s) : Synced .waiting s.yield := by
  have hcontrolled := h.controlled.yield
  revert hcontrolled
  rw [Session.yield]
  split
  · rename_i purpose timer hphase
    intro hcontrolled
    exact ⟨hcontrolled, h.delivered.keep [] (by simp [hphase]) rfl rfl (by simp) hcontrolled.1,
      fun _ _ _ => h.rested purpose timer hphase⟩
  · rename_i timer why hphase
    intro hcontrolled
    exact ⟨hcontrolled, h.delivered.keep [] (by simp [hphase]) rfl rfl (by simp) hcontrolled.1,
      fun _ _ hphase' => Phase.noConfusion hphase'⟩
  · intro _
    exact h

/-- In every run, at every moment and on every connection, the packets that went to the decoder
are the first ones among those of the bytes read since the dial that the buffer can hold, each
once and in order. No byte of an earlier connection is in them. While the session waits for
more bytes, they are all of them: no wait that was given up has cost a packet. -/
theorem framed_isPrefix (config : SessionConfig) (ackTimeout now : Micros) (turns : List Turn) :
    let s := (System.boot config ackTimeout now).run turns
    (∀ later past, s.journal = later ++ past →
      framedPackets past <+: (split (bytesRead past)).1.filter (fits inboundCapacity)) ∧
    (∀ purpose timer, s.session.phase = .reading purpose timer →
      framedPackets s.journal =
        (split (bytesRead s.journal)).1.filter (fits inboundCapacity)) := by
  have hsynced : Synced .waiting ((System.boot config ackTimeout now).run turns).session :=
    System.invariant (synced_start config now)
      (fun move h => ⟨move.controlled h.controlled, move.delivered h.controlled h.delivered,
        move.rested h.rested⟩)
      Synced.aside Synced.yield turns
  intro s
  constructor
  · intro later past hjournal
    have halways := hsynced.delivered.inOrder
    rw [show s.session.exchange.journal = later ++ past from hjournal] at halways
    exact halways.of_append
  · intro purpose timer hphase
    have hgoes : ¬ (Point.waiting = .waiting ∧ s.session.phase = .crashed) := by simp [hphase]
    have hwire : ¬ (wire s.session.exchange.journal).Ashore := by
      rw [(stands_reading hsynced.controlled.2 hphase).1]
      exact id
    obtain ⟨base, hfollows⟩ := hsynced.delivered.follows hgoes hwire
    -- The reader holds no complete packet, so that the prefix is the whole list.
    obtain ⟨packets, tail, -, hsplit, hhanded⟩ :=
      split_of_idle hfollows (hsynced.rested purpose timer hphase)
    rw [hsynced.delivered.capacity_eq] at hhanded
    show framedPackets s.session.exchange.journal =
      (split (bytesRead s.session.exchange.journal)).1.filter (fits inboundCapacity)
    rw [hsplit, hhanded]

/-- A PUBACK whose first half is read in one poll round and whose second half is read after the
round has run out of time. -/
example :
    framedPackets ((System.boot plainConfig (seconds 4) 0).run
      (opening ++ [.reply (.received (some [0x40, 2])), .pass (seconds 1), .yield,
        .reply .elapsed, .begin, .reply (.received (some [0, 1]))])).journal =
      [[0x20, 2, 0, 0], [0x40, 2, 0, 1]] := by decide +kernel

end WeatherStation.Proofs.Mqtt
