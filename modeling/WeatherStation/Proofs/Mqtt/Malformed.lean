import Mathlib.Logic.Relation
import WeatherStation.Proofs.Mqtt.Delivery
import WeatherStation.Proofs.Mqtt.Receipt
import WeatherStation.Proofs.Mqtt.Truncation

/-!
# `WeatherStation.Proofs.Mqtt.Malformed`: what a packet of any kind does to the session

Whenever the session looks at the bytes it holds, it handles complete packets one after the other
until something ends the looking. `Handles` is one packet after which the session looks on: it is
applied, or it is of no use and skipped, which leaves everything but the reader and the journal as
it was. `Ends` lists the ends: no packet is complete, the length field in front is broken, a
packet is cut short, or a packet was applied that settles what the session reads for.

* `read_handles`: this is all that reading does, in every state of the session. The connection is
  given up for lost only at a broken length field, and the session crashes only at a packet that
  is cut short.
* `crashing_run`: a session has crashed exactly if a packet that is cut short went to the decoder.

`intake_law` has both.
-/

set_option autoImplicit false

namespace WeatherStation.Proofs.Mqtt

open WeatherStation.Mqtt

/-! ### One packet -/

/-- The reader reports these bytes as the packet in front. -/
def Framed (r : PacketReader) (bytes : List UInt8) : Prop :=
  r.frame? = (.ok (some bytes.length), r) ∧ r.packet bytes.length = bytes

/-- Whether a station has a use for a packet. -/
def useful : Packet → Bool
  | .connack _ _ => true
  | .publish _ => true
  | .puback _ => true
  | .suback _ _ => true
  | .pingresp => true
  | _ => false

/-- The packet in front is applied, and the session learns something from it. -/
inductive Applies (now : Micros) (s : Session) : Received → Session → Prop where
  | intro {bytes : List UInt8} {packet : Packet} {received : Received} {x : Exchange}
      (framed : Framed s.inbound bytes) (decoded : Packet.decode bytes = .ok packet)
      (applied : (noteFramed s now bytes).apply now packet = some (received, x)) :
      Applies now s received
        { s with
          inbound := s.inbound.consume bytes.length
          exchange := x.note now (.applied packet)
          inFlight := Session.inFlightAfter s.inFlight received }

/-- The packet in front is handled, and the session looks on. -/
inductive Handles (now : Micros) (purpose : Purpose) : Session → Session → Prop where
  /-- It is applied, and it is about something else than what the session reads for. -/
  | applied {s t : Session} {received : Received} (h : Applies now s received t)
      (hreply : received.reply? = none)
      (hverdict : Session.verdict purpose received = .immaterial) : Handles now purpose s t
  /-- It is of no use, and nothing changes but the reader and the journal. -/
  | skipped {s : Session} {bytes : List UInt8} (framed : Framed s.inbound bytes)
      (long : ¬ CutShort bytes)
      (useless : ∀ packet, Packet.decode bytes = .ok packet → useful packet = false) :
      Handles now purpose s
        { s with
          inbound := s.inbound.consume bytes.length
          exchange := { s.exchange with
            journal := ⟨now, .skipped bytes⟩ :: ⟨now, .framed bytes⟩ :: s.exchange.journal } }

/-- What ends the looking at packets. -/
inductive Ends (now : Micros) (purpose : Purpose) (due : Micros) : Session → Session → Prop where
  /-- No packet is complete. -/
  | waits {s : Session} {reader : PacketReader} {timer : Timer}
      (h : s.inbound.frame? = (.ok none, reader)) (hdue : timer.due = due) :
      Ends now purpose due s ({ s with inbound := reader }.await now (.reading purpose timer))
  /-- The length field in front is broken. -/
  | loses {s : Session} (h : front s.inbound.held = .broken) :
      Ends now purpose due s (s.lose now purpose)
  /-- The packet in front is cut short. -/
  | crashes {s : Session} {bytes : List UInt8} (framed : Framed s.inbound bytes)
      (h : CutShort bytes) :
      Ends now purpose due s { s with exchange := noteFramed s now bytes, phase := .crashed }
  /-- A message is to be acknowledged. -/
  | acknowledges {s t : Session} {received : Received} {id : UInt16}
      (applied : Applies now s received t) (hreply : received.reply? = some id) :
      Ends now purpose due s
        (t.await now (.writing (Packet.puback id).encode (.puback id purpose due)))
  /-- The purpose of reading is reached. -/
  | succeeds {s t : Session} {received : Received} (applied : Applies now s received t)
      (hreply : received.reply? = none)
      (hverdict : Session.verdict purpose received = .granted) :
      Ends now purpose due s (t.succeed now purpose)
  /-- The broker has refused. -/
  | givesUp {s t : Session} {received : Received} (applied : Applies now s received t)
      (hreply : received.reply? = none)
      (hverdict : Session.verdict purpose received = .refused) :
      Ends now purpose due s (t.giveUp now purpose)

section
variable {now : Micros} {r : PacketReader}

/-- A packet that is reported stands at the front of what is held, in full. -/
theorem framed_of_frame {reader : PacketReader} {n : Nat}
    (h : r.frame? = (.ok (some n), reader)) :
    reader = r ∧ (r.packet n).length = n ∧ Framed r (r.packet n) ∧ IsPacket (r.packet n) := by
  obtain ⟨rfl, hfront, -, hle⟩ := front_of_frame h
  have hlength : (reader.packet n).length = n := by
    rw [PacketReader.packet, List.length_take]
    omega
  refine ⟨rfl, hlength, ⟨by rw [hlength]; exact h, by rw [hlength]⟩, ?_⟩
  rw [IsPacket, hlength]
  exact front_take hfront hle

/-- Only a packet that a station has no use for is not applied. -/
theorem apply_eq_none {x : Exchange} {packet : Packet} :
    x.apply now packet = none ↔ useful packet = false := by
  cases packet with
  | connack present code => exact iff_of_false nofun nofun
  | publish message => exact iff_of_false nofun nofun
  | puback id => exact iff_of_false nofun nofun
  | suback id codes => exact iff_of_false nofun nofun
  | pingresp => exact iff_of_false nofun nofun
  | _ => exact iff_of_true rfl rfl

/-- A packet that is not applied, though it is not cut short, is of no use. -/
theorem useless_of_interpret {x : Exchange} {bytes : List UInt8} {fault : Fault}
    (hpacket : IsPacket bytes) (h : x.interpret now bytes = .error fault)
    (hfault : fault ≠ .overrun) :
    ¬ CutShort bytes ∧ ∀ packet, Packet.decode bytes = .ok packet → useful packet = false := by
  rw [← decode_overrun hpacket]
  unfold Exchange.interpret at h
  split at h
  · rename_i other hdecode
    cases h
    rw [hdecode]
    exact ⟨fun hover => hfault (Except.error.inj hover), nofun⟩
  · rename_i packet hdecode
    split at h
    · cases h
    · rename_i hnone
      rw [hdecode]
      refine ⟨nofun, ?_⟩
      rintro _ ⟨⟩
      exact apply_eq_none.mp hnone

/-- Only at a packet that is cut short the decoder runs over the end. -/
theorem cutShort_of_interpret {x : Exchange} {bytes : List UInt8} (hpacket : IsPacket bytes)
    (h : x.interpret now bytes = .error .overrun) : CutShort bytes := by
  rw [← decode_overrun hpacket]
  unfold Exchange.interpret at h
  split at h
  · rename_i hdecode
    cases h
    exact hdecode
  · split at h <;> cases h

/-- A packet that is applied is not cut short. -/
theorem long_of_interpret {x y : Exchange} {bytes : List UInt8} {received : Received}
    (hpacket : IsPacket bytes) (h : x.interpret now bytes = .ok (received, y)) :
    ¬ CutShort bytes := by
  obtain ⟨packet, -, hdecode, -⟩ := interpret_ok h
  rw [← decode_overrun hpacket, hdecode]
  exact nofun

end

/-! ### Reading -/

section
variable {now : Micros}

/-- A packet that is interpreted is removed from the reader, and what the session learns from it is
noted. -/
theorem applies_of_interpret {s : Session} {n : Nat} {reader : PacketReader} {received : Received}
    {x : Exchange} (hframe : s.inbound.frame? = (.ok (some n), reader))
    (h : (noteFramed s now (reader.packet n)).interpret now (reader.packet n) = .ok (received, x)) :
    Applies now s received
      { s with
        inbound := reader.consume n
        exchange := x
        inFlight := Session.inFlightAfter s.inFlight received } := by
  obtain ⟨rfl, hlength, hframed, -⟩ := framed_of_frame hframe
  obtain ⟨packet, y, hdecode, happly, rfl⟩ := interpret_ok h
  have happlies := Applies.intro hframed hdecode happly
  rw [hlength] at happlies
  exact happlies

/-- How `receive` comes to an end at the session `s`, which it leaves as `t`. -/
def Stops (now : Micros) (s t : Session) : Intake → Prop
  | .hungry => ∃ reader, s.inbound.frame? = (.ok none, reader) ∧ t = { s with inbound := reader }
  | .corrupt => front s.inbound.held = .broken ∧ t = s
  | .overrun => ∃ bytes, Framed s.inbound bytes ∧ CutShort bytes ∧
      t = { s with exchange := noteFramed s now bytes }
  | .packet received => received.reply? ≠ some 0 ∧
      Applies now s received { t with inFlight := Session.inFlightAfter t.inFlight received }

/-- Packets are skipped until `receive` comes to an end. -/
theorem receive_handles (s : Session) (purpose : Purpose) {intake : Intake}
    {reader reader' : PacketReader} {x x' : Exchange}
    (h : receive now reader x = (intake, reader', x')) :
    ∃ t, Relation.ReflTransGen (Handles now purpose) { s with inbound := reader, exchange := x } t ∧
      Stops now t { s with inbound := reader', exchange := x' } intake := by
  fun_induction receive now reader x with
  | case1 reader x e front hframe =>
    cases h
    obtain ⟨rfl, -, hbroken⟩ := front_of_error hframe
    exact ⟨_, .refl, hbroken, rfl⟩
  | case2 reader x front hframe =>
    cases h
    exact ⟨_, .refl, _, hframe, rfl⟩
  | case3 reader x n front hframe framed received exchange hpacket =>
    cases h
    obtain ⟨howed, hzero⟩ := owed_of_interpret hpacket
    rw [howed] at hzero
    exact ⟨_, .refl, hzero, applies_of_interpret
      (s := { s with inbound := reader, exchange := x }) hframe hpacket⟩
  | case4 reader x n front hframe framed hpacket =>
    obtain ⟨rfl, rfl, rfl⟩ : _ ∧ _ ∧ _ := by simpa using h
    obtain ⟨rfl, -, hframed, hwhole⟩ := framed_of_frame hframe
    exact ⟨_, .refl, _, hframed, cutShort_of_interpret hwhole hpacket, rfl⟩
  | case5 reader x n front hframe framed fault hfault hpacket ih =>
    -- A packet that is of no use is skipped, and the looking goes on behind it.
    obtain ⟨rfl, hlength, hframed, hwhole⟩ := framed_of_frame hframe
    obtain ⟨hlong, huseless⟩ := useless_of_interpret hwhole hpacket hfault
    obtain ⟨t, hhandles, hstops⟩ := ih h
    have hskip : Handles now purpose { s with inbound := front, exchange := x } _ :=
      .skipped hframed hlong huseless
    rw [hlength] at hskip
    exact ⟨t, .head hskip hhandles, hstops⟩

/-- Reading handles packets one after the other until something ends it. -/
theorem read_handles (s : Session) (purpose : Purpose) (timer : Timer) :
    ∃ t, Relation.ReflTransGen (Handles now purpose) s t ∧
      Ends now purpose timer.due t (s.read now purpose timer) := by
  fun_induction Session.read s now purpose timer with
  | case1 s timer inbound exchange h =>
    obtain ⟨t, hhandles, hbroken, heq⟩ := receive_handles s purpose h
    rw [heq]
    exact ⟨t, hhandles, .loses hbroken⟩
  | case2 s timer inbound exchange h =>
    obtain ⟨t, hhandles, bytes, hframed, hcut, heq⟩ := receive_handles s purpose h
    -- The equation is about the session without its phase, and a crash sets nothing but the phase.
    have hcrash := congrArg (fun u : Session => { u with phase := .crashed }) heq
    exact ⟨t, hhandles, hcrash ▸ .crashes hframed hcut⟩
  | case3 s timer inbound exchange h =>
    obtain ⟨t, hhandles, reader, hframe, heq⟩ := receive_handles s purpose h
    rw [heq]
    exact ⟨t, hhandles, .waits hframe rfl⟩
  | case4 s timer received inbound exchange h s' id hreply =>
    obtain ⟨t, hhandles, hzero, happlies⟩ := receive_handles s purpose h
    rw [hreply] at hzero
    -- A PUBACK is never left out, since the id of a message is not zero.
    rw [Session.write, encodeWithin_puback fun hid => hzero (congrArg some hid)]
    exact ⟨t, hhandles, .acknowledges happlies hreply⟩
  | case5 s timer received inbound exchange h s' hreply hverdict =>
    obtain ⟨t, hhandles, -, happlies⟩ := receive_handles s purpose h
    exact ⟨t, hhandles, .succeeds happlies hreply hverdict⟩
  | case6 s timer received inbound exchange h s' hreply hverdict =>
    obtain ⟨t, hhandles, -, happlies⟩ := receive_handles s purpose h
    exact ⟨t, hhandles, .givesUp happlies hreply hverdict⟩
  | case7 s timer received inbound exchange h s' hreply hverdict ih =>
    -- The packet was about something else, so that the session looks at the next one.
    obtain ⟨t, hhandles, -, happlies⟩ := receive_handles s purpose h
    obtain ⟨u, hrest, hends⟩ := ih
    exact ⟨u, hhandles.trans (.head (.applied happlies hreply hverdict) hrest), hends⟩

end

/-! ### Crashes -/

/-- A packet that is cut short goes to the decoder. -/
def overruns : Happening → Prop
  | .framed bytes => CutShort bytes
  | _ => False

/-- A packet that is cut short went to the decoder. -/
def Overran : List Entry → Prop
  | [] => False
  | e :: past => overruns e.what ∨ Overran past

/-- The session crashes exactly when such a packet goes to the decoder, and then it stands
still. -/
def Crashing (p : Point) (s : Session) : Prop :=
  (s.phase = .crashed ∧ p = .waiting ∧ Overran s.exchange.journal) ∨
    (s.phase ≠ .crashed ∧ ¬ Overran s.exchange.journal)

section
variable {now : Micros} {p q : Point} {s t : Session}

/-- A crash has its packet in the journal. -/
theorem overran_iff (past : List Entry) :
    Overran past ↔ ∃ time bytes, ⟨time, .framed bytes⟩ ∈ past ∧ CutShort bytes := by
  induction past with
  | nil => exact iff_of_false id (by simp)
  | cons e past ih =>
    rw [Overran, ih]
    constructor
    · rintro (h | ⟨time, bytes, hmem, hcut⟩)
      · obtain ⟨time, what⟩ := e
        cases what with
        | framed bytes => exact ⟨time, bytes, List.mem_cons_self, h⟩
        | _ => exact h.elim
      · exact ⟨time, bytes, List.mem_cons_of_mem _ hmem, hcut⟩
    · rintro ⟨time, bytes, hmem, hcut⟩
      rcases List.mem_cons.mp hmem with rfl | hmem
      · exact .inl hcut
      · exact .inr ⟨time, bytes, hmem, hcut⟩

/-- Every move keeps it. -/
theorem Move.crashing (move : Move now p s q t) (h : Crashing p s) : Crashing q t := by
  rcases h with ⟨hphase, rfl, -⟩ | ⟨hphase, hnot⟩
  · exact absurd ⟨rfl, hphase⟩ move.not_crashed
  · -- What `overruns` says of an entry that is no packet.
    have hquiet {past : List Entry} (h : ¬ Overran past) : ¬ (False ∨ Overran past) :=
      not_or.mpr ⟨id, h⟩
    cases move with
    | overrun hframe hpacket =>
      obtain ⟨rfl, -, -, hwhole⟩ := framed_of_frame hframe
      exact .inl ⟨rfl, rfl, .inl (cutShort_of_interpret hwhole hpacket)⟩
    | skip hframe hpacket hfault =>
      obtain ⟨rfl, -, -, hwhole⟩ := framed_of_frame hframe
      obtain ⟨hlong, -⟩ := useless_of_interpret hwhole hpacket hfault
      exact .inr ⟨hphase, hquiet (not_or.mpr ⟨hlong, hnot⟩)⟩
    | @apply _ _ _ _ _ _ exchange hframe hpacket =>
      obtain ⟨rfl, -, -, hwhole⟩ := framed_of_frame hframe
      have hlong := long_of_interpret hwhole hpacket
      obtain ⟨packet, hjournal, -⟩ := interpret_eq hpacket
      refine .inr ⟨hphase, ?_⟩
      show ¬ Overran exchange.journal
      rw [hjournal]
      exact hquiet (not_or.mpr ⟨hlong, hnot⟩)
    | requested _ _ => exact .inr ⟨hphase, hquiet (hquiet hnot)⟩
    | _ => first
      | exact .inr ⟨hphase, hnot⟩
      | exact .inr ⟨hphase, hquiet hnot⟩
      | exact .inr ⟨Phase.noConfusion, hquiet hnot⟩

/-- The other tasks give nothing to the decoder. -/
theorem Crashing.aside {exchange : Exchange} (haside : Aside s.exchange exchange)
    (h : Crashing .waiting s) : Crashing .waiting { s with exchange } := by
  obtain ⟨noted, hjournal, hother, -⟩ := haside
  -- Only the session gives packets to the decoder.
  have hsame : Overran exchange.journal ↔ Overran s.exchange.journal := by
    rw [hjournal, overran_iff, overran_iff]
    refine exists_congr fun time => exists_congr fun bytes => and_congr_left fun _ => ?_
    rw [List.mem_append]
    refine or_iff_right fun hmem => ?_
    exact Bool.noConfusion (hother _ hmem)
  rw [Crashing, hsame]
  exact h

/-- Giving way gives nothing to the decoder either. -/
theorem Crashing.yield (h : Crashing .waiting s) : Crashing .waiting s.yield := by
  have hphase : s.yield.phase = .crashed ↔ s.phase = .crashed := by
    rw [Session.yield]
    split <;> simp [*]
  rw [Crashing, yield_exchange, Ne, hphase]
  exact h

/-- In every run, a session has crashed exactly if a packet that is cut short went to the
decoder. -/
theorem crashing_run (config : SessionConfig) (ackTimeout now : Micros) (turns : List Turn) :
    Crashing .waiting ((System.boot config ackTimeout now).run turns).session :=
  System.invariant (.inr ⟨nofun, not_or.mpr ⟨id, id⟩⟩) Move.crashing Crashing.aside
    Crashing.yield turns

end

/-- Whatever the broker sends, in whatever pieces:

1. In every state of the session, looking at the bytes that are held handles complete packets one
   after the other, each of them applied, or skipped with nothing changed but the reader, which
   goes on by the length of the packet, and the journal. It ends in one of the ways that `Ends`
   lists. So the connection is given up for lost only at a broken length field, and every packet
   that is not cut short is survived.
2. In every run, the session has crashed exactly if a packet went to the decoder that is cut
   short: a packet whose body is too short for what its type puts there, or has a text in it for
   which the decoder has no room. -/
theorem intake_law (s : Session) (now : Micros) (purpose : Purpose) (timer : Timer) :
    (∃ t, Relation.ReflTransGen (Handles now purpose) s t ∧
      Ends now purpose timer.due t (s.read now purpose timer)) ∧
    (∀ (config : SessionConfig) (ackTimeout start : Micros) (turns : List Turn),
      let b := (System.boot config ackTimeout start).run turns
      b.session.phase = .crashed ↔
        ∃ time bytes, ⟨time, .framed bytes⟩ ∈ b.journal ∧ CutShort bytes) := by
  refine ⟨read_handles s purpose timer, ?_⟩
  intro config ackTimeout start turns b
  rw [← overran_iff]
  rcases crashing_run config ackTimeout start turns with ⟨hphase, -, hcut⟩ | ⟨hphase, hnot⟩
  · exact iff_of_true hphase hcut
  · exact iff_of_false hphase hnot

/-- A CONNACK without a body crashes an open session. -/
example :
    let turns := opening ++ [.reply (.received (some [0x20, 0]))]
    ((System.boot plainConfig (seconds 4) 0).run turns).session.phase = .crashed := by
  decide +kernel

end WeatherStation.Proofs.Mqtt
