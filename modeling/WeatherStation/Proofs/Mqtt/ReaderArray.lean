import WeatherStation.Proofs.Mqtt.Delivery
import WeatherStation.Proofs.Mqtt.PacketStream

/-!
# `WeatherStation.Proofs.Mqtt.ReaderArray`: the packet reader in one array

A reader keeps its bytes in one array of fixed size and finds them by index. `ArrayReader` is that
reader. Each slice, copy and difference of its operations is checked, and an operation that goes
out of range has no result. It knows nothing of two lists that are put together.

`layout` lays the two lists of a `PacketReader` out in an array. Every operation on the array gives
the layout of what it gives on the lists, so it has a result (`run?_layout`). The operations may
come in any order, with any numbers, whether or not they are what the reader has reported.

`reader_bounds` is the result for all such sequences, and for the session: wherever it waits for
bytes there is room for at least one. So a read that brings none means that the broker has closed
the connection.
-/

set_option autoImplicit false

namespace WeatherStation.Proofs.Mqtt

open WeatherStation.Mqtt

/-! ### Checked accesses -/

/-- A difference of sizes. There is none below zero. -/
def minus? (m n : Nat) : Option Nat := if n ≤ m then some (m - n) else none

/-- The bytes from one index up to another. There are none if the range runs backwards or past the
end, which is where the reader would stop the program. -/
def slice? (bytes : List UInt8) (first last : Nat) : Option (List UInt8) :=
  if first ≤ last ∧ last ≤ bytes.length then some ((bytes.take last).drop first) else none

/-- Put bytes at an index, over those that are there. All of them need a place. -/
def overwrite? (bytes part : List UInt8) (index : Nat) : Option (List UInt8) :=
  if index + part.length ≤ bytes.length then
    some (bytes.take index ++ part ++ bytes.drop (index + part.length))
  else none

/-- Copy a range of bytes to an index. -/
def copyWithin? (bytes : List UInt8) (first last index : Nat) : Option (List UInt8) := do
  let part ← slice? bytes first last
  overwrite? bytes part index

/-- A difference that does not go below zero is there. -/
theorem minus?_of_le {m n : Nat} (h : n ≤ m) : minus? m n = some (m - n) := if_pos h

/-- The part between what is in front of it and what follows is found by their lengths. -/
theorem slice?_append (front part rest : List UInt8) :
    slice? (front ++ (part ++ rest)) front.length (front.length + part.length) = some part := by
  rw [slice?, if_pos ⟨Nat.le_add_right _ _, by simp only [List.length_append]; omega⟩,
    ← List.append_assoc, ← List.length_append, List.take_left, List.drop_left]

/-- Bytes take the place of as many others, and leave what is in front of them and behind them. -/
theorem overwrite?_append (front old part rest : List UInt8) (h : part.length = old.length) :
    overwrite? (front ++ (old ++ rest)) part front.length = some (front ++ (part ++ rest)) := by
  rw [overwrite?, if_pos (by simp only [List.length_append]; omega), List.take_left, h,
    ← List.append_assoc front old, ← List.length_append, List.drop_left, List.append_assoc]

/-- Bytes that move up leave the end of what was there in the place that becomes free. So the array
always holds the bytes in use and then some others, of which only the number matters. -/
theorem copyWithin?_append (front gap part rest : List UInt8) :
    copyWithin? (front ++ (gap ++ (part ++ rest))) (front.length + gap.length)
        (front.length + gap.length + part.length) front.length =
      some (front ++ (part ++ ((gap ++ part).drop part.length ++ rest))) := by
  have hslice := slice?_append (front ++ gap) part rest
  rw [List.length_append, List.append_assoc] at hslice
  have hold : part.length = ((gap ++ part).take part.length).length := by
    rw [List.length_take, List.length_append]
    omega
  have hover := overwrite?_append front ((gap ++ part).take part.length) part
    ((gap ++ part).drop part.length ++ rest) hold
  rw [← List.append_assoc _ _ rest, List.take_append_drop, List.append_assoc] at hover
  rw [copyWithin?, hslice]
  exact hover

/-! ### The reader -/

/-- A packet reader in one array. -/
structure ArrayReader where
  buffer : List UInt8
  /-- Number of bytes in use, at the start of the array. -/
  used : Nat
  /-- Bytes still to come that belong to a packet being skipped. -/
  discard : Nat
  /-- Packets skipped so far. -/
  dropped : UInt32

namespace ArrayReader

/-- An empty reader. -/
def new (capacity : Nat) : ArrayReader := ⟨List.replicate capacity 0, 0, 0, 0⟩

/-- The free space. -/
def spare? (a : ArrayReader) : Option (List UInt8) := slice? a.buffer a.used a.buffer.length

/-- Put bytes at the start of the free space, as many as fit. -/
def write? (a : ArrayReader) (bytes : List UInt8) : Option ArrayReader := do
  let room ← a.spare?
  let buffer ← overwrite? a.buffer (bytes.take room.length) a.used
  some { a with buffer }

/-- Take bytes of the free space into use, or what there is of it. While a packet is being skipped,
those that follow it move up to the start. -/
def filled? (a : ArrayReader) (n : Nat) : Option ArrayReader :=
  let used := min (a.used + n) a.buffer.length
  if 0 < a.discard then do
    let arrived ← minus? used a.used
    let skipped := min a.discard arrived
    let buffer ← copyWithin? a.buffer (a.used + skipped) used a.used
    let used ← minus? used skipped
    let discard ← minus? a.discard skipped
    some { a with buffer, used, discard }
  else some { a with used }

/-- The length of the packet in front, as far as the bytes in use tell it. -/
def announced? (a : ArrayReader) : Option (Except PacketError (Option Nat)) :=
  if a.used < 2 then some (.ok none)
  else do
    let field ← slice? a.buffer 1 a.used
    match RemainingLength.read? field with
    | .ok (remaining, size) => some (.ok (some (1 + size + remaining)))
    | .error .incomplete => some (.ok none)
    | .error e => some (.error e)

/-- The length of the packet in front, if it is complete. One that the array cannot hold is dropped
and counted. -/
def frame? (a : ArrayReader) : Option (Except PacketError (Option Nat) × ArrayReader) := do
  match ← a.announced? with
  | .error e => some (.error e, a)
  | .ok none => some (.ok none, a)
  | .ok (some total) =>
    if a.buffer.length < total then do
      let discard ← minus? total a.used
      some (.ok none, { a with used := 0, discard, dropped := a.dropped + 1 })
    else some (.ok (if total ≤ a.used then some total else none), a)

/-- The first bytes in use. -/
def packet? (a : ArrayReader) (n : Nat) : Option (List UInt8) := slice? a.buffer 0 (min n a.used)

/-- Remove the first bytes in use; those behind them move to the start. -/
def consume? (a : ArrayReader) (n : Nat) : Option ArrayReader := do
  let n := min n a.used
  let buffer ← copyWithin? a.buffer n a.used 0
  let used ← minus? a.used n
  some { a with buffer, used }

/-- Forget the bytes in use and what was to be skipped. -/
def clear (a : ArrayReader) : ArrayReader := { a with used := 0, discard := 0 }

end ArrayReader

/-- What can be done to a reader. -/
inductive ReaderCall where
  /-- A transport puts bytes into the free space. -/
  | write (bytes : List UInt8)
  | filled (n : Nat)
  | frame
  | consume (n : Nat)
  | clear

/-- The reader after a call. -/
def ArrayReader.perform? (a : ArrayReader) : ReaderCall → Option ArrayReader
  | .write bytes => a.write? bytes
  | .filled n => a.filled? n
  | .frame => a.frame?.map Prod.snd
  | .consume n => a.consume? n
  | .clear => some a.clear

/-- The reader after some calls, if none of them goes out of range. -/
def ArrayReader.run? (a : ArrayReader) (calls : List ReaderCall) : Option ArrayReader :=
  calls.foldlM perform? a

/-- A call on two lists. -/
def performCall (r : PacketReader) : ReaderCall → PacketReader
  | .write bytes => r.write bytes
  | .filled n => r.filled n
  | .frame => r.frame?.2
  | .consume n => r.consume n
  | .clear => r.clear

/-- The reader after some calls. -/
def afterCalls (r : PacketReader) (calls : List ReaderCall) : PacketReader :=
  calls.foldl performCall r

/-! ### Two lists in one array -/

/-- The bytes in use and then the free space, in one array. What the free space holds is of no
account to the two lists, but the array has it, so it is kept. -/
def layout (r : PacketReader) : ArrayReader :=
  ⟨r.held ++ r.stale, r.held.length, r.discard, r.dropped⟩

/-- An empty reader has an array of free space only. -/
theorem layout_new (capacity : Nat) : layout (.new capacity) = .new capacity := rfl

section
variable (r : PacketReader)

/-- The array has the size that the two lists have together. -/
theorem length_buffer_layout : (layout r).buffer.length = r.capacity := List.length_append

/-- The free space begins where the bytes in use end, so this range never runs backwards. -/
theorem spare?_layout : (layout r).spare? = some r.stale := by
  have h := slice?_append r.held r.stale []
  rw [List.append_nil, ← List.length_append] at h
  exact h

/-- The first bytes in use, or all of them if there are fewer. -/
theorem packet?_layout (n : Nat) : (layout r).packet? n = some (r.packet n) := by
  have h := slice?_append [] (r.held.take n) (r.held.drop n ++ r.stale)
  rw [List.nil_append, ← List.append_assoc, List.take_append_drop, List.length_take,
    List.length_nil, Nat.zero_add] at h
  exact h

/-- What is written is cut to the free space first, and so it has a place. -/
theorem write?_layout (bytes : List UInt8) :
    (layout r).write? bytes = some (layout (r.write bytes)) := by
  have hold : (bytes.take r.stale.length).length =
      (r.stale.take (bytes.take r.stale.length).length).length := by
    simp only [List.length_take]
    omega
  have h := overwrite?_append r.held (r.stale.take (bytes.take r.stale.length).length)
    (bytes.take r.stale.length) (r.stale.drop (bytes.take r.stale.length).length) hold
  rw [List.take_append_drop] at h
  rw [ArrayReader.write?, spare?_layout]
  show (overwrite? (r.held ++ r.stale) (bytes.take r.stale.length) r.held.length).bind _ = _
  rw [h]
  rfl

/-- The bytes that are taken into use are cut to the free space too. While a packet is skipped, what
belongs to it is left out and the bytes behind it close the gap. -/
theorem filled?_layout (n : Nat) : (layout r).filled? n = some (layout (r.filled n)) := by
  obtain ⟨held, stale, discard, dropped⟩ := r
  -- What arrives is the beginning of the free space.
  obtain ⟨arrived, later, hstale, harrived, hlater⟩ :
      ∃ arrived later, stale = arrived ++ later ∧ stale.take n = arrived ∧ stale.drop n = later :=
    ⟨_, _, (List.take_append_drop n stale).symm, rfl, rfl⟩
  have hused : min (held.length + n) (held ++ stale).length = held.length + arrived.length := by
    rw [← harrived, List.length_append, List.length_take]
    omega
  simp only [ArrayReader.filled?, PacketReader.filled, layout, hused, harrived, hlater]
  by_cases hskipping : 0 < discard
  · -- What is skipped of it is a gap, which the bytes behind it close.
    generalize hskipped : min discard arrived.length = skipped
    have hcopy := copyWithin?_append held (arrived.take skipped) (arrived.drop skipped) later
    have hgap : (arrived.take skipped).length = skipped := by
      rw [List.length_take]
      omega
    have hend : held.length + skipped + (arrived.length - skipped) =
        held.length + arrived.length := by omega
    rw [← List.append_assoc (arrived.take skipped), List.take_append_drop, ← hstale, hgap,
      List.length_drop, hend] at hcopy
    have hleft : held.length + arrived.length - skipped =
        (held ++ arrived.drop skipped).length := by
      rw [List.length_append, List.length_drop]
      omega
    rw [if_pos hskipping, minus?_of_le (Nat.le_add_right _ _), Nat.add_sub_cancel_left,
      Option.bind_eq_bind, Option.bind_some, hskipped, hcopy, minus?_of_le (by omega), hleft,
      minus?_of_le (by omega), List.append_assoc]
    rfl
  · obtain rfl : discard = 0 := Nat.eq_zero_of_not_pos hskipping
    rw [if_neg hskipping, Nat.zero_min, List.drop_zero, Nat.sub_zero, List.drop_length,
      List.nil_append, List.append_assoc, hstale, List.length_append]

/-- No more is removed than is in use, so what moves up is a range that does not run backwards. -/
theorem consume?_layout (n : Nat) : (layout r).consume? n = some (layout (r.consume n)) := by
  obtain ⟨held, stale, discard, dropped⟩ := r
  have hcopy := copyWithin?_append [] (held.take n) (held.drop n) stale
  rw [← List.append_assoc (held.take n), List.take_append_drop] at hcopy
  simp only [List.nil_append, List.length_nil, Nat.zero_add, List.length_take,
    List.length_drop] at hcopy
  have hend : min n held.length + (held.length - n) = held.length := by omega
  have hleft : held.length - min n held.length = (held.drop n).length := by
    rw [List.length_drop]
    omega
  rw [hend] at hcopy
  simp only [ArrayReader.consume?, PacketReader.consume, layout]
  rw [hcopy, minus?_of_le (by omega), hleft]
  rfl

/-- The header and the length field are looked at only in the bytes in use. -/
theorem announced?_layout : (layout r).announced? = some r.announced? := by
  obtain ⟨held, stale, discard, dropped⟩ := r
  match held with
  | [] => rfl
  | [header] => rfl
  | header :: first :: rest =>
    have hfield := slice?_append [header] (first :: rest) stale
    rw [List.length_singleton, Nat.add_comm] at hfield
    have hlong : ¬ (first :: rest).length + 1 < 2 := by simp
    show (if (first :: rest).length + 1 < 2 then _
      else (slice? ([header] ++ (first :: rest ++ stale)) 1
        ((first :: rest).length + 1)).bind _) = _
    rw [if_neg hlong, hfield, Option.bind_some, PacketReader.announced?]
    -- Both look at the same bytes now.
    dsimp only
    rcases RemainingLength.read? (first :: rest) with e | ⟨remaining, size⟩
    · cases e <;> rfl
    · rfl

/-- A packet that is dropped is longer than the array, and so than what is in use: what is left of
it to skip does not come out below zero. -/
theorem frame?_layout : (layout r).frame? = some (r.frame?.1, layout r.frame?.2) := by
  have hle := held_length_le_capacity r
  rw [ArrayReader.frame?, announced?_layout, Option.bind_eq_bind, Option.bind_some,
    PacketReader.frame?]
  rcases r.announced? with e | (_ | total)
  · rfl
  · rfl
  · dsimp only
    rw [length_buffer_layout]
    split
    · rename_i hlarge
      have hdiscard : minus? total (layout r).used = some (total - r.held.length) :=
        minus?_of_le (Nat.le_of_lt (Nat.lt_of_le_of_lt hle hlarge))
      rw [hdiscard]
      rfl
    · show some (Except.ok (if total ≤ r.held.length then some total else none), layout r) = _
      split <;> rfl

/-- Every call on the array gives the layout of what it gives on the lists. -/
theorem perform?_layout (call : ReaderCall) :
    (layout r).perform? call = some (layout (performCall r call)) := by
  cases call with
  | write bytes => exact write?_layout r bytes
  | filled n => exact filled?_layout r n
  | frame =>
    rw [ArrayReader.perform?, frame?_layout]
    rfl
  | consume n => exact consume?_layout r n
  | clear => rfl

end

/-- A sequence of calls on the array gives the layout of what it gives on the lists, by induction on
it. No call has to be one that the reader has asked for. -/
theorem run?_layout (calls : List ReaderCall) :
    ∀ r, (layout r).run? calls = some (layout (afterCalls r calls)) := by
  induction calls with
  | nil => exact fun r => rfl
  | cons call calls ih =>
    intro r
    rw [ArrayReader.run?, List.foldlM_cons, perform?_layout]
    exact ih (performCall r call)

/-! ### Bounds -/

/-- Looking for a packet leaves the size as it is. -/
theorem capacity_frame (r : PacketReader) : r.frame?.2.capacity = r.capacity := by
  rw [PacketReader.frame?]
  split
  · rfl
  · rfl
  · split
    · exact capacity_clear r
    · split <;> rfl

/-- A packet is being skipped only while nothing is held. Then the bytes that are taken into use
next are the first ones. -/
def Skips (r : PacketReader) : Prop := r.discard ≠ 0 → r.held = []

/-- A packet that is not yet skipped to its end swallows all that comes in. -/
theorem skips_filled {r : PacketReader} (h : Skips r) (n : Nat) : Skips (r.filled n) := by
  intro hdiscard
  -- It goes on, so nothing that arrives is left over.
  have hall : (r.stale.take n).length < r.discard := by
    simp only [PacketReader.filled] at hdiscard
    omega
  simp only [PacketReader.filled]
  rw [h (by omega), Nat.min_eq_right (Nat.le_of_lt hall), List.drop_length, List.append_nil]

/-- Looking for a packet starts to skip one only as it drops what is held of it. -/
theorem skips_frame {r : PacketReader} (h : Skips r) : Skips r.frame?.2 := by
  rw [PacketReader.frame?]
  split
  · exact h
  · exact h
  · split
    · exact fun _ => rfl
    · split <;> exact h

/-- What holds of a reader after any calls. The size is kept by each of them, and a skip begins with
nothing held and ends before anything is. -/
theorem bounds_after (capacity : Nat) (calls : List ReaderCall) :
    let r := afterCalls (.new capacity) calls
    r.capacity = capacity ∧ Skips r := by
  -- The calls go on from any reader of this kind, and a new one is of it.
  suffices h : ∀ r : PacketReader, r.capacity = capacity → Skips r →
      (afterCalls r calls).capacity = capacity ∧ Skips (afterCalls r calls) from
    h _ (by simp [PacketReader.new, PacketReader.capacity]) fun _ => rfl
  induction calls with
  | nil => exact fun r hcapacity hskips => ⟨hcapacity, hskips⟩
  | cons call calls ih =>
    intro r hcapacity hskips
    refine ih (performCall r call) ?_ ?_
    · rw [← hcapacity]
      cases call with
      | write bytes => exact capacity_write r bytes
      | filled n => exact capacity_filled r n
      | frame => exact capacity_frame r
      | consume n => exact capacity_consume r n
      | clear => exact capacity_clear r
    · cases call with
      | write bytes => exact hskips
      | filled n => exact skips_filled hskips n
      | frame => exact skips_frame hskips
      | consume n =>
        intro hdiscard
        show r.held.drop n = []
        rw [hskips hdiscard, List.drop_nil]
      | clear => exact fun _ => rfl

/-- Where no packet is complete there is room for more. With five bytes in use the length of the
packet in front is known, and one that the reader cannot hold has been dropped. -/
theorem spare_pos_of_frame {r reader : PacketReader} (hcapacity : 5 ≤ r.capacity)
    (hframe : r.frame? = (.ok none, reader)) : 0 < reader.spare := by
  obtain ⟨hsame, hidle⟩ := idle_of_frame hframe
  exact spare_pos_of_idle hidle (hsame ▸ hcapacity)

/-! ### The session's reads -/

/-- For how many bytes a read has room. -/
def roomOf? : Happening → Option Nat
  | .asked (.read room) => some room
  | .answered (.read room) _ => some room
  | _ => none

/-- What a stream may bring to a read: no more than there is room for, and nothing only if there is
no room or the stream has ended. -/
def Brings (room : Nat) (ended : Bool) (bytes : List UInt8) : Prop :=
  bytes.length ≤ room ∧ (bytes = [] → room = 0 ∨ ended = true)

/-- Every read has room for a byte. -/
def Roomy (past : List Entry) : Prop := ∀ e ∈ past, ∀ room, roomOf? e.what = some room → 0 < room

/-- One more entry, with room if it is a read. -/
theorem Roomy.cons {e : Entry} {past : List Entry} (h : Roomy past)
    (hroom : ∀ room, roomOf? e.what = some room → 0 < room) : Roomy (e :: past) :=
  List.forall_mem_cons.mpr ⟨hroom, h⟩

/-- Only the session reads. -/
theorem roomOf?_of_aside {what : Happening} (h : bySession what = false) :
    roomOf? what = none := by
  cases what <;> first | rfl | cases h

/-- Nothing has been read yet. -/
theorem roomy_nil : Roomy [] := fun _ he => nomatch he

/-- What the others do adds no read, so every read still has room. -/
theorem Roomy.aside {x y : Exchange} (haside : Aside x y) (h : Roomy x.journal) :
    Roomy y.journal := by
  refine haside.keeps (P := Roomy) (fun e past hother hpast => hpast.cons ?_) h
  intro room hroom
  rw [roomOf?_of_aside hother] at hroom
  cases hroom

section
variable {now : Micros} {p q : Point} {s t : Session}

/-- There is room while the session waits for bytes. -/
theorem Synced.spare_pos {purpose : Purpose} {timer : Timer} (h : Synced .waiting s)
    (hphase : s.phase = .reading purpose timer) : 0 < s.inbound.spare :=
  spare_pos_of_idle (h.rested purpose timer hphase) (by rw [h.delivered.capacity_eq]; decide)

/-- The answer to a read is noted with the room that the reader still has, since nothing was put
into it in between. -/
theorem Roomy.answered {purpose : Purpose} {timer : Timer} (h : Roomy s.exchange.journal)
    (hsynced : Synced .waiting s) (hphase : s.phase = .reading purpose timer) (reply : Reply) :
    Roomy (⟨now, .answered (.read s.inbound.spare) reply⟩ :: s.exchange.journal) := by
  refine h.cons ?_
  rintro _ ⟨⟩
  exact hsynced.spare_pos hphase

/-- What a move keeps of the reader and of the state of the session together. -/
theorem Move.synced (move : Move now p s q t) (h : Synced p s) : Synced q t :=
  ⟨move.controlled h.controlled, move.delivered h.controlled h.delivered, move.rested h.rested⟩

/-- A read begins only where no packet is complete, and what ends it comes to a session that waits
for bytes. In both places there is room. -/
theorem Move.roomy (move : Move now p s q t) (hsynced : Synced p s)
    (h : Roomy s.exchange.journal) : Roomy t.exchange.journal := by
  cases move with
  | hungry hframe =>
    refine h.cons ?_
    rintro _ ⟨⟩
    exact spare_pos_of_frame (by rw [hsynced.delivered.capacity_eq]; decide) hframe
  | received hphase hbytes => exact h.answered hsynced hphase _
  | readEnded hphase => exact h.answered hsynced hphase _
  | readFailed hphase => exact h.answered hsynced hphase _
  | expired hphase hdue => exact h.answered hsynced hphase _
  | requested hphase hrequest => exact (h.answered hsynced hphase _).cons nofun
  | skip hframe hpacket hfault => exact Roomy.cons (h.cons nofun) nofun
  | apply hframe hpacket =>
    obtain ⟨packet, hjournal, -⟩ := interpret_eq hpacket
    rw [hjournal]
    exact Roomy.cons (h.cons nofun) nofun
  -- All others note nothing about a read.
  | _ => first
    | exact h
    | exact h.cons nofun

end

/-- In every run each read has room for a byte, so one that brings nothing tells of a stream that
has ended and not of a full reader. -/
theorem roomy_run (config : SessionConfig) (ackTimeout now : Micros) (turns : List Turn) :
    Roomy ((System.boot config ackTimeout now).run turns).journal := by
  have h : Synced .waiting ((System.boot config ackTimeout now).run turns).session ∧
      Roomy ((System.boot config ackTimeout now).run turns).session.exchange.journal :=
    System.invariant (P := fun p s => Synced p s ∧ Roomy s.exchange.journal)
      ⟨synced_start config now, Roomy.cons roomy_nil nofun⟩
      (fun move h => ⟨move.synced h.1, move.roomy h.1 h.2⟩)
      (fun haside h => ⟨h.1.aside haside, h.2.aside haside⟩)
      (fun h => ⟨h.1.yield, (yield_exchange _).symm ▸ h.2⟩) turns
  exact h.2

/-- The bounds of the packet reader.

1. After any calls in any order on a new reader, with any numbers, no index, copy or difference
   has gone out of range, and none does in the next call or answer. No more bytes are in use than
   the array has, and none at all while a packet is being skipped. An array of five bytes or more
   has free space whenever no packet is complete.
2. Whatever the broker, the transport and the other tasks do, the session never reads without room
   for a byte. A read that brings nothing tells it that the stream has ended. -/
theorem reader_bounds :
    (∀ capacity calls,
      let r := afterCalls (.new capacity) calls
      (ArrayReader.new capacity).run? calls = some (layout r) ∧
      (layout r).buffer.length = capacity ∧ r.buffered ≤ capacity ∧
      (r.discard ≠ 0 → r.buffered = 0) ∧
      (layout r).spare? = some r.stale ∧ (∀ n, (layout r).packet? n = some (r.packet n)) ∧
      (layout r).frame? = some (r.frame?.1, layout r.frame?.2) ∧
      (5 ≤ capacity → r.frame?.1 = .ok none → 0 < r.frame?.2.spare)) ∧
    ∀ config ackTimeout now turns,
      ∀ e ∈ ((System.boot config ackTimeout now).run turns).journal, ∀ room,
        roomOf? e.what = some room →
          0 < room ∧ ∀ ended bytes, Brings room ended bytes → bytes = [] → ended = true := by
  constructor
  · intro capacity calls r
    obtain ⟨hcapacity, hskips⟩ : r.capacity = capacity ∧ Skips r := bounds_after capacity calls
    have hrun : (ArrayReader.new capacity).run? calls = some (layout r) := by
      rw [← layout_new]
      exact run?_layout calls (.new capacity)
    refine ⟨hrun, (length_buffer_layout r).trans hcapacity, ?_, ?_, spare?_layout r,
      packet?_layout r, frame?_layout r, ?_⟩
    · exact hcapacity ▸ held_length_le_capacity r
    · intro hdiscard
      exact List.length_eq_zero_iff.mpr (hskips hdiscard)
    · intro hfive hnone
      exact spare_pos_of_frame (r := r) (hcapacity ▸ hfive) (Prod.ext hnone rfl)
  · intro config ackTimeout now turns e he room hroom
    -- A read with room that brings nothing cannot have been for want of room.
    have hpos : 0 < room := roomy_run config ackTimeout now turns e he room hroom
    refine ⟨hpos, fun ended bytes hbrings hnone => ?_⟩
    exact (hbrings.2 hnone).resolve_left (Nat.ne_of_gt hpos)

/-- Four bytes would not do. A length field of four bytes does not fit behind the header. -/
example :
    let r := afterCalls (.new 4) [.write [0x30, 0x80, 0x80, 0x80], .filled 4]
    r.frame?.1 = .ok none ∧ r.frame?.2.spare = 0 := ⟨rfl, rfl⟩

end WeatherStation.Proofs.Mqtt
