import WeatherStation.Mqtt.Inbound
import WeatherStation.Proofs.Mqtt.ReaderTracking

/-!
# `WeatherStation.Proofs.Mqtt.PacketStream`: a whole stream through the packet reader

`feed` pushes a stream through a new reader in pieces. What does not fit the free space of a
piece is continued in the next fill, and after every fill every complete packet is taken out
(`drain`). It stops using the reader at the first error.

`feed_outcome` says what comes out: the packets of the stream that fit the buffer, in order,
with the number of those that do not, and an error where the length field of a packet is
broken. `expected` computes that from the split of the whole stream and knows neither reader
nor pieces, so the way the stream is cut does not matter.

A capacity of five bytes is what the reader needs: a header byte and a length field always
fit, so that there is free space whenever no packet can be taken (`spare_pos_of_idle`).
-/

set_option autoImplicit false

namespace WeatherStation.Proofs.Mqtt

open WeatherStation.Mqtt

/-! ### Pieces through a reader -/

/-- Take every complete packet out of a reader: the packets, the error that ended it if there
was one, and the reader after it. -/
def drain (r : PacketReader) : List (List UInt8) × Option PacketError × PacketReader :=
  match _h : r.frame? with
  | (.error e, reader) => ([], some e, reader)
  | (.ok none, reader) => ([], none, reader)
  | (.ok (some n), reader) =>
    let (packets, rest) := drain (reader.consume n)
    (reader.packet n :: packets, rest)
termination_by r.held.length
decreasing_by exact PacketReader.length_consume_lt _h

/-- A stream on its way through a reader. -/
structure Feeding where
  reader : PacketReader
  /-- Packets handed out, first one first. -/
  handed : List (List UInt8) := []
  /-- The error that ended it. -/
  error : Option PacketError := none
  /-- Bytes that came after the error. -/
  unread : List UInt8 := []

/-- Bytes into the free space, and every complete packet out. -/
def Feeding.fill (f : Feeding) (bytes : List UInt8) : Feeding :=
  let (packets, error, reader) := drain (f.reader.fill bytes)
  { f with reader, handed := f.handed ++ packets, error }

/-- Push one piece, in as many fills as it takes. Without free space nothing moves. -/
def Feeding.push (f : Feeding) (piece : List UInt8) : Feeding :=
  if _h : f.error.isSome ∨ f.reader.spare = 0 then { f with unread := f.unread ++ piece }
  else if _hp : piece = [] then f
  else (f.fill (piece.take f.reader.spare)).push (piece.drop f.reader.spare)
termination_by piece.length
decreasing_by
  have hpos := List.length_pos_iff.mpr _hp
  rw [List.length_drop]
  omega

/-- Push the pieces of a stream through a new reader. -/
def feed (capacity : Nat) (pieces : List (List UInt8)) : Feeding :=
  pieces.foldl Feeding.push { reader := .new capacity }

/-! ### What is to come out -/

/-- What a stream leads to. -/
structure Outcome where
  handed : List (List UInt8)
  error : Option PacketError
  dropped : UInt32
  /-- Bytes that belong to no packet yet. -/
  waiting : List UInt8
  /-- Bytes still to come of a packet that is being skipped. -/
  missing : Nat
  deriving DecidableEq, Repr

/-- What came out of a reader. -/
def Feeding.outcome (f : Feeding) : Outcome where
  handed := f.handed
  error := f.error
  dropped := f.reader.dropped
  waiting := f.reader.held ++ f.unread
  missing := f.reader.discard

/-- How many bytes are still to come of a packet in front that a buffer cannot hold. -/
def overdue (capacity : Nat) (rest : List UInt8) : Nat :=
  match front rest with
  | .packet total => if capacity < total then total - rest.length else 0
  | _ => 0

/-- What comes out of a reader of some capacity, from the split of the stream. A packet that is
too large is counted as soon as its length is known, whether or not it is complete. -/
def expected (capacity : Nat) (stream : List UInt8) : Outcome :=
  let (packets, rest) := split stream
  let missing := overdue capacity rest
  { handed := packets.filter (fits capacity)
    error := if front rest = .broken then some .invalidLength else none
    dropped := UInt32.ofNat (packets.countP (exceeds capacity) + if missing = 0 then 0 else 1)
    waiting := if missing = 0 then rest else []
    missing }

/-! ### Why it does -/

/-- Where no packet can be taken there is free space. -/
theorem spare_pos_of_idle {r : PacketReader} (h : Idle r) (hcapacity : 5 ≤ r.capacity) :
    0 < r.spare := by
  have hsum : r.capacity = r.held.length + r.spare := rfl
  rcases h with hshort | ⟨total, -, hlt, hle⟩
  · have hlen := length_lt_of_short hshort
    omega
  · omega

/-- How a reader is left when no more packets are taken: with nothing to take, or with a broken
length field in front. -/
def Spent (error : Option PacketError) (r : PacketReader) : Prop :=
  error = none ∧ Idle r ∨ error = some .invalidLength ∧ front r.held = .broken

/-- Draining hands out packets in the order in which they stand in the stream. -/
theorem follows_drain {base : UInt32} {stream : List UInt8} {handed : List (List UInt8)}
    {r : PacketReader} (h : Follows base stream handed r) :
    Follows base stream (handed ++ (drain r).1) (drain r).2.2 ∧
      (drain r).2.2.capacity = r.capacity ∧ Spent (drain r).2.1 (drain r).2.2 := by
  -- Each packet that is taken is one more that was handed out, so `handed` grows on the way.
  fun_induction drain r generalizing handed with
  | case1 r e reader hframe =>
    obtain ⟨rfl, rfl, hbroken⟩ := front_of_error hframe
    rw [List.append_nil]
    exact ⟨h, rfl, .inr ⟨rfl, hbroken⟩⟩
  | case2 r reader hframe =>
    obtain ⟨hcapacity, hidle⟩ := idle_of_frame hframe
    rw [List.append_nil]
    exact ⟨follows_frame h hframe, hcapacity, .inl ⟨rfl, hidle⟩⟩
  | case3 r n reader hframe packets rest hdrain ih =>
    obtain ⟨hfollows, hcapacity, hspent⟩ := ih (follows_consume h hframe)
    obtain ⟨rfl, -⟩ := front_of_frame hframe
    rw [hdrain] at hfollows hcapacity hspent
    refine ⟨?_, ?_, hspent⟩
    · rw [List.append_assoc, List.singleton_append] at hfollows
      exact hfollows
    · rw [hcapacity, capacity_consume]

/-- A reader that was given the stream up to the unread bytes and has nothing more to hand
out. -/
structure Reads (capacity : Nat) (stream : List UInt8) (f : Feeding) : Prop where
  capacity_eq : f.reader.capacity = capacity
  follows : ∃ read, Follows 0 read f.handed f.reader ∧ read ++ f.unread = stream
  spent : Spent f.error f.reader
  unread_eq : f.error = none → f.unread = []

/-- A new reader has read nothing. -/
theorem reads_new (capacity : Nat) : Reads capacity [] { reader := .new capacity } where
  capacity_eq := by simp [PacketReader.new, PacketReader.capacity]
  follows := ⟨[], follows_new capacity, rfl⟩
  spent := .inl ⟨rfl, .inl rfl⟩
  unread_eq _ := rfl

/-- A fill of a reader that is not stopped moves its bytes into the stream. -/
theorem reads_fill {capacity : Nat} {stream : List UInt8} {f : Feeding}
    (h : Reads capacity stream f) (herror : f.error = none) (bytes : List UInt8) :
    Reads capacity (stream ++ bytes.take f.reader.spare) (f.fill bytes) := by
  obtain ⟨read, hfollows, hread⟩ := h.follows
  rw [h.unread_eq herror, List.append_nil] at hread
  obtain ⟨hfollows', hcapacity', hspent'⟩ := follows_drain (follows_fill hfollows bytes)
  exact
    { capacity_eq := by
        show (drain (f.reader.fill bytes)).2.2.capacity = capacity
        rw [hcapacity', capacity_fill, h.capacity_eq]
      follows := ⟨_, hfollows', by
        show read ++ bytes.take f.reader.spare ++ f.unread = _
        rw [h.unread_eq herror, List.append_nil, hread]⟩
      spent := hspent'
      unread_eq := fun _ => h.unread_eq herror }

/-- A piece is moved as a whole, or left as a whole behind an error. -/
theorem reads_push {capacity : Nat} (hcapacity : 5 ≤ capacity) {stream : List UInt8} {f : Feeding}
    (h : Reads capacity stream f) (piece : List UInt8) :
    Reads capacity (stream ++ piece) (f.push piece) := by
  fun_induction Feeding.push f piece generalizing stream with
  | case1 f piece hstop =>
    obtain ⟨read, hfollows, hread⟩ := h.follows
    refine ⟨h.capacity_eq, ⟨read, hfollows, ?_⟩, h.spent, fun herror => ?_⟩
    · rw [← List.append_assoc, hread]
    · -- Without an error there is free space, so that only an error stops.
      exfalso
      rcases h.spent with ⟨-, hidle⟩ | ⟨hsome, -⟩
      · have hpos := spare_pos_of_idle hidle (by rw [h.capacity_eq]; exact hcapacity)
        rcases hstop with hsome | hzero
        · rw [show f.error = none from herror] at hsome
          cases hsome
        · omega
      · rw [show f.error = none from herror] at hsome
        cases hsome
  | case2 f hgo =>
    rw [List.append_nil]
    exact h
  | case3 f piece hgo hpiece ih =>
    have herror : f.error = none := by
      cases hf : f.error with
      | none => rfl
      | some e => exact absurd (.inl (by rw [hf]; rfl)) hgo
    -- The part for which there is space is moved now, the rest in the next fills.
    have hfill := reads_fill h herror (piece.take f.reader.spare)
    rw [List.take_take, Nat.min_self] at hfill
    have hrest := ih hfill
    rw [List.append_assoc, List.take_append_drop] at hrest
    exact hrest

/-- Pieces are moved one after the other. -/
theorem reads_foldl {capacity : Nat} (hcapacity : 5 ≤ capacity) (pieces : List (List UInt8)) :
    ∀ (stream : List UInt8) (f : Feeding), Reads capacity stream f →
      Reads capacity (stream ++ pieces.flatten) (pieces.foldl Feeding.push f) := by
  induction pieces with
  | nil =>
    intro stream f h
    rw [List.flatten_nil, List.append_nil]
    exact h
  | cons piece pieces ih =>
    intro stream f h
    rw [List.foldl_cons, List.flatten_cons, ← List.append_assoc]
    exact ih _ _ (reads_push hcapacity h piece)

/-- A packet that is being skipped is what is overdue of the rest, and nothing is overdue of a
rest that a reader holds. -/
theorem overdue_of_idle {base : UInt32} {packets : List (List UInt8)} {tail : List UInt8}
    {r : PacketReader} (h : Tracks base packets tail r) (hidle : Idle r) :
    overdue r.capacity tail = r.discard ∧
      r.held = if overdue r.capacity tail = 0 then tail else [] := by
  rcases h.place with ⟨hzero, hheld⟩ | ⟨hpos, hheld, hlarge, hfront⟩
  · -- The tail is held, and an idle reader holds nothing that is too large for it.
    have hnone : overdue r.capacity tail = 0 := by
      rw [overdue]
      rcases hidle with hshort | ⟨total, hpacket, -, hle⟩
      · rw [← hheld, hshort]
      · simp [← hheld, hpacket, Nat.not_lt.mpr hle]
    rw [hnone, hzero, hheld]
    exact ⟨rfl, rfl⟩
  · have hsome : overdue r.capacity tail = r.discard := by
      simp [overdue, hfront, hlarge]
    rw [hsome, hheld, if_neg (by omega)]
    exact ⟨rfl, rfl⟩

/-- The front of the rest behind a reader that has nothing to take is not broken. -/
theorem front_ne_broken_of_idle {base : UInt32} {packets : List (List UInt8)}
    {tail : List UInt8} {r : PacketReader} (h : Tracks base packets tail r) (hidle : Idle r) :
    front tail ≠ .broken := by
  intro hbroken
  rcases h.place with ⟨-, hheld⟩ | ⟨-, -, -, hfront⟩
  · rw [Idle, hheld, hbroken] at hidle
    rcases hidle with hshort | ⟨total, hpacket, -⟩
    · cases hshort
    · cases hpacket
  · rw [hbroken] at hfront
    cases hfront

/-- What came out of a reader that has nothing more to hand out is what the split says. -/
theorem outcome_of_reads {capacity : Nat} {stream : List UInt8} {f : Feeding}
    (h : Reads capacity stream f) : f.outcome = expected capacity stream := by
  obtain ⟨read, hfollows, hread⟩ := h.follows
  have hcapacity := h.capacity_eq
  rcases h.spent with ⟨herror, hidle⟩ | ⟨herror, hbroken⟩
  · -- The reader was given the whole stream, and its tail is the rest of the split.
    have hunread := h.unread_eq herror
    rw [hunread, List.append_nil] at hread
    obtain ⟨packets, tail, htracks, hsplit, hhanded⟩ := split_of_idle hfollows hidle
    obtain ⟨hmissing, hheld⟩ := overdue_of_idle htracks hidle
    have hnot := front_ne_broken_of_idle htracks hidle
    have hcounted := htracks.counted
    rw [oversized, ← hmissing, hcapacity, UInt32.zero_add] at hcounted
    rw [hcapacity] at hmissing hheld hhanded
    simp only [expected, ← hread, hsplit, Feeding.outcome, hhanded, herror, if_neg hnot, hcounted,
      hunread, List.append_nil, hheld, hmissing]
  · -- The error stands in front of the rest, whatever came after it.
    obtain ⟨packets, tail, htracks, hpackets, hhanded⟩ := hfollows
    rcases htracks.place with ⟨hdiscard, hheld⟩ | ⟨-, hheld, -⟩
    · have hrest : front (tail ++ f.unread) = .broken := by
        rw [hheld] at hbroken
        rw [front_append _ (by rw [hbroken]; exact Front.noConfusion), hbroken]
      have hsplit : split stream = (packets, tail ++ f.unread) := by
        rw [← hread, ← hpackets, List.append_assoc]
        refine split_eq _ _ htracks.arePackets fun total hpacket => ?_
        rw [hrest] at hpacket
        cases hpacket
      have hmissing : overdue capacity (tail ++ f.unread) = 0 := by rw [overdue, hrest]
      have hcounted := htracks.counted
      rw [oversized, hdiscard, hcapacity, UInt32.zero_add] at hcounted
      rw [hcapacity] at hhanded
      simp only [expected, hsplit, Feeding.outcome, hhanded, herror, hrest, if_true, hcounted,
        hheld, hmissing, hdiscard]
    · rw [hheld] at hbroken
      cases hbroken

/-- Behind a broken length field no packet is taken, whatever is filled in. -/
theorem drain_fill_of_broken {r : PacketReader} (hbroken : front r.held = .broken)
    (bytes : List UInt8) :
    drain (r.fill bytes) = ([], some .invalidLength, r.fill bytes) := by
  have hfront : front (r.fill bytes).held = .broken := by
    rw [held_fill, front_append _ (by rw [hbroken]; exact Front.noConfusion), hbroken]
  have hframe : (r.fill bytes).frame? = (.error .invalidLength, r.fill bytes) := by
    rw [frame?_eq, hfront]
  rw [drain]
  split
  · rename_i e reader he
    rw [hframe] at he
    cases he
    rfl
  · rename_i he
    rw [hframe] at he
    cases he
  · rename_i he
    rw [hframe] at he
    cases he

/-- A stream that is pushed through a reader of at least five bytes comes out as its split
says, whatever the pieces are: every packet that fits is handed out once and in order, every
other packet is counted and skipped to its last byte, and a broken length field is reported
where it stands. Other pieces of the same stream give the same outcome. After an error more
bytes bring no packet. -/
theorem feed_outcome (capacity : Nat) (hcapacity : 5 ≤ capacity) (pieces : List (List UInt8)) :
    (feed capacity pieces).outcome = expected capacity pieces.flatten ∧
      (∀ others : List (List UInt8), others.flatten = pieces.flatten →
        (feed capacity others).outcome = (feed capacity pieces).outcome) ∧
      ((feed capacity pieces).error ≠ none → ∀ bytes,
        drain ((feed capacity pieces).reader.fill bytes) =
          ([], some .invalidLength, (feed capacity pieces).reader.fill bytes)) := by
  have hreads (ps : List (List UInt8)) : Reads capacity ps.flatten (feed capacity ps) :=
    reads_foldl hcapacity ps [] _ (reads_new capacity)
  refine ⟨outcome_of_reads (hreads pieces), ?_, ?_⟩
  · intro others hothers
    rw [outcome_of_reads (hreads others), outcome_of_reads (hreads pieces), hothers]
  · intro herror bytes
    rcases (hreads pieces).spent with ⟨hnone, -⟩ | ⟨-, hbroken⟩
    · exact absurd hnone herror
    · exact drain_fill_of_broken hbroken bytes

/-- Five bytes of space, and a stream of a PINGRESP, a PUBLISH of six bytes, a PUBACK and a
packet whose length field is broken, cut inside header, length, body and skipped tail. -/
theorem feed_outcome_five :
    5 ≤ 5 ∧
      (feed 5 [[0xD0], [0, 0x30, 4, 1], [2, 3, 4, 0x40, 2, 0, 7, 0x20, 0xFF],
        [0xFF, 0xFF, 0x80, 1, 2]]).outcome =
          { handed := [[0xD0, 0], [0x40, 2, 0, 7]]
            error := some .invalidLength
            dropped := 1
            waiting := [0x20, 0xFF, 0xFF, 0xFF, 0x80, 1, 2]
            missing := 0 } :=
  ⟨by decide, (feed_outcome 5 (by decide) _).1.trans (by decide +kernel)⟩

end WeatherStation.Proofs.Mqtt
