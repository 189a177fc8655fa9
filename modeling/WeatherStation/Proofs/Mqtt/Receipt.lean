import WeatherStation.Proofs.Mqtt.Transmission

/-!
# `WeatherStation.Proofs.Mqtt.Receipt`: every message is acknowledged once and in order

A message of quality of service 1 asks for a PUBACK with its id. `demands` lists the ids of the
messages that were interpreted, `receipts` the ids of the PUBACKs that were written, both from a
part of a journal. `connections` cuts a journal at every dial.

The proof has two halves, one about each step and one about a whole connection.

* `prompt_run`: a PUBACK is given to the transport exactly when the entry right before it is a
  message that asks for it, and none is owed when a turn ends. The invariant of the session is
  `Owes`, its step lemma `Move.owes`.
* `accounted_of_prompt`: on a journal that is prompt and orderly the two lists agree. What the
  wire tells about the last write (`Present`) carries the induction: bytes are given to the
  transport only after those before them were written.

`receipts_law` puts them together for every run.
-/

set_option autoImplicit false

namespace WeatherStation.Proofs.Mqtt

open WeatherStation.Mqtt

/-! ### Messages and their PUBACKs -/

/-- The id by which a packet asks to be acknowledged. Only a message of quality of service 1 asks
for it. -/
def asksFor : Packet → Option UInt16
  | .publish message =>
    match message.delivery with
    | .atLeastOnce id => some id
    | _ => none
  | _ => none

/-- The id that the bytes of a PUBACK hold. -/
def receiptOf : List UInt8 → Option UInt16
  | [header, length, high, low] =>
    if header = 0x40 ∧ length = 2 then some (UInt16.ofNat (high.toNat * 256 + low.toNat)) else none
  | _ => none

/-- A PUBACK is four bytes, and the last two are its id. -/
theorem encode_puback (id : UInt16) :
    (Packet.puback id).encode = [(0x40 : UInt8), 2, (id >>> 8).toUInt8, id.toUInt8] := by
  rw [Packet.encode, RemainingLength.encode]
  rfl

/-- The bytes in which an id is found are those of its PUBACK. -/
theorem receiptOf_eq_some {bytes : List UInt8} {id : UInt16} :
    receiptOf bytes = some id ↔ bytes = (Packet.puback id).encode := by
  rw [encode_puback]
  obtain ⟨hhigh, hlow⟩ := toNat_bytes id
  constructor
  · intro h
    unfold receiptOf at h
    split at h
    · rename_i header length high low
      split at h
      · rename_i hheader
        obtain ⟨rfl, rfl⟩ := hheader
        have hword : high.toNat * 256 + low.toNat = id.toNat := by
          have := high.toNat_lt
          have := low.toNat_lt
          rw [← Option.some.inj h, UInt16.toNat_ofNat']
          omega
        have := low.toNat_lt
        rw [UInt8.toNat_inj.mp (show high.toNat = (id >>> 8).toUInt8.toNat by omega),
          UInt8.toNat_inj.mp (show low.toNat = id.toUInt8.toNat by omega)]
      · cases h
    · cases h
  · rintro rfl
    have hid := id.toNat_lt
    rw [receiptOf, if_pos ⟨rfl, rfl⟩, hhigh, hlow, Nat.div_add_mod' id.toNat 256,
      UInt16.ofNat_toNat]

/-- Whatever begins with another byte is not taken for a PUBACK. -/
theorem receiptOf_other {packet : Packet} (h : Encoding.header packet ≠ 0x40) :
    receiptOf packet.encode = none := by
  cases hreceipt : receiptOf packet.encode with
  | none => rfl
  | some id =>
    rw [receiptOf_eq_some, encode_puback] at hreceipt
    exact absurd (List.cons.inj hreceipt).1 h

/-- Of all packets only a PUBACK is taken for one. -/
theorem receiptOf_encode (packet : Packet) : receiptOf packet.encode = acknowledged packet := by
  cases packet with
  | puback id => exact receiptOf_eq_some.mpr rfl
  | publish message =>
    refine receiptOf_other fun hheader => ?_
    have htype := (isPublish_encode (.publish message)).mpr ⟨message, rfl⟩
    rw [Packet.encode, List.cons_append, hheader] at htype
    exact absurd htype Bool.false_ne_true
  | _ => exact receiptOf_other (by simp [Encoding.header])

/-- An id other than zero can be acknowledged. -/
theorem encodeWithin_puback {id : UInt16} (h : id ≠ 0) :
    (Packet.puback id).encodeWithin outboundCapacity = some (Packet.puback id).encode := by
  refine encodeWithin_of_le (fun hzero => h (Option.some.inj hzero)) ?_
  rw [encode_puback]
  exact (by decide : 4 ≤ 1024)

/-! ### The ids of decoded messages -/

/-- Whatever packet comes out does not ask to be acknowledged by the id zero. The encoder refuses a
PUBACK with that id, so such a message would stay without one. -/
def AsksWell (decoded : Except Fault Packet) : Prop :=
  ∀ packet, decoded = .ok packet → asksFor packet ≠ some 0

namespace AsksWell

/-- A packet that came out. -/
theorem ok {packet : Packet} (h : asksFor packet ≠ some 0) : AsksWell (.ok packet) := by
  rintro packet' ⟨⟩
  exact h

/-- Where nothing comes out nothing is asked for. -/
theorem error (fault : Fault) : AsksWell (.error fault) := nofun

/-- What a reader passes on is looked at only if it has a result. -/
theorem bind {α : Type} {x : Except Fault α} {f : α → Except Fault Packet}
    (h : ∀ a, x = .ok a → AsksWell (f a)) : AsksWell (x >>= f) := by
  cases x with
  | error fault => exact error fault
  | ok a => exact h a rfl

end AsksWell

/-- The reader of ids refuses zero, and that is the only reason for which no message has this id. -/
theorem id_ne_zero {bytes rest : List UInt8} {id : UInt16}
    (h : Decoding.id bytes = .ok (id, rest)) : id ≠ 0 := by
  rw [Decoding.id] at h
  cases hword : Decoding.word bytes with
  | error fault =>
    rw [hword] at h
    cases h
  | ok pair =>
    rw [hword] at h
    change (if pair.1 = 0 then Except.error Fault.rejected else .ok (pair.1, pair.2)) = _ at h
    split at h
    · cases h
    · rename_i hne
      obtain ⟨rfl, rfl⟩ := Prod.mk.inj (Except.ok.inj h)
      exact hne

/-- Of the packets that are an id and nothing else none asks for a PUBACK. -/
theorem asksWell_idOnly {make : UInt16 → Packet} (h : ∀ id, asksFor (make id) = none)
    (bytes : List UInt8) : AsksWell (Decoding.idOnly make bytes) := by
  refine .bind fun ⟨id, rest⟩ _ => .ok ?_
  rw [h]
  exact nofun

/-- A CONNECT asks for nothing. What is passed over in it makes many branches, and each of them ends
with the packet or with an error. -/
theorem asksWell_connect (bytes : List UInt8) : AsksWell (Decoding.connect bytes) := by
  unfold Decoding.connect
  repeat' first
    | exact .ok nofun
    | exact .error _
    | refine .bind fun _ _ => ?_
    | split

/-- A PUBLISH has its id from the reader of ids, if it has one. -/
theorem asksWell_publish (header : UInt8) (bytes : List UInt8) :
    AsksWell (Decoding.publish header bytes) := by
  refine .bind fun ⟨topic, rest⟩ _ => ?_
  dsimp only
  split
  · exact .error _
  · exact .ok nofun
  · refine .bind fun ⟨id, payload⟩ hid => .ok ?_
    intro hzero
    exact id_ne_zero hid (Option.some.inj hzero)
  · exact .bind fun ⟨id, payload⟩ _ => .ok nofun

/-- A CONNACK asks for nothing, whatever its two bytes are. -/
theorem asksWell_connack (bytes : List UInt8) : AsksWell (Decoding.connack bytes) := by
  refine .bind fun ⟨flags, rest⟩ _ => .bind fun ⟨code, rest⟩ _ => ?_
  dsimp only
  split
  · exact .error _
  · exact .ok nofun

/-- The type in the header byte picks one of these, or one of the packets without a body. -/
theorem asksWell_ofBody (header : UInt8) (body : List UInt8) :
    AsksWell (Decoding.ofBody header body) := by
  unfold Decoding.ofBody
  split
  · exact .error _
  · split
    · exact asksWell_connect _
    · exact asksWell_connack _
    · exact asksWell_publish _ _
    · exact asksWell_idOnly (fun _ => rfl) _
    · exact asksWell_idOnly (fun _ => rfl) _
    · exact asksWell_idOnly (fun _ => rfl) _
    · exact asksWell_idOnly (fun _ => rfl) _
    · exact .bind fun ⟨id, rest⟩ _ => .bind fun _ _ => .ok nofun
    · exact .bind fun ⟨id, rest⟩ _ => .bind fun _ _ => .ok nofun
    · exact .bind fun ⟨id, rest⟩ _ => .bind fun _ _ => .ok nofun
    · exact asksWell_idOnly (fun _ => rfl) _
    · exact .ok nofun
    · exact .ok nofun
    · exact .ok nofun
    · exact .error _

/-- No framed packet asks to be acknowledged by zero. Before its body is looked at there are only
errors. -/
theorem asksWell_decode (bytes : List UInt8) : AsksWell (Packet.decode bytes) := by
  unfold Packet.decode
  split
  · exact .error _
  · split
    · dsimp only
      split
      · exact .error _
      · exact asksWell_ofBody _ _
    · exact .error _
    · exact .error _

/-! ### What a journal tells -/

/-- The id that is asked for by what happens. -/
def demandOf : Happening → Option UInt16
  | .applied packet => asksFor packet
  | _ => none

/-- The id of the PUBACK that is given to the transport. -/
def begunReceipt : Happening → Option UInt16
  | .asked (.write bytes) => receiptOf bytes
  | _ => none

/-- The id of the PUBACK that the transport has written. -/
def doneReceipt : Happening → Option UInt16
  | .answered (.write bytes) (.written true) => receiptOf bytes
  | _ => none

/-- The bytes of a PUBACK are known from its id. -/
theorem of_begunReceipt {what : Happening} {id : UInt16} (h : begunReceipt what = some id) :
    what = .asked (.write (Packet.puback id).encode) := by
  unfold begunReceipt at h
  split at h
  · rw [receiptOf_eq_some.mp h]
  · cases h

/-- The ids of the messages that asked for a PUBACK, newest first. -/
def demands (entries : List Entry) : List UInt16 := entries.filterMap fun e => demandOf e.what

/-- The ids of the PUBACKs that were written, newest first. -/
def receipts (entries : List Entry) : List UInt16 := entries.filterMap fun e => doneReceipt e.what

/-- One more entry, which may have asked for a PUBACK. -/
theorem demands_cons (e : Entry) (entries : List Entry) :
    demands (e :: entries) = (demandOf e.what).toList ++ demands entries := by
  rw [demands, List.filterMap_cons]
  split <;> rename_i h <;> rw [h] <;> rfl

/-- One more entry, which may be the end of writing one. -/
theorem receipts_cons (e : Entry) (entries : List Entry) :
    receipts (e :: entries) = (doneReceipt e.what).toList ++ receipts entries := by
  rw [receipts, List.filterMap_cons]
  split <;> rename_i h <;> rw [h] <;> rfl

/-- The bytes that were last given to the transport, as long as it has not written them: it is
still busy with them, or it has failed. -/
def unwritten : List Entry → Option (List UInt8)
  | [] => none
  | e :: past =>
    match e.what with
    | .asked (.write bytes) => some bytes
    | .answered (.write _) (.written true) => none
    | _ => unwritten past

/-- The entries from each dial to the next one or to the end of the journal, the newest connection
first. -/
def connections : List Entry → List (List Entry)
  | [] => []
  | e :: past =>
    if dials e.what then [] :: connections past
    else match connections past with
      | [] => []
      | connection :: earlier => (e :: connection) :: earlier

/-- The id of the PUBACK that has to be given to the transport next. It is found by looking at the
last entry only, so a PUBACK that is put off would be lost. -/
def owed : List Entry → Option UInt16
  | [] => none
  | e :: _ => demandOf e.what

/-- What is owed was asked for by the entry right before. -/
theorem of_owed {past : List Entry} {id : UInt16} (h : owed past = some id) :
    ∃ time packet before,
      past = ⟨time, .applied packet⟩ :: before ∧ asksFor packet = some id := by
  cases past with
  | nil => cases h
  | cons e before =>
    obtain ⟨time, what⟩ := e
    cases what with
    | applied packet => exact ⟨time, packet, before, rfl, h⟩
    | _ => cases h

/-- A PUBACK is given to the transport as soon as it is owed, and at no other time. -/
def Prompt : List Entry → Prop
  | [] => True
  | e :: past => begunReceipt e.what = owed past ∧ Prompt past

/-- A journal that is prompt was so at every earlier moment. -/
theorem Prompt.of_append {later past : List Entry} (h : Prompt (later ++ past)) : Prompt past := by
  induction later with
  | nil => exact h
  | cons e later ih => exact ih h.2

/-! ### The session owes no PUBACK when it waits -/

section
variable {now : Micros} {p q : Point} {s t : Session}

/-- What a packet asks for is what the session learns from it, and it is not zero. -/
theorem owed_of_interpret {x y : Exchange} {bytes : List UInt8} {received : Received}
    (h : x.interpret now bytes = .ok (received, y)) :
    owed y.journal = received.reply? ∧ owed y.journal ≠ some 0 := by
  obtain ⟨packet, applied, hdecode, happly, rfl⟩ := interpret_ok h
  refine ⟨?_, asksWell_decode bytes packet hdecode⟩
  show asksFor packet = received.reply?
  cases absorbs_of_apply happly <;> rfl

/-- Which PUBACK is owed at a point. Only between a message and its PUBACK is there one: while the
message is judged, and while the PUBACK is about to be sent. What follows if the sending is given up
has to do without one. -/
def OwesAt (id : Option UInt16) : Point → Prop
  | .judging _ _ received => id = received.reply? ∧ id ≠ some 0
  | .sending packet _ otherwise =>
    id = acknowledged packet ∧ id ≠ some 0 ∧ (id = none → OwesAt id otherwise)
  | _ => id = none

/-- The journal is prompt so far, and what is owed fits the point. -/
def Owes (p : Point) (s : Session) : Prop :=
  Prompt s.exchange.journal ∧ OwesAt (owed s.exchange.journal) p

/-- Every move keeps it. Two entries are made where a packet is applied and where a request is taken
up, and neither is between a message and its PUBACK. -/
theorem Move.owes (move : Move now p s q t) (h : Owes p s) : Owes q t := by
  obtain ⟨hprompt, howes⟩ := h
  cases move with
  -- Looking for a packet, nothing is owed. A packet is noted as framed first.
  | apply hframe hpacket =>
    obtain ⟨packet, hjournal, -⟩ := interpret_eq hpacket
    obtain ⟨hreply, hzero⟩ := owed_of_interpret hpacket
    refine ⟨?_, hreply, hzero⟩
    show Prompt _
    rw [hjournal]
    exact ⟨rfl, howes.symm, hprompt⟩
  | skip hframe hpacket hfault => exact ⟨⟨rfl, howes.symm, hprompt⟩, rfl⟩
  | requested hphase hrequest => exact ⟨⟨rfl, howes.symm, hprompt⟩, rfl, nofun, fun _ => rfl⟩
  | acknowledge hreply =>
    obtain ⟨howed, hzero⟩ := howes
    rw [hreply] at howed
    refine ⟨hprompt, howed, hzero, fun hnone => ?_⟩
    rw [howed] at hnone
    cases hnone
  | grantConnack hreply hverdict => exact ⟨hprompt, howes.1.trans hreply⟩
  | grantSuback hreply hverdict => exact ⟨hprompt, howes.1.trans hreply⟩
  | grantPoll hreply => exact ⟨hprompt, howes.1.trans hreply⟩
  | refuse hreply hverdict => exact ⟨hprompt, howes.1.trans hreply⟩
  | pass hreply hverdict => exact ⟨hprompt, howes.1.trans hreply⟩
  | send hfits =>
    refine ⟨⟨?_, hprompt⟩, rfl⟩
    show receiptOf _ = _
    rw [← encodeWithin_eq hfits, receiptOf_encode]
    exact howes.1.symm
  | @sendNot _ packet _ _ hnone =>
    obtain ⟨howed, hzero, hotherwise⟩ := howes
    refine ⟨hprompt, hotherwise ?_⟩
    -- A PUBACK always fits, so it is another packet that is given up.
    cases packet with
    | puback id =>
      have hid : id ≠ 0 := fun h => hzero (by rw [howed, h]; rfl)
      rw [encodeWithin_puback hid] at hnone
      cases hnone
    | _ => exact howed
  | subscribeSend h hfit => exact ⟨hprompt, howes, by rw [howes]; nofun, fun _ => howes⟩
  | pollFarewell h => exact ⟨hprompt, howes, by rw [howes]; nofun, fun _ => howes⟩
  | pollPing h hping hdue => exact ⟨hprompt, howes, by rw [howes]; nofun, fun _ => howes⟩
  | dialed hphase => exact ⟨⟨howes.symm, hprompt⟩, rfl, nofun, fun _ => rfl⟩
  | _ => first
    | exact ⟨hprompt, howes⟩
    | exact ⟨⟨howes.symm, hprompt⟩, rfl⟩

/-- Nothing is owed at the start. -/
theorem owes_start (config : SessionConfig) (now : Micros) :
    Owes .waiting ((Session.new config {}).start now) := ⟨⟨rfl, trivial⟩, rfl⟩

/-- The other tasks neither interpret a packet nor write one. -/
theorem Owes.aside {exchange : Exchange} (haside : Aside s.exchange exchange)
    (h : Owes .waiting s) : Owes .waiting { s with exchange } := by
  refine haside.keeps (P := fun past => Prompt past ∧ owed past = none) ?_ h
  rintro ⟨time, what⟩ past hother ⟨hprompt, howed⟩
  cases what <;> first
    | exact ⟨⟨howed.symm, hprompt⟩, rfl⟩
    | cases hother

/-- A session that gives way has not moved. -/
theorem Owes.yield (h : Owes .waiting s) : Owes .waiting s.yield := by
  rw [Owes, yield_exchange]
  exact h

/-- In every run PUBACKs are given to the transport promptly, and none is owed between two
turns. -/
theorem prompt_run (config : SessionConfig) (ackTimeout now : Micros) (turns : List Turn) :
    Owes .waiting ((System.boot config ackTimeout now).run turns).session :=
  System.invariant (owes_start config now) Move.owes Owes.aside Owes.yield turns

end

/-! ### One connection -/

/-- The bytes that the transport is busy with. -/
def Wire.writing : Wire → Option (List UInt8)
  | .busy (.write bytes) => some bytes
  | _ => none

/-- What is true of the present connection when this PUBACK is owed and the wire stands so. As long
as the connection is not lost, all bytes are written but those that the transport is busy with. -/
def Present (w : Wire) (id : Option UInt16) (connection : List Entry) : Prop :=
  demands connection =
      id.toList ++ ((unwritten connection).bind receiptOf).toList ++ receipts connection ∧
    (¬ w.Ashore → unwritten connection = w.writing)

/-- No wait ends with the transport busy. -/
theorem writing_outcome (call : Call) (reply : Reply) : (outcome call reply).writing = none := by
  unfold outcome
  split <;> rfl

/-- Every entry but a dial keeps it. Where bytes are given to the transport it is idle
(`Wire.Allows`), so all bytes before them are written; where it answers, they are the ones in
question. -/
theorem Present.cons {w : Wire} {e : Entry} {connection : List Entry} {id : Option UInt16}
    (h : Present w id connection) (hallows : w.Allows e.what) (hdials : dials e.what = false)
    (hprompt : begunReceipt e.what = id) :
    Present (w.after e.what) (demandOf e.what) (e :: connection) := by
  obtain ⟨hdemands, hwriting⟩ := h
  subst hprompt
  obtain ⟨time, what⟩ := e
  rw [Present, demands_cons, receipts_cons, hdemands]
  cases what with
  | asked call =>
    cases call with
    | dial remote => cases hdials
    | write bytes =>
      obtain rfl : w = .up := hallows
      rw [show unwritten connection = none from hwriting id]
      exact ⟨by simp [demandOf, doneReceipt, begunReceipt, unwritten], fun _ => rfl⟩
    | read room =>
      obtain rfl : w = .up := hallows
      exact ⟨rfl, fun _ => hwriting id⟩
    -- The other calls come after the loss of the connection.
    | _ => exact ⟨rfl, fun hopen => absurd trivial hopen⟩
  | answered call reply =>
    obtain rfl : w = .busy call := hallows
    cases call with
    | write bytes =>
      cases reply with
      | written ok =>
        cases ok with
        | true =>
          rw [show unwritten connection = some bytes from hwriting id]
          exact ⟨rfl, fun _ => rfl⟩
        | false => exact ⟨rfl, fun hopen => absurd trivial hopen⟩
      | _ => exact ⟨rfl, fun hopen => absurd trivial hopen⟩
    | dial remote => exact ⟨rfl, fun _ => (hwriting id).trans (writing_outcome _ _).symm⟩
    | read room => exact ⟨rfl, fun _ => (hwriting id).trans (writing_outcome _ _).symm⟩
    | _ => exact ⟨rfl, fun hopen => absurd trivial hopen⟩
  | applied packet => exact ⟨by simp [begunReceipt, doneReceipt, unwritten], hwriting⟩
  | _ => exact ⟨rfl, hwriting⟩

/-- The lists of a connection agree, but for a PUBACK that was given to the transport and not
written. -/
def Balanced (connection : List Entry) : Prop :=
  demands connection = ((unwritten connection).bind receiptOf).toList ++ receipts connection

/-- All connections up to now: the last one may go on, those before it are over. -/
def Accounted (w : Wire) (id : Option UInt16) : List (List Entry) → Prop
  | [] => True
  | connection :: earlier => Present w id connection ∧ ∀ other ∈ earlier, Balanced other

/-- At a moment at which nothing is owed, all connections balance. -/
theorem Accounted.balanced {w : Wire} {all : List (List Entry)} (h : Accounted w none all) :
    ∀ connection ∈ all, Balanced connection := by
  cases all with
  | nil => simp
  | cons connection earlier => exact List.forall_mem_cons.mpr ⟨h.1.1, h.2⟩

/-- The lists of all connections agree on a journal that is prompt and orderly. By induction from
its oldest entry: a dial closes the account of the connection before it and begins an empty one. -/
theorem accounted_of_prompt {past : List Entry} (horderly : Orderly past) (hprompt : Prompt past) :
    Accounted (wire past) (owed past) (connections past) := by
  induction past with
  | nil => trivial
  | cons e past ih =>
    obtain ⟨hallows, horderly⟩ := horderly
    obtain ⟨howed, hprompt⟩ := hprompt
    have hpast := ih horderly hprompt
    rw [connections]
    split
    · -- A dial begins another connection, and it is no time to write a PUBACK.
      rename_i hdials
      obtain ⟨time, what⟩ := e
      cases what with
      | asked call =>
        cases call with
        | dial remote =>
          rw [← howed] at hpast
          exact ⟨⟨rfl, fun _ => rfl⟩, hpast.balanced⟩
        | _ => cases hdials
      | _ => cases hdials
    · rename_i hdials
      cases hall : connections past with
      | nil => trivial
      | cons connection earlier =>
        rw [hall] at hpast
        exact ⟨hpast.1.cons hallows (by simpa using hdials) howed, hpast.2⟩

/-! ### Every run -/

/-- In every run:

1. On each connection the messages that asked for a PUBACK, in their order, are those whose
   PUBACK was written, and then at most one more: its PUBACK is what was last given to the
   transport, which is still busy with it or has failed.
2. After such a message is interpreted, the next thing that happens is that its PUBACK is given to
   the transport. No turn ends before.
3. A PUBACK is given to the transport only then. So no other message is acknowledged. -/
theorem receipts_law (config : SessionConfig) (ackTimeout now : Micros) (turns : List Turn) :
    let journal := ((System.boot config ackTimeout now).run turns).journal
    (∀ connection ∈ connections journal,
      demands connection =
        ((unwritten connection).bind receiptOf).toList ++ receipts connection) ∧
    (∀ later time packet id past, journal = later ++ ⟨time, .applied packet⟩ :: past →
      asksFor packet = some id →
        ∃ after time',
          later = after ++ [⟨time', .asked (.write (Packet.puback id).encode)⟩]) ∧
    (∀ later time bytes id past, journal = later ++ ⟨time, .asked (.write bytes)⟩ :: past →
      receiptOf bytes = some id →
        ∃ time' packet before,
          past = ⟨time', .applied packet⟩ :: before ∧ asksFor packet = some id) := by
  intro journal
  obtain ⟨hprompt, howed⟩ : Prompt journal ∧ owed journal = none :=
    prompt_run config ackTimeout now turns
  have horderly : Orderly journal := (controlled_run config ackTimeout now turns).1
  refine ⟨?_, ?_, ?_⟩
  · have haccounted := accounted_of_prompt horderly hprompt
    rw [howed] at haccounted
    exact haccounted.balanced
  · intro later time packet id past hjournal hasks
    rcases List.eq_nil_or_concat later with rfl | ⟨after, e, rfl⟩
    · -- The message is not the last entry, since its PUBACK would be owed.
      rw [hjournal, List.nil_append] at howed
      exact absurd (hasks.symm.trans howed) (Option.some_ne_none id)
    · rw [hjournal, List.concat_eq_append, List.append_assoc] at hprompt
      have hnext : begunReceipt e.what = some id := hprompt.of_append.1.trans hasks
      refine ⟨after, e.time, ?_⟩
      rw [List.concat_eq_append, ← of_begunReceipt hnext]
  · intro later time bytes id past hjournal hreceipt
    rw [hjournal] at hprompt
    exact of_owed (hprompt.of_append.1.symm.trans hreceipt)

/-- A PUBLISH of quality of service 1 with the id 7 and the topic "t". -/
def messageSeven : List UInt8 := [0x32, 5, 0, 1, 0x74, 0, 7]

/-- Two messages with the same id in one read. The second waits until the first is acknowledged,
and its PUBACK is not written yet. -/
example :
    let turns := opening ++
      [.reply (.received (some (messageSeven ++ messageSeven))), .reply (.written true), .begin]
    let journal := ((System.boot plainConfig (seconds 4) 0).run turns).journal
    (connections journal).map (fun connection => (demands connection, receipts connection)) =
      [([7, 7], [7])] := by
  decide +kernel

end WeatherStation.Proofs.Mqtt
